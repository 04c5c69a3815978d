import PatternSync.Text.Base64
import PatternSync.Text.Blank

/-!
# Certificates as text

Blocks of letters between two lines of dashes, each with a label. The bytes of a block labelled as
a certificate are nested elements, of which only those that make up the frame of a certificate are
looked at.
-/

namespace PatternSync.Text

/-! ## Blocks -/

/-- Bytes between two lines of dashes. -/
structure LabelledBytes where
  label : String
  bytes : List UInt8

/-- What stands in front of the first place where the mark stands, and what stands behind it. -/
def cutAt? (mark : List Char) : List Char → Option (List Char × List Char)
  | [] => if mark.isEmpty then some ([], []) else none
  | c :: rest =>
    if mark.isPrefixOf (c :: rest) then some ([], (c :: rest).drop mark.length)
    else (cutAt? mark rest).map fun (front, behind) => (c :: front, behind)

/-- The lines of a block behind a first paragraph, which holds a name and a value in each line;
nothing if it does not. -/
def behindHeader? (body : List Char) : Option (List Char) :=
  match (cutAt? "\n\n".toList body).or (cutAt? "\r\n\r\n".toList body) with
  | some (header, rest) =>
    if ((String.ofList header).splitOn "\n").all fun line => line = "" || line.contains ':' then
      some rest
    else none
  | none => some body

/-- The block of a label, the text between and the label at its end. -/
def labelledBytes? (label body ending : List Char) : Option LabelledBytes := do
  if label.isEmpty || label ≠ ending then none
  let letters := (← behindHeader? body).filter (!isBlank ·)
  return { label := String.ofList label, bytes := ← base64Bytes? letters }

/-- The blocks of a text; nothing if one of them is malformed. What is no block, or has no end, is
passed over. -/
def blocks? : Nat → List Char → Option (List LabelledBytes)
  | 0, _ => some []
  | steps + 1, cs =>
    let found := do
      let (_, rest) ← cutAt? "-----BEGIN ".toList cs
      let (label, rest) ← cutAt? "-----".toList rest
      let (body, rest) ← cutAt? "-----END ".toList rest
      let (ending, rest) ← cutAt? "-----".toList rest
      return (label, body.dropWhile (" \t\n\r".toList.contains ·), ending, rest)
    match found with
    | none => some []
    | some (label, body, ending, rest) => do
      let block ← labelledBytes? label body ending
      return block :: (← blocks? steps rest)

/-! ## Elements -/

/-- The length that bytes tell, in the shortest form, and the bytes behind it. -/
def elementLength? : List UInt8 → Option (Nat × List UInt8)
  | 0x81 :: a :: rest => if 0x80 ≤ a then some (a.toNat, rest) else none
  | 0x82 :: a :: b :: rest => if a ≠ 0 then some (256 * a.toNat + b.toNat, rest) else none
  | a :: rest => if a < 0x80 then some (a.toNat, rest) else none
  | [] => none

/-- The content of an element with one of these tags, and the bytes behind it. -/
def element? (tag : UInt8) : List UInt8 → Option (List UInt8 × List UInt8)
  | t :: rest => do
    if t ≠ tag then none
    let (length, rest) ← elementLength? rest
    if rest.length < length then none
    return (rest.take length, rest.drop length)
  | [] => none

/-- The bytes behind elements with these tags. -/
def behindElements? : List UInt8 → List UInt8 → Option (List UInt8)
  | [], bytes => some bytes
  | tag :: tags, bytes => do behindElements? tags (← element? tag bytes).2

/-- Whether the bytes have the frame of a certificate: what is certified, the way of signing and
the signature. Certified are a number, the issuer, the span of time, the subject and its key. -/
def isCertificate (bytes : List UInt8) : Bool :=
  (do
    let (whole, behind) ← element? 0x30 bytes
    let (certified, signing) ← element? 0x30 whole
    let rest ← behindElements? [0x30, 0x03] signing
    let versioned := ((element? 0xA0 certified).map Prod.snd).getD certified
    let _ ← behindElements? [0x02, 0x30, 0x30, 0x30, 0x30, 0x30] versioned
    return behind.isEmpty && rest.isEmpty).getD false

/-- Whether every certificate in a text given by its bytes has the frame of one. -/
def hasSoundCertificates (bytes : List UInt8) : Bool :=
  let cs := bytes.map fun b => Char.ofNat b.toNat
  (blocks? cs.length cs).any (·.all fun block =>
    block.label ≠ "CERTIFICATE" || isCertificate block.bytes)

end PatternSync.Text
