import PatternSync.Text.Digits
import PatternSync.Yaml.Spot

/-!
# Tags, anchors and directives

A tag says what kind of value a node is. It is spelt in full, or by a handle and what follows it;
directives in front of a document give the version of the format and introduce handles.
-/

namespace PatternSync.Yaml

open PatternSync.Text

/-- A tag as it is spelt. A tag that is spelt in full has no handle. -/
structure TagName where
  handle : String
  suffix : String
  deriving DecidableEq

/-- A line in front of a document. -/
inductive Directive where
  | version (major minor : Nat)
  /-- What a handle stands for. -/
  | handle (name start : String)
  deriving DecidableEq

namespace Reader

/-! ## Names -/

/-- Whether the character may follow the name of an anchor without a gap. -/
def followsName (c : Char) : Bool :=
  "?:,]\x7d%@".toList.contains c || c.toNat = 96

/-- The name of an anchor, behind its sign. -/
def anchorName : Reader String := do
  skip 1
  let name ← takeWhile isNameChar
  let s ← get
  if name.isEmpty || !(endsWord s.rest || s.sees followsName) then failure
  return String.ofList name

/-! ## Parts of tags -/

/-- Whether the character may stand in a tag, spelt in full or not. -/
def isTagChar (inFull : Bool) (c : Char) : Bool :=
  isNameChar c || ";/?:@&=+$.%!~*'()".toList.contains c || (inFull && ",[]".toList.contains c)

/-- A byte by two digits behind a percent sign. -/
def octet : Reader Nat := do
  match (← get).rest with
  | '%' :: a :: b :: _ =>
    let high ← hexValue? a
    let low ← hexValue? b
    skip 3
    return 16 * high + low
  | _ => failure

/-- A byte of a character other than its first. -/
def laterOctet : Reader Nat := do
  let n ← octet
  if n / 64 = 2 then return n % 64 else failure

def octets : Reader Char := do
  let n ← octet
  if n < 0x80 then return Char.ofNat n
  if n / 32 = 6 then return Char.ofNat (n % 32 * 64 + (← laterOctet))
  if n / 16 = 14 then
    return Char.ofNat ((n % 16 * 64 + (← laterOctet)) * 64 + (← laterOctet))
  if n / 8 = 30 then
    return Char.ofNat
      (((n % 8 * 64 + (← laterOctet)) * 64 + (← laterOctet)) * 64 + (← laterOctet))
  failure

def tagChars (inFull : Bool) : Nat → List Char → Reader String
  | 0, _ => failure
  | steps + 1, done => do
    match (← get).rest with
    | c :: _ =>
      if c = '%' then tagChars inFull steps ((← octets) :: done)
      else if isTagChar inFull c then do skip 1; tagChars inFull steps (c :: done)
      else return String.ofList done.reverse
    | [] => return String.ofList done.reverse

/-- The end of a tag, or a tag in full. -/
def tagText (inFull : Bool) : Reader String := do
  let text ← tagChars inFull (← get).steps []
  if text = "" then failure
  return text

/-- A handle, from its exclamation mark on to the next one. That may be missing if what stands
there is the start of a tag without a handle. -/
def handle : Reader (List Char) := do
  char '!'
  let name ← takeWhile isNameChar
  if ← sees (· == '!') then
    skip 1
    return '!' :: name ++ ['!']
  return '!' :: name

/-- Whether these characters are a handle with a name or with an end. -/
def isFullHandle (cs : List Char) : Bool :=
  1 < cs.length && cs.getLast? == some '!'

def fullTag : Reader TagName := do
  skip 2
  let suffix ← tagText true
  char '>'
  return { handle := "", suffix }

/-- A tag that starts with a handle. One exclamation mark alone is a tag in full. -/
def shortTag : Reader TagName := do
  let start ← handle
  if isFullHandle start then
    return { handle := String.ofList start, suffix := ← tagText false }
  let suffix := String.ofList (start.drop 1) ++ (← tagChars false (← get).steps [])
  return if suffix = "" then { handle := "", suffix := "!" } else { handle := "!", suffix }

/-- A tag, from its exclamation mark on. -/
def tag (bracketed : Bool) : Reader TagName := do
  let found ← match (← get).rest with
    | '!' :: '<' :: _ => fullTag
    | _ => shortTag
  let s ← get
  if !(endsWord s.rest || (bracketed && s.sees (· == ','))) then failure
  return found

/-! ## Directives -/

def versionNumber : Reader Nat := do
  let digits ← takeWhile Char.isDigit
  if digits.isEmpty || 9 < digits.length then failure
  return digitsValue digits

def version : Reader Directive := do
  let major ← versionNumber
  char '.'
  return .version major (← versionNumber)

def handleDirective : Reader Directive := do
  let name ← handle
  if !(name = ['!'] || isFullHandle name) || !(← sees isBlank) then failure
  skipWhile isBlank
  let start ← tagText true
  if !endsWord (← get).rest then failure
  return .handle (String.ofList name) start

/-- A directive, from its percent sign on up to the next line. -/
def directive : Reader Directive := do
  skip 1
  let name ← takeWhile isNameChar
  if !endsWord (← get).rest then failure
  skipWhile isBlank
  let found ← match String.ofList name with
    | "YAML" => version
    | "TAG" => handleDirective
    | _ => failure
  restOfLine
  return found

end Reader

end PatternSync.Yaml
