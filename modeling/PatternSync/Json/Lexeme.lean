import PatternSync.Json.Basic
import PatternSync.Text.Digits

/-!
# Words, numbers and strings of a JSON text

Readers for the parts of a JSON text that hold no other values. A reader keeps the number of bytes
in front of it, so that a problem can be reported where it was noticed. Numbers and strings that
are of no interest are skipped: their form is still looked at, but not what they stand for, so that
a number may be too great and half a surrogate pair may stand alone.
-/

namespace PatternSync

open Text

/-- What can be wrong with the form of a JSON text. -/
inductive SyntaxProblem where
  | endInList
  | endInObject
  | endInString
  | endInValue
  | colonMissing
  | listCommaMissing
  | objectCommaMissing
  | wordExpected
  | valueExpected
  | badEscape
  | badNumber
  | numberTooGreat
  | controlInString
  | keyNoString
  | loneSurrogate
  | escapeCutShort
  | trailingComma
  | trailingText
  | tooDeep
  deriving DecidableEq, Repr

namespace SyntaxProblem

def message : SyntaxProblem → String
  | endInList => "EOF while parsing a list"
  | endInObject => "EOF while parsing an object"
  | endInString => "EOF while parsing a string"
  | endInValue => "EOF while parsing a value"
  | colonMissing => "expected `:`"
  | listCommaMissing => "expected `,` or `]`"
  | objectCommaMissing => "expected `,` or `\x7d`"
  | wordExpected => "expected ident"
  | valueExpected => "expected value"
  | badEscape => "invalid escape"
  | badNumber => "invalid number"
  | numberTooGreat => "number out of range"
  | controlInString => "control character (\\u0000-\\u001F) found while parsing a string"
  | keyNoString => "key must be a string"
  | loneSurrogate => "lone leading surrogate in hex escape"
  | escapeCutShort => "unexpected end of hex escape"
  | trailingComma => "trailing comma"
  | trailingText => "trailing characters"
  | tooDeep => "recursion limit exceeded"

end SyntaxProblem

/-- The characters still to read, the number of bytes in front of them, and that of the whole
text. -/
structure Cursor where
  rest : List Char
  offset : Nat
  size : Nat
  deriving Repr, Inhabited

namespace Cursor

def ofText (s : String) : Cursor :=
  { rest := s.toList, offset := 0, size := s.utf8ByteSize }

/-- No more steps than this can each read a character. -/
def steps (c : Cursor) : Nat :=
  c.size - c.offset + 1

end Cursor

/-- A problem and the number of bytes read when it was noticed. -/
structure SyntaxFault where
  problem : SyntaxProblem
  offset : Nat
  deriving DecidableEq, Repr

/-- A reader of a part of a JSON text. -/
abbrev Scan := StateT Cursor (Except SyntaxFault)

namespace Scan

/-! ## Characters -/

/-- Fails at the place reached. -/
def fail {α : Type} (problem : SyntaxProblem) : Scan α := do
  throw { problem, offset := (← get).offset }

/-- Fails one byte further on, or at the end of the text. -/
def failNext {α : Type} (problem : SyntaxProblem) : Scan α := do
  let c ← get
  throw { problem, offset := if c.rest.isEmpty then c.offset else c.offset + 1 }

/-- No more steps than this can each read a character. -/
def steps : Scan Nat := do
  return (← get).steps

/-- The next character, which stays. -/
def peek : Scan (Option Char) := do
  return (← get).rest.head?

def sees (kind : Char → Bool) : Scan Bool := do
  return (← get).rest.head?.any kind

def skip : Scan Unit :=
  modify fun c =>
    match c.rest with
    | [] => c
    | x :: rest => { c with rest, offset := c.offset + x.utf8Size }

/-- The blanks between the parts of a JSON text. -/
def isGap (c : Char) : Bool :=
  c == ' ' || c == '\n' || c == '\t' || c == '\r'

/-- The characters behind blanks, and the number of bytes in front of them. Blanks have one byte
each. -/
def behindGap : List Char → Nat → List Char × Nat
  | c :: rest, offset => if isGap c then behindGap rest (offset + 1) else (c :: rest, offset)
  | [], offset => ([], offset)

def gap : Scan Unit :=
  modify fun c =>
    let (rest, offset) := behindGap c.rest c.offset
    { c with rest, offset }

def word : List Char → Scan Unit
  | [] => return
  | c :: more => do
    match ← peek with
    | none => fail .endInValue
    | some d => if d = c then skip; word more else failNext .wordExpected

/-! ## Numbers -/

def digits : Scan (List Nat) := do
  let c ← get
  let run := c.rest.takeWhile Char.isDigit
  set { c with rest := c.rest.drop run.length, offset := c.offset + run.length }
  return run.map digitValue

/-- Whether the next character starts an exponent, which it then drops. -/
def startsExponent : Scan Bool := do
  if ← sees fun c => c == 'e' || c == 'E' then
    skip
    return true
  else return false

/-- Drops a sign; whether it was a minus. -/
def sign : Scan Bool := do
  match ← peek with
  | some '-' => skip; return true
  | some '+' => skip; return false
  | _ => return false

def exponentLimit : Nat := 2147483647

/-- The number of digits after which their number, continued from `n`, is beyond the greatest
exponent. -/
def digitsBeyond (n : Nat) : List Nat → Option Nat
  | [] => none
  | d :: ds =>
    if exponentLimit < 10 * n + d then some 1 else (digitsBeyond (10 * n + d) ds).map (· + 1)

/-- The exponent of a number, behind its `e`. With one beyond the limit a number is too great, or
else zero; the former is noticed at the digit that leads there. -/
def exponent (isZero : Bool) : Scan Int := do
  let negative ← sign
  if !(← sees Char.isDigit) then
    if (← peek).isNone then fail .endInValue else failNext .badNumber
  let start := (← get).offset
  let ds ← digits
  match digitsBeyond 0 ds with
  | some count =>
    if !negative && !isZero then throw { problem := .numberTooGreat, offset := start + count }
    return -exponentLimit
  | none =>
    let n : Nat := ds.foldl (fun n d => 10 * n + d) 0
    return if negative then -(n : Int) else n

def number : Scan Number := do
  let negative ← match ← peek with
    | some '-' => do skip; pure true
    | _ => pure false
  let whole ← match ← peek with
    | none => fail .endInValue
    | some '0' =>
      skip
      if ← sees Char.isDigit then failNext .badNumber else pure [0]
    | some c => if c.isDigit then digits else failNext .badNumber
  let value ← match ← peek with
    | some '.' =>
      skip
      let fraction ← digits
      if fraction.isEmpty then
        if (← peek).isNone then failNext .endInValue else failNext .badNumber
      let power ← if ← startsExponent then exponent ((whole ++ fraction).all (· == 0)) else pure 0
      pure (Number.ofDecimal negative whole fraction power)
    | _ =>
      if ← startsExponent then
        pure (Number.ofDecimal negative whole [] (← exponent (whole.all (· == 0))))
      else pure (Number.ofDigits negative whole)
  match value with
  | some n => return n
  | none => fail .numberTooGreat

def skipDigits : Scan Unit := do
  if (← digits).isEmpty then failNext .badNumber

def skipNumber : Scan Unit := do
  if ← sees (· == '-') then skip
  if ← sees (· == '0') then
    skip
    if ← sees Char.isDigit then failNext .badNumber
  else skipDigits
  if ← sees (· == '.') then
    skip
    skipDigits
  if ← startsExponent then
    discard sign
    skipDigits

/-! ## Strings -/

/-- Four digits in base sixteen. -/
def fourHex : Scan Nat := do
  let c ← get
  if c.size < c.offset + 4 then throw { problem := .endInString, offset := c.size }
  match (c.rest.take 4).mapM hexValue? with
  | some ds =>
    set { c with rest := c.rest.drop 4, offset := c.offset + 4 }
    return ds.foldl (fun n d => 16 * n + d) 0
  | none => throw { problem := .badEscape, offset := c.offset + 4 }

/-- The rest of an escape by number, behind its `u`. Numbers above sixteen bits take two
escapes. -/
def numberedEscape : Scan Char := do
  let n ← fourHex
  if 0xDC00 ≤ n ∧ n ≤ 0xDFFF then fail .loneSurrogate
  if n < 0xD800 ∨ 0xDBFF < n then return Char.ofNat n
  for c in ['\\', 'u'] do
    match ← peek with
    | none => fail .endInString
    | some d => if d = c then skip else failNext .escapeCutShort
  let low ← fourHex
  if low < 0xDC00 ∨ 0xDFFF < low then fail .loneSurrogate
  return Char.ofNat (0x10000 + (n - 0xD800) * 0x400 + (low - 0xDC00))

/-- What the letters behind a backslash stand for. -/
def escapes : List (Char × Char) :=
  [('"', '"'), ('\\', '\\'), ('/', '/'), ('b', '\x08'), ('f', '\x0c'), ('n', '\n'), ('r', '\r'),
    ('t', '\t')]

/-- The rest of an escape, behind its backslash. -/
def escape : Scan Char := do
  match ← peek with
  | none => fail .endInString
  | some c =>
    match escapes.lookup c with
    | some d => skip; return d
    | none => if c = 'u' then do skip; numberedEscape else failNext .badEscape

/-- The characters of a string up to its closing quote; each step reads one of them. -/
def stringRest : Nat → List Char → Scan String
  | 0, _ => fail .endInString
  | steps + 1, done => do
    match ← peek with
    | none => fail .endInString
    | some '"' => skip; return String.ofList done.reverse
    | some '\\' => skip; stringRest steps ((← escape) :: done)
    | some c =>
      if c.toNat < 0x20 then failNext .controlInString
      else do skip; stringRest steps (c :: done)

/-- A string, from its opening quote on. -/
def string : Scan String := do
  skip
  stringRest (← steps) []

/-- Skips the rest of an escape, behind its backslash. -/
def skipEscape : Scan Unit := do
  match ← peek with
  | none => fail .endInString
  | some c =>
    if c = 'u' then
      skip
      discard fourHex
    else if (escapes.lookup c).isSome then skip
    else failNext .badEscape

/-- Skips the characters of a string up to its closing quote. -/
def skipStringRest : Nat → Scan Unit
  | 0 => fail .endInString
  | steps + 1 => do
    match ← peek with
    | none => fail .endInString
    | some '"' => skip
    | some '\\' => skip; skipEscape; skipStringRest steps
    | some c => if c.toNat < 0x20 then fail .controlInString else do skip; skipStringRest steps

/-- Skips a string, from its opening quote on. -/
def skipString : Scan Unit := do
  skip
  skipStringRest (← steps)

/-! ## Values without parts -/

/-- A value other than a list or an object. -/
def plain : Scan Json := do
  match ← peek with
  | none => fail .endInValue
  | some c =>
    if c = '"' then return .str (← string)
    else if c = 'n' then word "null".toList; return .null
    else if c = 't' then word "true".toList; return .bool true
    else if c = 'f' then word "false".toList; return .bool false
    else if c = '-' ∨ c.isDigit then return .num (← number)
    else failNext .valueExpected

/-- Skips a value other than a list or an object. -/
def skipPlain : Scan Unit := do
  if ← sees (· == '"') then skipString
  else if ← sees fun c => c == '-' || c.isDigit then skipNumber
  else discard plain

end Scan

end PatternSync
