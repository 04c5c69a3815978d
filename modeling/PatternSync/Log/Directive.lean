import PatternSync.Log.Line
import PatternSync.Text.Alphanumeric
import PatternSync.Text.Blank
import PatternSync.Text.Decimal
import PatternSync.Text.Regular

/-!
# Log directives

A directive says which lines of a part of the program are kept: `target=level`, or one of both
alone. In brackets it may name a span of work and, in braces, a field; such a directive concerns
single lines only if it names a field that lines have, and no span and no value.

Blanks around a directive do not count when it is taken apart, but its parts are cut out of the text
as it stands, at the places that they would have without the blanks.
-/

namespace PatternSync

open Text

/-- The least level of the lines that are kept, or none if all are dropped. -/
abbrev LogThreshold := Option LogLevel

/-- What to keep. -/
structure LogDirective where
  /-- The start of the targets that it concerns; without one it concerns all. -/
  target : Option String := none
  /-- A field that lines have to have. -/
  field : Option String := none
  /-- Whether it is about spans of work only. -/
  forSpans : Bool := false
  threshold : LogThreshold
  deriving DecidableEq

/-- Why a text is no directive. -/
inductive DirectiveFault where
  | malformed
  /-- A cut would go through a character. -/
  | withinCharacter
  deriving DecidableEq, Repr

namespace LogDirective

/-! ## Thresholds -/

/-- The names of the thresholds, each at the place of its number. -/
def thresholdNames : List (String × LogThreshold) :=
  [ ("off", none), ("error", some .error), ("warn", some .warn), ("info", some .info),
    ("debug", some .debug), ("trace", some .trace) ]

/-- The number that digits spell, behind a plus sign or not. -/
def number? (s : String) : Option Nat :=
  let digits := match s.toList with
    | '+' :: rest => rest
    | cs => cs
  if digits ≠ [] ∧ digits.all Char.isDigit then some (digitsValue digits) else none

/-- The threshold with this name, in any case, or with this number. -/
def threshold? (s : String) : Option LogThreshold :=
  match number? s with
  | some n => thresholdNames[n]?.map Prod.snd
  | none => (thresholdNames.find? fun (name, _) => name = s.map Char.toLower).map Prod.snd

/-! ## Taking a directive apart -/

/-- A directive on the way to be read: the text as it stands, and of the text without blanks around
it the rest and the number of bytes in front. -/
structure Progress where
  whole : List Char
  rest : List Char
  offset : Nat

abbrev Reader := StateT Progress (Except DirectiveFault)

/-- Drops so many bytes, or nothing if that would cut a character. -/
def dropBytes? : Nat → List Char → Option (List Char)
  | 0, cs => some cs
  | _ + 1, [] => none
  | n + 1, c :: cs => if c.utf8Size ≤ n + 1 then dropBytes? (n + 1 - c.utf8Size) cs else none

def byteCount (cs : List Char) : Nat :=
  cs.foldl (fun n c => n + c.utf8Size) 0

/-- What stands between two offsets of the text. -/
def cut (whole : List Char) (start stop : Nat) : Except DirectiveFault (List Char) :=
  match dropBytes? start whole, dropBytes? stop whole with
  | some part, some behind => .ok (part.take (part.length - behind.length))
  | _, _ => .error .withinCharacter

/-- Drops one character of one byte. -/
def skip : Reader Unit :=
  modify fun p => { p with rest := p.rest.drop 1, offset := p.offset + 1 }

/-- The part in front of the first character of a kind, which has to be there. -/
def upTo (ends : Char → Bool) : Reader (List Char) := do
  let p ← get
  let run := p.rest.takeWhile (!ends ·)
  let behind := p.rest.drop run.length
  if behind.isEmpty then throw .malformed
  let stop := p.offset + byteCount run
  set { p with rest := behind, offset := stop }
  cut p.whole p.offset stop

/-- The threshold behind an equals sign, up to the end of the text; without one everything is
kept. -/
def readLevel : Reader LogThreshold := do
  match (← get).rest with
  | [] => return some .trace
  | '=' :: _ =>
    skip
    let p ← get
    let text ← cut p.whole p.offset (byteCount p.whole)
    if text.isEmpty then return some .trace
    match threshold? (String.ofList text) with
    | some threshold => return threshold
    | none => throw .malformed
  | _ => throw .malformed

/-- Whether a field may have such a value: a number behind a plus sign, or a regular expression. -/
def isFieldValue (value : List Char) : Bool :=
  isRegularExpression value
    || match value with
      | '+' :: rest =>
        (Decimal.ofChars? rest).isSome
          || ["inf", "infinity", "nan"].contains (String.ofList (rest.map Char.toLower))
      | _ => false

/-- A field in braces, with a value or without: its name, and whether it has a value. What stands
behind another equals sign does not count. -/
def readField : Reader (String × Bool) := do
  skip
  let text ← upTo (· == '}')
  if text.isEmpty then throw .malformed
  let name := text.takeWhile (· ≠ '=')
  let value := (text.drop (name.length + 1)).takeWhile (· ≠ '=')
  if !isFieldValue value then throw .malformed
  skip
  return (String.ofList name, text.contains '=')

/-- A span of work in brackets, which may be left out in front of a field. -/
def readSpan (target : Option String) : Reader LogDirective := do
  skip
  let name ← upTo fun c => c == ']' || c == '{'
  let (field, forSpans) ← match (← get).rest with
    | '{' :: _ => do
      let (field, hasValue) ← readField
      pure (some field, hasValue || !name.isEmpty)
    | _ => pure (none, true)
  match (← get).rest with
  | ']' :: _ => skip
  | _ => throw .malformed
  return { target, field, forSpans, threshold := ← readLevel }

/-- A level or, if it is none, a target of which everything is kept. -/
def ofWord (word : String) : LogDirective :=
  match threshold? word with
  | some threshold => { threshold }
  | none => { target := some word, threshold := some .trace }

def isStart (c : Char) : Bool :=
  c == '-' || c == ':' || c == '_' || isAlphanumeric c

def endsTarget (c : Char) : Bool :=
  c == '=' || c == '['

def read : Reader LogDirective := do
  match (← get).rest with
  | [] => throw .malformed
  | '[' :: _ => readSpan none
  | c :: _ =>
    let p ← get
    if !isStart c then throw .malformed
    if !p.rest.any endsTarget then return ofWord (String.ofList p.whole)
    let target := some (String.ofList (← upTo endsTarget))
    if (← get).rest.head? = some '[' then readSpan target
    else return { target, threshold := ← readLevel }

def ofText (s : String) : Except DirectiveFault LogDirective :=
  (read.run { whole := s.toList, rest := (trim s).toList, offset := 0 }).map Prod.fst

/-! ## What it concerns -/

def lineField : String :=
  "message"

def concerns (d : LogDirective) (target : String) : Bool :=
  !d.forSpans && d.target.all (fun start => start.toList.isPrefixOf target.toList)
    && d.field.all (· == lineField)

/-- How special the directive is: first by the length of its target, then by its field. -/
def rank (d : LogDirective) : Nat :=
  2 * (d.target.elim 0 fun start => start.utf8ByteSize + 1) + (if d.field.isSome then 1 else 0)

end LogDirective

end PatternSync
