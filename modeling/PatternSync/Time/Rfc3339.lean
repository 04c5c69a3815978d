import PatternSync.Text.Blank
import PatternSync.Text.Digits
import PatternSync.Time.Instant

/-!
# Instants as text

Reading and writing date and time in the style of RFC 3339. The reader is generous: digits may be
left out, blanks may stand before numbers and separators, and `t` or a blank may stand for `T`.
The writer always writes Universal Time, with a fraction of 0, 3, 6 or 9 digits, the fewest that
lose nothing.
-/

namespace PatternSync

open Text

/-- Why a text is no instant. -/
inductive TimeProblem where
  | tooShort
  | outOfRange
  | malformed
  | trailing
  /-- The clock shows a time that no instant within its range has. -/
  | impossible
  deriving DecidableEq, Repr

namespace TimeProblem

def message : TimeProblem → String
  | tooShort => "premature end of input"
  | outOfRange => "input is out of range"
  | malformed => "input contains invalid characters"
  | trailing => "trailing input"
  | impossible => "no possible date and time matching input"

end TimeProblem

namespace Rfc3339

/-- A reader takes what it reads from the front of the characters. -/
abbrev Reader := StateT (List Char) (Except TimeProblem)

/-- Drops the blanks in front. -/
def blanks : Reader Unit :=
  modify trimStart

/-- The leading digits, at least one and, with a limit, at most so many. -/
def digits (limit : Option Nat) : Reader (List Char) := fun cs =>
  match cs with
  | [] => .error .tooShort
  | c :: _ =>
    if c.isDigit then
      let run := (limit.elim cs cs.take).takeWhile Char.isDigit
      .ok (run, cs.drop run.length)
    else .error .malformed

/-- A number after blanks. -/
def number (limit : Option Nat) : Reader Nat := do
  blanks
  return digitsValue (← digits limit)

/-- A number of at most two digits that lies between two bounds. -/
def numberIn (low high : Nat) : Reader Nat := do
  let n ← number (some 2)
  if low ≤ n ∧ n ≤ high then return n else throw .outOfRange

/-- One given character after blanks. -/
def separator (c : Char) : Reader Unit := do
  blanks
  match ← get with
  | [] => throw .tooShort
  | d :: rest => if d = c then set rest else throw .malformed

/-- A year has four digits, or any number of them right after a sign. -/
def anyYear : Reader Int := do
  blanks
  match ← get with
  | '-' :: rest =>
    set rest
    return -(digitsValue (← digits none) : Int)
  | '+' :: rest =>
    set rest
    return (digitsValue (← digits none) : Int)
  | _ => return ((← number (some 4)) : Int)

/-- A year that fits into 32 bits. -/
def year : Reader Int := do
  let y ← anyYear
  if -2147483648 ≤ y ∧ y ≤ 2147483647 then return y else throw .outOfRange

/-- The digits after the point; those beyond the ninth are dropped. -/
def fraction : Reader Nat := do
  match ← get with
  | '.' :: rest =>
    set rest
    let run ← digits (some 9)
    modify (·.dropWhile Char.isDigit)
    return digitsValue run * Nat.pow 10 (9 - run.length)
  | _ => return 0

def twoDigits : Reader (Nat × Nat) := do
  match ← get with
  | [] => throw .tooShort
  | [c] => throw (if c.toNat < 128 then .tooShort else .malformed)
  | c :: d :: rest =>
    if c.isDigit && d.isDigit then
      set rest
      return (digitValue c, digitValue d)
    else throw .malformed

/-- Hours and minutes after a sign, in minutes. -/
def clockOffset : Reader Nat := do
  let (h₁, h₂) ← twoDigits
  modify (·.dropWhile fun c => c == ':' || isBlank c)
  let (m₁, m₂) ← twoDigits
  if 6 ≤ m₁ then throw .outOfRange
  return (10 * h₁ + h₂) * 60 + 10 * m₁ + m₂

/-- How many minutes the clock is ahead of Universal Time. -/
def offset : Reader Int := do
  let cs ← get
  match cs with
  | [] => throw .tooShort
  | c :: rest =>
    if c = 'Z' ∨ c = 'z' then
      set rest
      return 0
    else if (cs.take 3).map Char.toUpper = ['U', 'T', 'C'] then
      set (cs.drop 3)
      return 0
    else if c = '+' then
      set rest
      return ((← clockOffset) : Int)
    else if c = '-' ∨ c = '−' then
      set rest
      return -((← clockOffset) : Int)
    else throw .malformed

/-- The sign between date and time. -/
def dateEnd : Reader Unit := do
  match ← get with
  | [] => throw .tooShort
  | c :: rest => if c = 'T' ∨ c = 't' ∨ c = ' ' then set rest else throw .malformed

/-- Whether the clock can show the year. -/
def inRange (y : Int) : Bool :=
  -262143 ≤ y && y ≤ 262142

/-- The date of the calendar, in a year that the clock can show. -/
def dateIn (y : Int) (m d : Nat) : Except TimeProblem Date :=
  if inRange y then
    match Date.of? y m d with
    | some date => .ok date
    | none => .error .outOfRange
  else .error .outOfRange

/-- Date, time and offset, up to the end of the text. -/
def instant : Reader Instant := do
  let y ← year
  separator '-'
  let m ← numberIn 1 12
  separator '-'
  let d ← numberIn 1 31
  dateEnd
  let hour ← numberIn 0 23
  separator ':'
  let minute ← numberIn 0 59
  separator ':'
  let second ← numberIn 0 60
  let nanos ← fraction
  blanks
  let ahead ← offset
  blanks
  if (← get) ≠ [] then throw .trailing
  let date ← dateIn y m d
  if 1440 ≤ ahead.natAbs then throw .outOfRange
  let t := Instant.ofLocal ahead
    { date
      minute := ⟨(60 * hour + minute) % 1440, Nat.mod_lt _ (by decide)⟩
      second := ⟨second % 61, Nat.mod_lt _ (by decide)⟩
      nanos := ⟨nanos % 1000000000, Nat.mod_lt _ (by decide)⟩ }
  if inRange t.date.year then return t else throw .impossible

end Rfc3339

namespace Instant

def ofText (s : String) : Except TimeProblem Instant :=
  (Rfc3339.instant.run s.toList).map Prod.fst

/-- A year has four digits, and a sign when it lies outside 0 to 9999. -/
def yearText (y : Int) : String :=
  if 0 ≤ y ∧ y ≤ 9999 then padded 4 y.toNat
  else (if y < 0 then "-" else "+") ++ padded 4 y.natAbs

/-- The fraction of a second with the fewest digits out of 0, 3, 6 and 9 that lose nothing. -/
def fractionText (nanos : Nat) : String :=
  if nanos = 0 then ""
  else if nanos % 1000000 = 0 then "." ++ padded 3 (nanos / 1000000)
  else if nanos % 1000 = 0 then "." ++ padded 6 (nanos / 1000)
  else "." ++ padded 9 nanos

/-- The instant in Universal Time. -/
def text (t : Instant) : String :=
  yearText t.date.year ++ "-" ++ padded 2 t.date.month ++ "-" ++ padded 2 t.date.day ++ "T"
    ++ padded 2 (t.minute.val / 60) ++ ":" ++ padded 2 (t.minute.val % 60) ++ ":"
    ++ padded 2 t.second.val ++ fractionText t.nanos.val ++ "Z"

end Instant

end PatternSync
