/-!
# Places in a YAML text

In a YAML text it matters how far to the right something stands. A place knows its column and its
line, and a reader of a part of the text moves on from one place to the next.
-/

namespace PatternSync.Yaml

/-! ## Kinds of characters -/

/-- Whether the character is a blank within a line. -/
def isBlank (c : Char) : Bool :=
  c == ' ' || c == '\t'

def isBreak (c : Char) : Bool :=
  let n := c.toNat
  n == 0x0A || n == 0x0D || n == 0x85 || n == 0x2028 || n == 0x2029

/-- Whether the character parts words. -/
def isGap (c : Char) : Bool :=
  isBlank c || isBreak c

/-- Whether the character may stand in the name of an anchor. -/
def isNameChar (c : Char) : Bool :=
  c.isAlphanum || c == '_' || c == '-'

/-- Whether the character may stand anywhere in a text. -/
def isAllowed (c : Char) : Bool :=
  let n := c.toNat
  n == 0x09 || n == 0x0A || n == 0x0D || (0x20 ≤ n && n ≤ 0x7E) || n == 0x85
    || (0xA0 ≤ n && n ≤ 0xFFFD) || 0x10000 ≤ n

/-- The mark that tells the order of bytes. -/
def byteOrderMark : Char := '\uFEFF'

/-- Whether a word ends in front of these characters. -/
def endsWord (cs : List Char) : Bool :=
  cs.head?.all isGap

/-- Whether these characters start with a line of its own that ends or starts a document. -/
def startsMark : List Char → Bool
  | '-' :: '-' :: '-' :: rest => endsWord rest
  | '.' :: '.' :: '.' :: rest => endsWord rest
  | _ => false

/-! ## Places -/

/-- The characters behind a place, the number of those in front of it, and where it stands. -/
structure Spot where
  rest : List Char
  index : Nat := 0
  line : Nat := 0
  column : Nat := 0

namespace Spot

/-- The place behind so many characters of the line. -/
def skip (s : Spot) (count : Nat) : Spot :=
  { s with
    rest := s.rest.drop count
    index := s.index + count
    column := s.column + count }

/-- The place behind the characters of a kind that breaks no line. -/
def skipWhile (s : Spot) (kind : Char → Bool) : Spot :=
  s.skip (s.rest.takeWhile kind).length

/-- The place in the next line that is `count` characters further on. -/
def newLine (s : Spot) (count : Nat) : Spot :=
  { rest := s.rest.drop count, index := s.index + count, line := s.line + 1, column := 0 }

/-- The break that ends the line and the place behind it. Of the breaks only those by number 2028
and 2029 are told apart from the usual one. -/
def break? (s : Spot) : Option (Char × Spot) :=
  match s.rest with
  | '\r' :: '\n' :: _ => some ('\n', s.newLine 2)
  | c :: _ =>
    if isBreak c then some (if c.toNat < 0x2028 then '\n' else c, s.newLine 1) else none
  | [] => none

def sees (s : Spot) (kind : Char → Bool) : Bool :=
  s.rest.head?.any kind

/-- Whether a line starts here that ends or starts a document. -/
def atMark (s : Spot) : Bool :=
  s.column == 0 && startsMark s.rest

/-- No more steps than this can each read a character. -/
def steps (s : Spot) : Nat :=
  s.rest.length + 1

end Spot

/-! ## Readers -/

/-- A reader of a part of a text. -/
abbrev Reader := StateT Spot Option

namespace Reader

/-- Drops so many characters of the line. -/
def skip (count : Nat) : Reader Unit :=
  modify (·.skip count)

/-- Drops the characters of a kind that breaks no line. -/
def skipWhile (kind : Char → Bool) : Reader Unit :=
  modify (·.skipWhile kind)

def sees (kind : Char → Bool) : Reader Bool := do
  return (← get).sees kind

def char (c : Char) : Reader Unit := do
  if ← sees (· == c) then skip 1 else failure

/-- The leading characters of a kind that breaks no line. -/
def takeWhile (kind : Char → Bool) : Reader (List Char) := do
  let found := (← get).rest.takeWhile kind
  skip found.length
  return found

/-- Drops blanks, a comment and the break behind them, which have to fill the line. -/
def restOfLine : Reader Unit := do
  skipWhile isBlank
  if ← sees (· == '#') then skipWhile (!isBreak ·)
  let s ← get
  match s.break? with
  | some (_, next) => set next
  | none => if s.rest.isEmpty then return else failure

end Reader

end PatternSync.Yaml
