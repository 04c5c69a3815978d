import PatternSync.Text.Digits
import PatternSync.Yaml.Spot

/-!
# Texts within a YAML text

A text stands there plain, in quotes, or as a block of lines of its own. Lines of a plain or quoted
text are joined: one break counts as a blank, and of more than one the first does not count.
Blocks are kept as they are, or joined line by line in the same way.
-/

namespace PatternSync.Yaml

open PatternSync.Text

/-! ## Between words -/

/-- What stands between two words: blanks within a line, or breaks. The first break may be
missing if it does not count. -/
inductive Gap where
  | blanks (found : List Char)
  | breaks (first : Option Char) (more : List Char)

namespace Gap

/-- Whether another line has started. -/
def isBreak : Gap → Bool
  | blanks _ => false
  | breaks _ _ => true

/-- The gap with a blank more. Blanks next to breaks do not count. -/
def addBlank (c : Char) : Gap → Gap
  | blanks found => blanks (found ++ [c])
  | g => g

def addBreak (c : Char) : Gap → Gap
  | blanks _ => breaks (some c) []
  | breaks first more => breaks first (more ++ [c])

def text : Gap → List Char
  | blanks found => found
  | breaks none more => more
  | breaks (some '\n') [] => [' ']
  | breaks (some '\n') more => more
  | breaks (some c) more => c :: more

end Gap

namespace Reader

/-- The blanks and breaks here, after those of `gap`. In a line after the first, no tab may stand
in front of the column `margin`. -/
def gap (margin : Nat) : Nat → Gap → Reader Gap
  | 0, g => return g
  | steps + 1, g => do
    let s ← get
    match s.break?, s.rest with
    | some (c, next), _ =>
      set next
      gap margin steps (g.addBreak c)
    | none, c :: _ =>
      if isBlank c then
        if g.isBreak && c == '\t' && s.column < margin then failure
        skip 1
        gap margin steps (g.addBlank c)
      else return g
    | none, [] => return g

/-! ## Plain texts -/

/-- The characters up to the end of a plain word. A colon in front of a gap ends it, and so does,
between brackets, what has a meaning there. -/
def plainWord? (bracketed : Bool) : List Char → Option (List Char)
  | [] => some []
  | c :: rest =>
    if isGap c then some []
    else if bracketed && c == ':' && rest.head?.any (",?[]\x7b\x7d".toList.contains ·) then none
    else if c == ':' && endsWord rest then some []
    else if bracketed && ",[]\x7b\x7d".toList.contains c then some []
    else (plainWord? bracketed rest).map (c :: ·)

example : plainWord? false "a:b: c".toList = some "a:b".toList := by decide

example : plainWord? true "a,b".toList = some "a".toList := by decide

/-- The rest of a plain text behind `done` and a gap, and whether the gap behind the text reaches
into another line. -/
def plainRest (margin : Nat) (bracketed : Bool) :
    Nat → List Char → Gap → Reader (String × Bool)
  | 0, done, between => return (String.ofList done, between.isBreak)
  | steps + 1, done, between => do
    let s ← get
    if s.atMark || s.sees (· == '#') then return (String.ofList done, between.isBreak)
    let word ← plainWord? bracketed s.rest
    skip word.length
    let (done, between) :=
      if word.isEmpty then (done, between) else (done ++ between.text ++ word, .blanks [])
    if !(← sees isGap) then return (String.ofList done, between.isBreak)
    let between ← gap margin (← get).steps between
    if !bracketed && (← get).column < margin then
      return (String.ofList done, between.isBreak)
    plainRest margin bracketed steps done between

/-- A plain text, and whether another line has started behind it. Outside of brackets its lines
reach no further to the left than the column `margin`. -/
def plain (margin : Nat) (bracketed : Bool) : Reader (String × Bool) := do
  plainRest margin bracketed (← get).steps [] (.blanks [])

/-! ## Quoted texts -/

/-- What the characters behind a backslash stand for. -/
def escapes : List (Char × Char) :=
  [ ('0', '\x00'), ('a', '\x07'), ('b', '\x08'), ('t', '\t'), ('\t', '\t'), ('n', '\n'),
    ('v', '\x0b'), ('f', '\x0c'), ('r', '\r'), ('e', '\x1b'), (' ', ' '), ('"', '"'), ('/', '/'),
    ('\\', '\\'), ('N', '\u0085'), ('_', '\u00A0'), ('L', '\u2028'), ('P', '\u2029') ]

/-- How many digits follow the letter of an escape by number. -/
def escapeWidth? (c : Char) : Option Nat :=
  [('x', 2), ('u', 4), ('U', 8)].lookup c

/-- The character that an escape stands for, behind its backslash. -/
def escape : Reader Char := do
  let c ← (← get).rest.head?
  skip 1
  match escapes.lookup c with
  | some d => return d
  | none =>
    let width ← escapeWidth? c
    let digits := (← get).rest.take width
    if digits.length < width then failure
    let values ← (digits.mapM hexValue? : Option (List Nat))
    let n := values.foldl (fun n d => 16 * n + d) 0
    skip width
    if n.isValidChar then return Char.ofNat n else failure

/-- The characters up to the end of a quoted word or of the text, and whether the word ends with
a break that does not count. -/
def quotedWord (quote : Char) : Nat → List Char → Reader (List Char × Bool)
  | 0, word => return (word.reverse, false)
  | steps + 1, word => do
    match (← get).rest with
    | [] => return (word.reverse, false)
    | c :: rest =>
      if isGap c then return (word.reverse, false)
      else if c = quote then
        if c = '\'' && rest.head? = some c then do skip 2; quotedWord quote steps (c :: word)
        else return (word.reverse, false)
      else if quote = '"' && c = '\\' then do
        skip 1
        match (← get).break? with
        | some (_, next) => set next; return (word.reverse, true)
        | none => quotedWord quote steps ((← escape) :: word)
      else do skip 1; quotedWord quote steps (c :: word)

/-- The rest of a quoted text behind `done`. No line of it ends or starts a document. -/
def quotedRest (quote : Char) : Nat → List Char → Reader String
  | 0, _ => failure
  | steps + 1, done => do
    let s ← get
    if s.atMark || s.rest.isEmpty then failure
    let (word, joined) ← quotedWord quote s.steps []
    if ← sees (· == quote) then
      skip 1
      return String.ofList (done ++ word)
    let between ← gap 0 (← get).steps (if joined then .breaks none [] else .blanks [])
    quotedRest quote steps (done ++ word ++ between.text)

/-- A quoted text, from its opening quote on. -/
def quoted (quote : Char) : Reader String := do
  skip 1
  quotedRest quote (← get).steps []

/-! ## Blocks -/

/-- What becomes of the breaks at the end of a block: none is left, or one, or all are. -/
inductive Ending where
  | strip
  | clip
  | keep
  deriving DecidableEq

/-- The sign for what becomes of the breaks at the end. -/
def ending? : Reader (Option Ending) := do
  match (← get).rest with
  | '-' :: _ => skip 1; return some .strip
  | '+' :: _ => skip 1; return some .keep
  | _ => return none

/-- The number of columns that a block is further in, if it is told. -/
def depth? : Reader (Option Nat) := do
  match (← get).rest with
  | c :: _ =>
    if !c.isDigit then return none
    if c = '0' then failure
    skip 1
    return some (digitValue c)
  | [] => return none

/-- The head of a block: sign and number in any order. -/
def blockHead : Reader (Ending × Option Nat) := do
  skip 1
  let ending ← ending?
  let depth ← depth?
  let ending ← if ending.isNone && depth.isSome then ending? else pure ending
  restOfLine
  return (ending.getD .clip, depth)

/-- The breaks of empty lines, and the column of the line behind them at which a block starts:
that told, or else the greatest one reached so far, but none in front of `least`. -/
def blockGap (least : Nat) (column : Option Nat) :
    Nat → Nat → List Char → Reader (List Char × Nat)
  | 0, _, _ => failure
  | steps + 1, deepest, found => do
    let s ← get
    let blanks := (s.rest.takeWhile (· == ' ')).length
    let s := s.skip (column.elim blanks fun n => min blanks (n - s.column))
    let deepest := max deepest s.column
    if column.all (s.column < ·) && s.sees (· == '\t') then failure
    match s.break? with
    | some (c, next) =>
      set next
      blockGap least column steps deepest (found ++ [c])
    | none =>
      set s
      return (found, column.getD (max deepest least))

/-- What the break at the end of a line and those of the empty lines behind it add to a block.
Unless lines are kept, a break between two lines that start without a blank is joined. -/
def lineGap (keepLines : Bool) (indented : Bool) (last : Option Char) (empty : List Char) :
    List Char :=
  if !keepLines && last == some '\n' && !indented then
    if empty.isEmpty then [' '] else empty
  else last.toList ++ empty

/-- The lines of a block at a column, behind `done`, the break `last` and empty lines;
`indented` tells whether the line in front starts with a blank. -/
def blockLines (keepLines : Bool) (ending : Ending) (column : Nat) :
    Nat → List Char → Option Char → List Char → Bool → Reader String
  | 0, _, _, _, _ => failure
  | steps + 1, done, last, empty, indented => do
    let s ← get
    if s.column = column && !s.rest.isEmpty then
      let blankFirst := s.sees isBlank
      let done := done ++ lineGap keepLines (indented || blankFirst) last empty
      let line ← takeWhile (!isBreak ·)
      let last ← match (← get).break? with
        | some (c, next) => do set next; pure (some c)
        | none => pure none
      let (empty, _) ← blockGap column (some column) (← get).steps 0 []
      blockLines keepLines ending column steps (done ++ line) last empty blankFirst
    else
      let last := if ending = .strip then [] else last.toList
      let empty := if ending = .keep then empty else []
      return String.ofList (done ++ last ++ empty)

/-- A block of lines, from its sign on, within a collection that leaves it the columns from
`margin` on. -/
def block (margin : Nat) (keepLines : Bool) : Reader String := do
  let (ending, depth) ← blockHead
  let told := depth.map fun n => margin - 1 + n
  let (empty, column) ← blockGap (max margin 1) told (← get).steps 0 []
  blockLines keepLines ending column (← get).steps [] none empty false

end Reader

end PatternSync.Yaml
