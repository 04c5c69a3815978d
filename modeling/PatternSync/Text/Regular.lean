import PatternSync.Text.Digits

/-!
# Regular expressions

Whether a text is a regular expression: groups are closed, signs of repetition have something to
repeat, and classes and escapes are well formed. Numbers of repetitions in braces, boundaries of
words and names of properties in braces are not among them.
-/

namespace PatternSync.Text.Regular

/-- A reader of a part of a regular expression. -/
abbrev Reader := StateT (List Char) Option

def next : Reader Char := do
  match ← get with
  | c :: rest => set rest; return c
  | [] => failure

/-- Drops the next character if it is the one given, and tells whether it is. -/
def take? (c : Char) : Reader Bool := do
  match ← get with
  | d :: rest => if d = c then set rest; return true else return false
  | [] => return false

/-! ## Escapes -/

/-- What an escape stands for. -/
inductive Escape where
  | char (c : Char)
  | kind
  /-- A place of the text. -/
  | place
  deriving DecidableEq

/-- A character by so many digits in base sixteen. -/
def numbered (width : Nat) : Reader Char := do
  let digits := (← get).take width
  if digits.length < width then failure
  let values ← (digits.mapM hexValue? : Option (List Nat))
  modify (·.drop width)
  let n := values.foldl (fun n d => 16 * n + d) 0
  if n.isValidChar then return Char.ofNat n else failure

/-- What the letters behind a backslash stand for, where they stand for a character. -/
def letterEscapes : List (Char × Char) :=
  [('a', '\x07'), ('f', '\x0c'), ('t', '\t'), ('n', '\n'), ('r', '\r'), ('v', '\x0b')]

/-- An escape, behind its backslash. -/
def escape : Reader Escape := do
  let c ← next
  match letterEscapes.lookup c with
  | some d => return .char d
  | none =>
    if c = 'x' then return .char (← numbered 2)
    else if c = 'u' then return .char (← numbered 4)
    else if c = 'U' then return .char (← numbered 8)
    else if "dDsSwW".toList.contains c then return .kind
    else if c = 'p' ∨ c = 'P' then
      if "CLMNPSZ".toList.contains (← next) then return .kind else failure
    else if c = 'A' ∨ c = 'z' then return .place
    else if c.toNat < 0x80 && !c.isAlphanum && c != '<' && c != '>' then return .char c
    else failure

/-! ## Classes -/

/-- A member of a class; a character if it is one. -/
def member : Reader (Option Char) := do
  let c ← next
  if c ≠ '\\' then return some c
  match ← escape with
  | .char d => return some d
  | .kind => return none
  | .place => failure

/-- A member of a class, or a range from one character to another. -/
def range : Reader Unit := do
  let low ← member
  match ← get with
  | '-' :: c :: _ =>
    if c = ']' ∨ c = '-' then return
    modify (·.drop 1)
    match low, ← member with
    | some low, some high => if high < low then failure
    | _, _ => failure
  | _ => return

/-- The beginning of a class, behind its bracket: what is excluded, and signs that stand for
themselves there. -/
def classStart : Reader Unit := do
  discard (take? '^')
  let hyphens := (← get).takeWhile (· = '-')
  modify (·.drop hyphens.length)
  if hyphens.isEmpty then discard (take? ']')

/-- Names of kinds of characters, between a bracket with a colon and its counterpart. -/
def kindNames : List String :=
  [ "alnum", "alpha", "ascii", "blank", "cntrl", "digit", "graph", "lower", "print", "punct",
    "space", "upper", "word", "xdigit" ]

/-- The number of characters of the name of a kind in a class, with its signs, if one stands
here. -/
def kindLength? (cs : List Char) : Option Nat :=
  (kindNames.flatMap fun name => ["[:" ++ name ++ ":]", "[:^" ++ name ++ ":]"]).findSome?
    fun text => if text.toList.isPrefixOf cs then some text.length else none

/-- The rest of a class within so many others. -/
def classRest : Nat → Nat → Reader Unit
  | 0, _ => failure
  | steps + 1, depth => do
    match ← get with
    | [] => failure
    | c :: rest =>
      if c = '[' then
        match kindLength? (c :: rest) with
        | some length => set (rest.drop (length - 1)); classRest steps depth
        | none => set rest; classStart; classRest steps (depth + 1)
      else if c = ']' then
        set rest
        match depth with
        | 0 => return
        | depth + 1 => classRest steps depth
      else if "&-~".toList.contains c && rest.head? = some c then
        set (rest.drop 1)
        classRest steps depth
      else
        range
        classRest steps depth

/-! ## Groups -/

/-- Whether flags may be set by these characters: each once, and with a sign that turns off those
behind it. -/
def areFlags (cs : List Char) : Bool :=
  !cs.isEmpty && cs.getLast? != some '-' && cs.all ("imsUuxR-".toList.contains ·)
    && decide cs.Nodup

def isName (cs : List Char) : Bool :=
  match cs with
  | [] => false
  | c :: rest =>
    (c.isAlpha || c == '_') && rest.all fun d => d.isAlphanum || "_.[]".toList.contains d

/-- The name of a group, behind its opening sign. -/
def groupName : Reader Unit := do
  let name := (← get).takeWhile (· ≠ '>')
  modify (·.drop name.length)
  if !isName name || (← next) ≠ '>' then failure

/-- The beginning of a group, behind its bracket; whether there is a group and not only flags. -/
def groupStart : Reader Bool := do
  if !(← take? '?') then return true
  match ← get with
  | 'P' :: '<' :: rest => set rest; groupName; return true
  | '<' :: rest => set rest; groupName; return true
  | ':' :: rest => set rest; return true
  | cs =>
    let flags := cs.takeWhile fun c => c != ':' && c != ')'
    if !areFlags flags then failure
    modify (·.drop flags.length)
    return (← next) = ':'

/-! ## Whole expressions -/

/-- The rest of an expression within so many groups; `repeatable` tells whether there is something
to repeat. -/
def rest : Nat → Nat → Bool → Reader Unit
  | 0, _, _ => failure
  | steps + 1, depth, repeatable => do
    match ← get with
    | [] => if depth = 0 then return else failure
    | c :: cs =>
      set cs
      match c with
      | '(' => if ← groupStart then rest steps (depth + 1) false else rest steps depth false
      | ')' =>
        match depth with
        | 0 => failure
        | depth + 1 => rest steps depth true
      | '|' => rest steps depth false
      | '*' | '+' | '?' => if repeatable then rest steps depth true else failure
      | '{' => failure
      | '[' => do classStart; classRest (cs.length + 1) 0; rest steps depth true
      | '\\' => do discard escape; rest steps depth true
      | _ => rest steps depth true

end Regular

def isRegularExpression (cs : List Char) : Bool :=
  ((Regular.rest (cs.length + 1) 0 false).run cs).isSome

end PatternSync.Text
