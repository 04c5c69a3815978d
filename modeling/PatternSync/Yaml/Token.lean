import PatternSync.Yaml.Tag
import PatternSync.Yaml.Text

/-!
# Tokens of a YAML text

The signs, names and texts of a YAML text in their order. Collections that are told by their
columns alone get tokens too, where they start and where they end. Whether a token is the key of an
entry shows only at the colon behind it; the token of the key is then put in front of it.
-/

namespace PatternSync.Yaml

/-- A part of a YAML text. -/
inductive Token where
  | directive (content : Directive)
  | documentStart
  | documentEnd
  /-- A list starts at a column. -/
  | blockList
  /-- A map starts at a column. -/
  | blockMap
  /-- A collection at a column ends. -/
  | blockEnd
  | openList
  | closeList
  | openMap
  | closeMap
  | dash
  | comma
  | key
  | value
  | anchor (name : String)
  /-- The node at an anchor once more. -/
  | reference (name : String)
  | tag (name : TagName)
  | text (isPlain : Bool) (content : String)
  deriving DecidableEq

/-- Where a key may have started. -/
structure KeyStart where
  /-- The number of tokens in front of it. -/
  number : Nat
  index : Nat
  line : Nat
  column : Nat
  /-- Whether nothing else than a key can stand there. -/
  required : Bool

namespace KeyStart

/-- The greatest number of characters of a key. -/
def sizeLimit : Nat := 1024

/-- Whether the key would be in another line, or too long. -/
def isStale (k : KeyStart) (s : Spot) : Bool :=
  k.line < s.line || k.index + sizeLimit < s.index

end KeyStart

/-- How far the tokens of a text have been found. -/
structure Lexing where
  spot : Spot
  /-- The tokens found, the latest first. -/
  tokens : List Token := []
  /-- The columns of the open collections, the innermost first. -/
  blocks : List Nat := []
  /-- Where the next colon's key may have started. -/
  keyStart : Option KeyStart := none
  /-- The same outside of each open bracket, the innermost first. -/
  outside : List (Option KeyStart) := []
  /-- Whether a key or a collection may start here. -/
  keyAllowed : Bool := true

namespace Lexing

def isBracketed (l : Lexing) : Bool :=
  !l.outside.isEmpty

/-- The first column that the content of the innermost collection may have. -/
def margin (l : Lexing) : Nat :=
  l.blocks.head?.elim 0 (· + 1)

/-- Puts a token in front of those from a number on. -/
def insert (l : Lexing) (number : Nat) (t : Token) : Lexing :=
  let behind := l.tokens.length - number
  { l with tokens := l.tokens.take behind ++ t :: l.tokens.drop behind }

/-- Puts a token behind the others. -/
def push (l : Lexing) (t : Token) : Lexing :=
  { l with tokens := t :: l.tokens }

/-- Opens a collection at a column in front of a token, unless one is open there. -/
def openBlock (l : Lexing) (column number : Nat) (t : Token) : Lexing :=
  if !l.isBracketed && l.margin ≤ column then
    { l.insert number t with blocks := column :: l.blocks }
  else l

/-- Closes the collections that are further to the right than a column, or all of them. -/
def closeBlocks (l : Lexing) (column : Option Nat) : Lexing :=
  if l.isBracketed then l
  else
    let closed := l.blocks.takeWhile fun n => column.all (· < n)
    { l with
      blocks := l.blocks.drop closed.length
      tokens := closed.map (fun _ => .blockEnd) ++ l.tokens }

/-- The place of the next token: behind blanks, comments and breaks. Tabs do not count as blanks
where they could be taken for columns. -/
def approach : Nat → Lexing → Lexing
  | 0, l => l
  | steps + 1, l =>
    let s := l.spot
    let s := if s.column = 0 && s.sees (· == byteOrderMark) then s.skip 1 else s
    let s := s.skipWhile fun c => c == ' ' || (c == '\t' && (l.isBracketed || !l.keyAllowed))
    let s := if s.sees (· == '#') then s.skipWhile (!isBreak ·) else s
    match s.break? with
    | some (_, next) =>
      approach steps { l with spot := next, keyAllowed := l.keyAllowed || !l.isBracketed }
    | none => { l with spot := s }

end Lexing

/-- A reader of tokens. -/
abbrev Lexer := StateT Lexing Option

instance : MonadLift Reader Lexer where
  monadLift read := fun l => (read.run l.spot).map fun (a, spot) => (a, { l with spot })

namespace Lexer

/-- Sets whether a key may start here. -/
def allowKey (allowed : Bool) : Lexer Unit :=
  modify ({ · with keyAllowed := allowed })

/-- Gives up the start of a key, which must not have been required. -/
def dropKey : Lexer Unit := do
  let l ← get
  if l.keyStart.any (·.required) then failure
  set { l with keyStart := none }

/-- Gives up the starts of keys that are too far away. -/
def dropStaleKeys : Lexer Unit := do
  let l ← get
  let fresh (k : Option KeyStart) := k.filter (!·.isStale l.spot)
  if (l.keyStart :: l.outside).any (·.any fun k => k.required && k.isStale l.spot) then failure
  set { l with keyStart := fresh l.keyStart, outside := l.outside.map fresh }

/-- The next token may be a key, if one may start here. -/
def markKey : Lexer Unit := do
  let l ← get
  if l.keyAllowed then
    dropKey
    modify ({ · with
      keyStart := some
        { number := l.tokens.length
          index := l.spot.index
          line := l.spot.line
          column := l.spot.column
          required := !l.isBracketed && l.blocks.head? = some l.spot.column } })

/-- Ends what is open in front of a line that belongs to no document. -/
def closeDocument : Lexer Unit := do
  modify (·.closeBlocks none)
  dropKey
  allowKey false

def sign (count : Nat) (t : Token) : Lexer Unit :=
  modify fun l => { l with spot := l.spot.skip count }.push t

def openBracket (t : Token) : Lexer Unit := do
  markKey
  modify fun l => { l with keyStart := none, outside := l.keyStart :: l.outside }
  allowKey true
  sign 1 t

def closeBracket (t : Token) : Lexer Unit := do
  dropKey
  modify fun l => { l with keyStart := l.outside.head?.join, outside := l.outside.drop 1 }
  allowKey false
  sign 1 t

def comma : Lexer Unit := do
  dropKey
  allowKey true
  sign 1 .comma

/-- Opens a collection here unless it is open. Outside of brackets a collection has to be allowed
here. -/
def startBlock (t : Token) : Lexer Unit := do
  let l ← get
  if !l.isBracketed && !l.keyAllowed then failure
  set (l.openBlock l.spot.column l.tokens.length t)

/-- The dash of a list item. -/
def dash : Lexer Unit := do
  startBlock .blockList
  dropKey
  allowKey true
  sign 1 .dash

/-- The question mark of a key. -/
def key : Lexer Unit := do
  startBlock .blockMap
  dropKey
  allowKey !(← get).isBracketed
  sign 1 .key

/-- The colon in front of a value: what started its key becomes one. -/
def value : Lexer Unit := do
  let l ← get
  match l.keyStart with
  | some k =>
    set { (l.insert k.number .key).openBlock k.column k.number .blockMap with keyStart := none }
    allowKey false
  | none =>
    startBlock .blockMap
    allowKey !l.isBracketed
  sign 1 .value

/-- A token that may be a key. -/
def node {α : Type} (read : Reader α) (token : α → Token) : Lexer Unit := do
  markKey
  allowKey false
  let content ← read
  modify (·.push (token content))

/-- A plain text. Behind it a key may start in another line. -/
def plain : Lexer Unit := do
  let l ← get
  markKey
  allowKey false
  let (content, isOver) ← (Reader.plain l.margin l.isBracketed : Reader (String × Bool))
  if isOver then allowKey true
  modify (·.push (.text true content))

/-- A text in lines of its own. -/
def block (keepLines : Bool) : Lexer Unit := do
  let l ← get
  if l.isBracketed then failure
  dropKey
  allowKey true
  let content ← (Reader.block l.margin keepLines : Reader String)
  modify (·.push (.text false content))

/-- Whether a plain text may start with the character, whatever follows it. -/
def startsPlain (c : Char) : Bool :=
  !(isGap c || "#%@".toList.contains c || c.toNat = 96)

def tokenFrom (c : Char) (rest : List Char) : Lexer Unit := do
  let bracketed := (← get).isBracketed
  match c with
  | '[' => openBracket .openList
  | '{' => openBracket .openMap
  | ']' => closeBracket .closeList
  | '}' => closeBracket .closeMap
  | ',' => comma
  | '-' => if endsWord rest then dash else plain
  | '?' => if bracketed || endsWord rest then key else plain
  | ':' => if bracketed || endsWord rest then value else plain
  | '&' => node Reader.anchorName .anchor
  | '*' => node Reader.anchorName .reference
  | '!' => node (Reader.tag bracketed) .tag
  | '"' | '\'' => node (Reader.quoted c) (.text false)
  | '|' => block true
  | '>' => block false
  | c => if startsPlain c then plain else failure

/-- The next token with those that its column adds; whether there is one. -/
def next : Lexer Bool := do
  modify fun l => l.approach l.spot.steps
  dropStaleKeys
  modify fun l => l.closeBlocks (some l.spot.column)
  let s := (← get).spot
  match s.rest with
  | [] => closeDocument; return false
  | c :: rest =>
    if s.column = 0 && c = '%' then
      closeDocument
      let content ← (Reader.directive : Reader Directive)
      modify (·.push (.directive content))
    else if s.atMark then
      closeDocument
      sign 3 (if c = '-' then .documentStart else .documentEnd)
    else tokenFrom c rest
    return true

/-- The tokens up to the end of the text. -/
def all : Nat → Lexer (List Token)
  | 0 => failure
  | steps + 1 => do
    if ← next then all steps else return (← get).tokens.reverse

end Lexer

def tokens? (cs : List Char) : Option (List Token) := do
  if !cs.all isAllowed then failure
  let s : Spot := { rest := cs }
  (Lexer.all (s.steps + 1)).run' { spot := s }

end PatternSync.Yaml
