import PatternSync.Keyed
import PatternSync.Yaml.Token

/-!
# Nodes of a YAML text

The documents of a YAML text as trees of nodes. A node may have a tag and an anchor, and at another
place of the document the node at an anchor may stand once more.
-/

namespace PatternSync.Yaml

/-- What may stand in front of a node. -/
structure Marks where
  /-- The number of its anchor. -/
  anchor : Option Nat := none
  tag : Option String := none
  deriving DecidableEq

inductive Node where
  /-- The node at the anchor with a number. -/
  | reference (anchor : Nat)
  | text (marks : Marks) (isPlain : Bool) (content : String)
  | list (marks : Marks) (items : List Node)
  | map (marks : Marks) (entries : List (Node × Node))

namespace Node

/-- A node of which nothing is written. -/
def absent : Node :=
  text {} true ""

/-- What stands in front of the node. -/
def marks : Node → Marks
  | reference _ => {}
  | text m _ _ => m
  | list m _ => m
  | map m _ => m

mutual

/-- The number of parts of the node: one for itself, and one more for the end of a collection. -/
def size : Node → Nat
  | reference _ => 1
  | text _ _ _ => 1
  | list _ items => 2 + sizeOfItems items
  | map _ entries => 2 + sizeOfEntries entries

def sizeOfItems : List Node → Nat
  | [] => 0
  | item :: rest => item.size + sizeOfItems rest

def sizeOfEntries : List (Node × Node) → Nat
  | [] => 0
  | (key, value) :: rest => key.size + value.size + sizeOfEntries rest

end

mutual

/-- The node and those within it, in the order of the text. -/
def parts : Node → List Node
  | reference anchor => [reference anchor]
  | text marks isPlain content => [text marks isPlain content]
  | list marks items => list marks items :: partsOfItems items
  | map marks entries => map marks entries :: partsOfEntries entries

def partsOfItems : List Node → List Node
  | [] => []
  | item :: rest => item.parts ++ partsOfItems rest

/-- The keys and values and the nodes within them. -/
def partsOfEntries : List (Node × Node) → List Node
  | [] => []
  | (key, value) :: rest => key.parts ++ value.parts ++ partsOfEntries rest

end

end Node

/-! ## From tokens to nodes -/

/-- The tokens still to read of a document. -/
structure Unread where
  tokens : List Token
  /-- What the handles of the document stand for. -/
  handles : List (String × String)
  /-- The numbers of the anchors passed. -/
  anchors : Keyed Nat := []

abbrev NodeReader := StateT Unread Option

namespace NodeReader

/-- The next token, which stays. -/
def peek : NodeReader (Option Token) := do
  return (← get).tokens.head?

def drop : NodeReader Unit :=
  modify fun u => { u with tokens := u.tokens.drop 1 }

/-- Drops the next token if it is the one given, and tells whether it is. -/
def take? (t : Token) : NodeReader Bool := do
  if (← peek) = some t then
    drop
    return true
  else return false

/-- Whether the next token is one of these. -/
def sees (ts : List Token) : NodeReader Bool := do
  return (← peek).any ts.contains

def tagOf (name : TagName) : NodeReader String := do
  if name.handle = "" then return name.suffix
  let start ← (← get).handles.lookup name.handle
  return start ++ name.suffix

def tag? : NodeReader (Option String) := do
  match ← peek with
  | some (.tag name) =>
    drop
    return some (← tagOf name)
  | _ => return none

/-- The number of the anchor in front of a node. Numbers count the names that anchors have had
before; a name may be used again, and then means the later anchor. -/
def anchor? : NodeReader (Option Nat) := do
  match ← peek with
  | some (.anchor name) =>
    drop
    let u ← get
    set { u with anchors := Keyed.put name u.anchors.length u.anchors }
    return some u.anchors.length
  | _ => return none

/-- Tag and anchor in front of a node, in any order. -/
def marks : NodeReader Marks := do
  match ← anchor? with
  | some anchor => return { anchor := some anchor, tag := ← tag? }
  | none =>
    let tag ← tag?
    if tag.isNone then return {}
    return { tag, anchor := ← anchor? }

mutual

/-- A node. As a key or a value in a map a list may start without being further to the right. -/
def node (inMap : Bool) : Nat → NodeReader Node
  | 0 => failure
  | steps + 1 => do
    match ← peek with
    | some (.reference name) =>
      drop
      return .reference (← Keyed.get? (← get).anchors name)
    | _ =>
      let marks ← marks
      match ← peek with
      | some (.text isPlain content) =>
        drop
        let tag := marks.tag.filter (· ≠ "!")
        return .text { marks with tag } isPlain content
      | some .blockList =>
        drop
        return .list marks (← blockItems steps)
      | some .blockMap =>
        drop
        return .map marks (← blockEntries steps)
      | some .openList =>
        drop
        return .list marks (← bracketItems true steps)
      | some .openMap =>
        drop
        return .map marks (← bracketEntries true steps)
      | next =>
        if inMap && next = some .dash then return .list marks (← dashItems steps)
        if marks = {} then failure
        return .text marks true ""

/-- A node, which is absent in front of some tokens. -/
def nodeBefore (ends : List Token) (inMap : Bool) : Nat → NodeReader Node
  | 0 => failure
  | steps + 1 => do
    if ← sees ends then return .absent
    node inMap steps

/-- A value behind its colon. Without the colon it is absent. -/
def valueBefore (ends : List Token) (inMap : Bool) : Nat → NodeReader Node
  | 0 => failure
  | steps + 1 => do
    if ← take? .value then nodeBefore ends inMap steps else return .absent

/-- The items of a list at a column of its own. -/
def blockItems : Nat → NodeReader (List Node)
  | 0 => failure
  | steps + 1 => do
    if ← take? .blockEnd then return []
    if !(← take? .dash) then failure
    let item ← nodeBefore [.dash, .blockEnd] false steps
    return item :: (← blockItems steps)

/-- The items of a list at the column of a key. -/
def dashItems : Nat → NodeReader (List Node)
  | 0 => failure
  | steps + 1 => do
    if !(← take? .dash) then return []
    let item ← nodeBefore [.dash, .key, .value, .blockEnd] false steps
    return item :: (← dashItems steps)

/-- The entries of a map at a column. -/
def blockEntries : Nat → NodeReader (List (Node × Node))
  | 0 => failure
  | steps + 1 => do
    if ← take? .blockEnd then return []
    if !(← take? .key) then failure
    let ends := [.key, .value, .blockEnd]
    let key ← nodeBefore ends true steps
    let value ← valueBefore ends true steps
    return (key, value) :: (← blockEntries steps)

/-- The items of a list in brackets. A comma may stand behind the last one. An item that is a key
makes up a map with its value; a key that is missing there takes the next sign with it. -/
def bracketItems (first : Bool) : Nat → NodeReader (List Node)
  | 0 => failure
  | steps + 1 => do
    if ← take? .closeList then return []
    if !first then
      if !(← take? .comma) then failure
      if ← take? .closeList then return []
    if ← take? .key then
      let missing ← sees [.value, .comma, .closeList]
      let key ← if missing then do drop; pure .absent else node false steps
      let value ← valueBefore [.comma, .closeList] false steps
      return .map {} [(key, value)] :: (← bracketItems false steps)
    else
      let item ← node false steps
      return item :: (← bracketItems false steps)

/-- The entries of a map in brackets. A comma may stand behind the last one. A key without a sign of
its own has no value. -/
def bracketEntries (first : Bool) : Nat → NodeReader (List (Node × Node))
  | 0 => failure
  | steps + 1 => do
    if ← take? .closeMap then return []
    if !first then
      if !(← take? .comma) then failure
      if ← take? .closeMap then return []
    let entry ←
      if ← take? .key then do
        let key ← nodeBefore [.value, .comma, .closeMap] false steps
        let value ← valueBefore [.comma, .closeMap] false steps
        pure (key, value)
      else do pure (← node false steps, .absent)
    return entry :: (← bracketEntries false steps)

end

end NodeReader

/-! ## Documents -/

/-- The handles that stand for something without a directive. -/
def usualHandles : List (String × String) :=
  [("!", "!"), ("!!", "tag:yaml.org,2002:")]

/-- What directives say: whether the version has been told, and what handles stand for. -/
structure Directives where
  hasVersion : Bool := false
  handles : List (String × String) := []

namespace Directives

/-- The directives with one more. The version is told once and is one of two, and a handle is
introduced once. -/
def add? (found : Directives) : Directive → Option Directives
  | .version major minor =>
    if !found.hasVersion && major = 1 && (minor = 1 || minor = 2) then
      some { found with hasVersion := true }
    else none
  | .handle name start =>
    if (found.handles.lookup name).isSome then none
    else some { found with handles := (name, start) :: found.handles }

/-- The directives at the front of tokens, and the tokens behind them. -/
def ofTokens? (found : Directives) : List Token → Option (Directives × List Token)
  | .directive d :: rest => do ofTokens? (← found.add? d) rest
  | ts => some (found, ts)

end Directives

/-- Whether a document has no content in front of these tokens. -/
def endsDocument : List Token → Bool
  | [] => true
  | .directive _ :: _ => true
  | .documentStart :: _ => true
  | .documentEnd :: _ => true
  | _ => false

/-- The content of a document and the tokens behind it. -/
def content? (handles : List (String × String)) (ts : List Token) :
    Option (Node × List Token) := do
  let (root, unread) ← (NodeReader.node false (3 * ts.length + 3)).run
    { tokens := ts, handles := handles ++ usualHandles }
  return (root, unread.tokens)

/-- A document behind its directives and its start, and the tokens behind it. -/
def markedContent? (ts : List Token) : Option (Node × List Token) := do
  let (found, rest) ← Directives.ofTokens? {} ts
  match rest with
  | .documentStart :: rest =>
    if endsDocument rest then return (.absent, rest) else content? found.handles rest
  | _ => none

/-- The documents of the tokens. Only the first one may stand without its start. -/
def documentsFrom : Nat → Bool → List Token → Option (List Node)
  | 0, _, _ => none
  | steps + 1, first, ts => do
    let ts := if first then ts else ts.dropWhile (· = .documentEnd)
    match ts with
    | [] => return []
    | t :: _ =>
      let marked := !first || t = .documentStart || t matches .directive _
      let (root, rest) ← if marked then markedContent? ts else content? [] ts
      let rest := if rest.head? = some .documentEnd then rest.drop 1 else rest
      return root :: (← documentsFrom steps false rest)

/-- The documents of a text. A text without any has one that is absent. -/
def documents? (cs : List Char) : Option (List Node) := do
  let ts ← tokens? cs
  let found ← documentsFrom (ts.length + 2) true ts
  return if found.isEmpty then [.absent] else found

end PatternSync.Yaml
