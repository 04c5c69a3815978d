import PatternSync.Yaml.Node
import PatternSync.Yaml.Word

/-!
# The content of a YAML text

The values that the documents of a text stand for. What stands at an anchor is put in wherever it
is referred to; how deep collections may be nested and how often references may be followed is
limited, so that an anchor within itself comes to an end.
-/

namespace PatternSync.Yaml

/-- A reader of values. It keeps how many references may still be followed. -/
abbrev ValueReader := StateT Nat Option

namespace Value

/-- How deep collections may be nested. -/
def depthLimit : Nat := 128

/-- The name of a tag that starts with an exclamation mark. Another one in front of a name does not
count. -/
def ownName? (tag : String) : Option String :=
  match tag.toList with
  | ['!', '!'] => some "!"
  | '!' :: '!' :: name => some (String.ofList name)
  | '!' :: name => some (String.ofList name)
  | _ => none

/-- A value with the tag in front of it. Only tags with a name of their own stay, and the name must
not be empty. -/
def withTag? (tag : Option String) (v : Value) : Option Value :=
  match tag.bind ownName? with
  | none => some v
  | some "" => none
  | some name => some (tagged name v)

def ofTaggedText? (tag : String) (s : String) : Option Value :=
  match tag with
  | "tag:yaml.org,2002:null" => if s ∈ Word.nulls then some null else none
  | "tag:yaml.org,2002:bool" => (Word.bool? s).map bool
  | "tag:yaml.org,2002:int" => ofWholeWord? s
  | "tag:yaml.org,2002:float" => Word.real? s.toList
  | _ => some (text s)

def ofText? (tag : Option String) (isPlain : Bool) (s : String) : Option Value :=
  match tag with
  | some t =>
    if (ownName? t).isNone then ofTaggedText? t s
    else do withTag? tag (← if isPlain then ofWord? s else some (text s))
  | none => if isPlain then ofWord? s else some (text s)

/-- The part of a document that a reference leads to. Of two anchors with one number the later
counts. -/
def follow (parts : List Node) (anchor : Nat) : ValueReader Node := do
  match ← get with
  | 0 => failure
  | left + 1 =>
    set left
    parts.reverse.find? fun part => part.marks.anchor = some anchor

/-- The value of a node with so many levels to go, among the parts of its document. -/
def ofNode (parts : List Node) (depth : Nat) (n : Node) : ValueReader Value := do
  let target ← match n with
    | .reference anchor => follow parts anchor
    | n => pure n
  match target, depth with
  | .reference _, _ => failure
  | .text marks isPlain content, _ => ofText? marks.tag isPlain content
  | _, 0 => failure
  | .list marks items, depth + 1 =>
    let values ← items.mapM (ofNode parts depth)
    withTag? marks.tag (list values)
  | .map marks entries, depth + 1 =>
    let values ← entries.mapM fun (key, value) => do
      return (← ofNode parts depth key, ← ofNode parts depth value)
    if !distinct (values.map Prod.fst) then failure
    withTag? marks.tag (map values)

/-- The value of a document. References may be followed a hundred times for each of its parts. -/
def ofDocument? (root : Node) : Option Value :=
  (ofNode root.parts depthLimit root).run' (100 * root.size)

end Value

/-- The values of the documents of a text. -/
def values? (s : String) : Option (List Value) := do
  (← documents? s.toList).mapM Value.ofDocument?

end PatternSync.Yaml
