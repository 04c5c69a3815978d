import PatternSync.Wire.Shape
import PatternSync.Yaml.Content

/-!
# Reading a YAML value of a shape

What a shape asks for is taken from a YAML value. Tags do not count, apart from the one that names
a variant, and null stands for a list, a map or a record without anything in it.
-/

namespace PatternSync.Wire.Shape

open Yaml

/-- A value without parts, if it has the shape. -/
def ofPlainValue? (shape : Shape) (v : Value) : Option Json := do
  let j ← v.bare.json?
  if (shape.check j).isOk then return j else none

/-- One of the names, as a text or as the tag of null. -/
def ofVariant? (variants : List String) : Value → Option Json
  | .text name => if name ∈ variants then some (.str name) else none
  | .tagged name .null => if name ∈ variants then some (.str name) else none
  | _ => none

def itemsOf? (v : Value) : Option (List Value) :=
  match v.bare with
  | .null => some []
  | .list items => some items
  | _ => none

/-- The entries that a value holds, by keys that are texts. -/
def entriesOf? (v : Value) : Option (List (String × Value)) :=
  match v.bare with
  | .null => some []
  | .map entries => entries.mapM fun (key, value) => do return (← key.text?, value)
  | _ => none

/-- Whether the value is null without a tag. -/
def isNullValue : Value → Bool
  | .null => true
  | _ => false

mutual

/-- What the shape asks for, taken from a value. -/
def ofValue? : Shape → Value → Option Json
  | anything, v => v.json?
  | choice variants, v => ofVariant? variants v
  | nullable inner, v => if isNullValue v then some .null else inner.ofValue? v
  | list item, v => do
    let items ← itemsOf? v
    return .arr (← items.mapM fun v => item.ofValue? v)
  | dict value, v => do
    let entries ← entriesOf? v
    return .object (← entries.mapM fun (key, v) => do return (key, ← value.ofValue? v))
  | record _ _ fields, v => do
    let entries ← entriesOf? v
    let names := (entries.map Prod.fst).filter (· ∈ fields.map Prod.fst)
    if !decide names.Nodup then none
    let members ← entries.mapM fun (key, v) => do
      return (← memberOf? fields key v).map (key, ·)
    let found := Json.object (members.filterMap id)
    if (missing? found.members fields).isSome then none
    return found
  | shape, v => shape.ofPlainValue? v

/-- What the field with a name asks for, taken from a value; other members do not count. -/
def memberOf? : List (String × Presence × Shape) → String → Value → Option (Option Json)
  | [], _, _ => some none
  | (name, _, shape) :: rest, key, v =>
    if name = key then (shape.ofValue? v).map some else memberOf? rest key v

end

/-- What the shape asks for, taken from each document of a text. -/
def ofYamlText? (shape : Shape) (s : String) : Option (List Json) := do
  (← values? s).mapM shape.ofValue?

end PatternSync.Wire.Shape
