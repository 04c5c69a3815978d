import PatternSync.Json.Basic

/-!
# Schemas

A schema tells the API server which documents to admit, and its users what the fields mean. It is
written as a document itself.
-/

namespace PatternSync

inductive Schema where
  | string
  | boolean
  /-- A whole number of 32 bits without a sign. -/
  | unsigned
  /-- A date and time. -/
  | time
  /-- One of some names. -/
  | choice (names : List String)
  | list (item : Schema)
  /-- An object with these properties; each may be required. -/
  | record (properties : List (String × Bool × Schema))
  /-- An object that keeps properties without a schema. -/
  | openRecord (properties : List (String × Bool × Schema))
  /-- Null is admitted as well. -/
  | nullable (inner : Schema)
  /-- What the field means. -/
  | described (text : String) (inner : Schema)
  /-- The value that an absent field takes. -/
  | defaulting (value : Json) (inner : Schema)

namespace Schema

/-- A text that is empty when absent. -/
def emptyText : Schema :=
  defaulting (.str "") string

def nullableText : Schema :=
  nullable string

/-- A switch that is off when absent. -/
def switch : Schema :=
  defaulting (.bool false) boolean

/-- The members for a plain type. -/
def typed (name : String) : Keyed Json :=
  [("type", .str name)]

def requiredNames : List (String × Bool × Schema) → List Json
  | [] => []
  | (name, required, _) :: rest =>
    if required then .str name :: requiredNames rest else requiredNames rest

/-- The members for an object with these properties. -/
def recordMembers (properties : Keyed Json) (required : List Json) (keeps : Bool) : Keyed Json :=
  (Json.objectOf
    [ ("properties", some (.obj properties)),
      ("required", Json.listUnlessEmpty required),
      ("type", some (.str "object")),
      ("x-kubernetes-preserve-unknown-fields", if keeps then some (.bool true) else none) ]).members

mutual

def members : Schema → Keyed Json
  | string => typed "string"
  | boolean => typed "boolean"
  | unsigned =>
    [("format", .str "uint32"), ("minimum", .num (.double default)), ("type", .str "integer")]
  | time => [("format", .str "date-time"), ("type", .str "string")]
  | choice names => [("enum", .arr (names.map .str)), ("type", .str "string")]
  | list item => [("items", .obj item.members), ("type", .str "array")]
  | record properties => recordMembers (propertyMembers properties) (requiredNames properties) false
  | openRecord properties =>
    recordMembers (propertyMembers properties) (requiredNames properties) true
  | nullable inner => Keyed.put "nullable" (.bool true) inner.members
  | described text inner => Keyed.put "description" (.str text) inner.members
  | defaulting value inner => Keyed.put "default" value inner.members

def propertyMembers : List (String × Bool × Schema) → Keyed Json
  | [] => []
  | (name, _, schema) :: rest => Keyed.put name (.obj schema.members) (propertyMembers rest)

end

def toJson (s : Schema) : Json :=
  .obj s.members

end Schema

end PatternSync
