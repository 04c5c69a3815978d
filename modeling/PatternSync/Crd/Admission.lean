import PatternSync.Crd.Definition

/-!
# Admission

Which documents the API server admits by a schema. A property may be absent unless it is required,
members without a schema do not matter, and null is a value of its own: it is admitted only where
the schema says so, even if the property has a default.
-/

namespace PatternSync

namespace Schema

mutual

def admits : Schema → Json → Bool
  | string, .str _ => true
  | boolean, .bool _ => true
  | unsigned, .num (.int i) => decide (0 ≤ i ∧ i ≤ 4294967295)
  | time, .str s => (Instant.ofText s).isOk
  | choice names, .str s => decide (s ∈ names)
  | list item, .arr items => items.all fun j => item.admits j
  | record properties, .obj members => admitsMembers properties members
  | openRecord properties, .obj members => admitsMembers properties members
  | nullable inner, j => j.isNull || inner.admits j
  | described _ inner, j => inner.admits j
  | defaulting _ inner, j => inner.admits j
  | _, _ => false

/-- Whether the members of an object fit the properties. -/
def admitsMembers : List (String × Bool × Schema) → Keyed Json → Bool
  | [], _ => true
  | (name, required, schema) :: rest, members =>
    (match Keyed.get? members name with
      | some j => schema.admits j
      | none => !required)
    && admitsMembers rest members

end

end Schema

namespace ResourceDefinition

/-- Whether an object of the kind is admitted. Its metadata has rules of its own. -/
def admits (d : ResourceDefinition) (j : Json) : Bool :=
  d.objectSchema.admits j

end ResourceDefinition

end PatternSync
