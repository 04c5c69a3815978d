import PatternSync.Application.Basic

/-!
# Updating parameters

Overwriting the entry of a list of parameters that bears a name. Only the first entry of a name
counts; an update never adds or moves one (`names_overwrite?`), and it finds an entry exactly if the
list has one of that name (`overwrite?_eq_none_iff`).
-/

namespace PatternSync.Parameter

/-- Overwrites value and kind of the first parameter that bears the name of `wanted`; nothing if
none does. -/
def overwrite? (wanted : Parameter) : List Parameter → Option (List Parameter)
  | [] => none
  | p :: rest =>
    if p.name = wanted.name then
      some ({ p with value := wanted.value, forceString := wanted.forceString } :: rest)
    else (overwrite? wanted rest).map (p :: ·)

/-- Overwrites the parameter of that name, or adds a new one behind the others. -/
def upsert (parameters : List Parameter) (wanted : Parameter) : List Parameter :=
  (overwrite? wanted parameters).getD (parameters ++ [wanted])

def names (parameters : List Parameter) : List String :=
  parameters.map (·.name)

theorem overwrite?_eq_none_iff {wanted : Parameter} {parameters : List Parameter} :
    overwrite? wanted parameters = none ↔ wanted.name ∉ names parameters := by
  induction parameters with
  | nil => simp [overwrite?, names]
  | cons p rest ih =>
    by_cases h : p.name = wanted.name
    · simp [overwrite?, names, h]
    · have hne : wanted.name ≠ p.name := fun he => h he.symm
      simpa [overwrite?, names, h, hne] using ih

theorem names_overwrite? {wanted : Parameter} {before after : List Parameter}
    (h : overwrite? wanted before = some after) : names after = names before := by
  induction before generalizing after with
  | nil => cases h
  | cons p rest ih =>
    unfold overwrite? at h
    split at h
    · cases h
      rfl
    · obtain ⟨changed, hchanged, rfl⟩ := Option.map_eq_some_iff.1 h
      simpa [names] using ih hchanged

theorem names_upsert (parameters : List Parameter) (wanted : Parameter) :
    names (upsert parameters wanted)
      = if wanted.name ∈ names parameters then names parameters
        else names parameters ++ [wanted.name] := by
  unfold upsert
  split
  · rename_i h
    match hfound : overwrite? wanted parameters with
    | some after => exact names_overwrite? hfound
    | none => exact absurd h (overwrite?_eq_none_iff.1 hfound)
  · rename_i h
    rw [overwrite?_eq_none_iff.2 h]
    simp [names]

end PatternSync.Parameter
