import PatternSync.Json.Merge
import PatternSync.Proofs.Records

/-!
# What merge patches leave

The members of an object after a merge patch, key by key (`get?_mergeMembers`), and when the object
still has the shape of its record (`check_mergeMembers`). The changes of a patch must bear distinct
keys, as the members of a written object do.
-/

namespace PatternSync.Json

open Wire

def child (j : Json) (key : String) : Json :=
  (Keyed.get? j.members key).getD .null

/-! ## Single changes -/

/-- What a change makes of an earlier value; nothing if it removes it. -/
def changed (earlier : Option Json) (change : Json) : Option Json :=
  if change.isNull then none else some (merge (earlier.getD .null) change)

/-- What becomes of a member that a patch may have a change for. -/
def patched (earlier change : Option Json) : Option Json :=
  change.elim earlier (changed earlier)

def amend (members : Keyed Json) (key : String) (change : Json) : Keyed Json :=
  match changed (Keyed.get? members key) change with
  | none => Keyed.erase key members
  | some j => Keyed.put key j members

theorem mergeMembers_cons (members : Keyed Json) (key : String) (change : Json)
    (rest : List (String × Json)) :
    mergeMembers members ((key, change) :: rest)
      = mergeMembers (amend members key change) rest := by
  rw [mergeMembers, amend, changed]
  cases change.isNull <;> rfl

theorem get?_amend (members : Keyed Json) (key other : String) (change : Json) :
    Keyed.get? (amend members key change) other
      = if other = key then changed (Keyed.get? members key) change
        else Keyed.get? members other := by
  unfold amend
  cases changed (Keyed.get? members key) change with
  | none => exact Keyed.get?_erase key other members
  | some j => exact Keyed.get?_put key other j members

theorem mem_amend {members : Keyed Json} {key : String} {change : Json} {e : String × Json}
    (he : e ∈ amend members key change) :
    e ∈ members ∨ e.1 = key ∧ changed (Keyed.get? members key) change = some e.2 := by
  unfold amend at he
  cases h : changed (Keyed.get? members key) change with
  | none =>
    rw [h] at he
    exact .inl (Keyed.mem_of_mem_erase he)
  | some j =>
    rw [h] at he
    rcases Keyed.eq_or_mem_of_mem_put he with rfl | he
    · exact .inr ⟨rfl, rfl⟩
    · exact .inl he

theorem merge_of_members {change : Json} (h : ∀ members, change ≠ .obj members) (target : Json) :
    merge target change = change := by
  cases change with
  | obj members => exact absurd rfl (h members)
  | null | bool | num | str | arr => rfl

/-! ## All changes -/

variable {members : Keyed Json} {changes : List (String × Json)}

/-- A patched member is what its change made of it; the others stay. -/
theorem get?_mergeMembers (hnodup : (changes.map Prod.fst).Nodup) (key : String) :
    Keyed.get? (mergeMembers members changes) key
      = patched (Keyed.get? members key) (Keyed.get? changes key) := by
  induction changes generalizing members with
  | nil => rfl
  | cons e rest ih =>
    obtain ⟨k, change⟩ := e
    obtain ⟨hk, hrest⟩ := List.nodup_cons.1 hnodup
    rw [mergeMembers_cons, ih hrest, get?_amend]
    by_cases hkey : key = k
    · subst hkey
      simp [Keyed.get?_eq_none_iff.2 hk, Keyed.get?, patched]
    · simp [Keyed.get?, hkey]

theorem mem_mergeMembers (hnodup : (changes.map Prod.fst).Nodup) {e : String × Json}
    (he : e ∈ mergeMembers members changes) :
    e ∈ members ∨ ∃ change, (e.1, change) ∈ changes
      ∧ changed (Keyed.get? members e.1) change = some e.2 := by
  induction changes generalizing members with
  | nil => exact .inl he
  | cons first rest ih =>
    obtain ⟨k, change⟩ := first
    obtain ⟨hk, hrest⟩ := List.nodup_cons.1 hnodup
    rw [mergeMembers_cons] at he
    rcases ih hrest he with hearlier | ⟨later, hlater, heq⟩
    · rcases mem_amend hearlier with hmember | ⟨hkey, heq⟩
      · exact .inl hmember
      · exact .inr ⟨change, hkey ▸ List.mem_cons_self, hkey ▸ heq⟩
    · have hne : e.1 ≠ k := fun hkey => hk (hkey ▸ List.mem_map.2 ⟨_, hlater, rfl⟩)
      rw [get?_amend, if_neg hne] at heq
      exact .inr ⟨later, List.mem_cons_of_mem _ hlater, heq⟩

/-! ## Written records as patches -/

theorem changed_of_ne_null {change : Json} (h : change ≠ .null) (earlier : Option Json) :
    changed earlier change = some (merge (earlier.getD .null) change) := by
  cases change with
  | null => exact absurd rfl h
  | bool | num | str | arr | obj => rfl

theorem merge_ne_null {change : Json} (h : change ≠ .null) (target : Json) :
    merge target change ≠ .null := by
  cases change with
  | null => exact absurd rfl h
  | bool | num | str | arr | obj => exact Json.noConfusion

/-- A missing value is written as null, which removes what stood there. -/
theorem changed_orNull {α : Type} {write : α → Json} (hnull : ∀ a, write a ≠ .null)
    (earlier : Option Json) (o : Option α) :
    changed earlier (orNull (o.map write))
      = o.map fun a => merge (earlier.getD .null) (write a) := by
  cases o with
  | none => rfl
  | some a => exact changed_of_ne_null (hnull a) earlier

theorem nodup_written (fields : Keyed (Option Json)) (extra : Keyed Json) :
    ((written fields extra).map Prod.fst).Nodup :=
  (Keyed.ordered_ofList _).nodup

theorem field?_merge_object {entries : List (String × Json)}
    (hnodup : (entries.map Prod.fst).Nodup) (shape : Shape) (target : Json) (name : String) :
    shape.field? (merge target (object entries)) name
      = patched (Keyed.get? target.members name) (Keyed.get? entries name) := by
  rw [← Keyed.get?_ofList_of_nodup hnodup]
  exact get?_mergeMembers (Keyed.ordered_ofList _).nodup name

/-- A record that is written over an earlier object changes the fields that it has. -/
theorem field?_merge_withExtra {shape : Shape} {fields : Keyed (Option Json)}
    {extra : Keyed Json} (h : Fills shape fields extra) (target : Json) {name : String}
    (hname : name ∈ shape.fieldNames) :
    shape.field? (merge target (withExtra fields extra)) name
      = patched (Keyed.get? target.members name) (Keyed.get? fields name).join := by
  have hfield := h.field? hname
  rw [withExtra_eq] at hfield ⊢
  have hget : Keyed.get? (written fields extra) name = (Keyed.get? fields name).join := hfield
  rw [← hget]
  exact get?_mergeMembers (nodup_written _ _) name

/-! ## Shapes -/

/-- An object keeps the shape of its record if every change suits its field and removes none that
is required. -/
theorem check_mergeMembers {wanted : String} {layout : Layout}
    {fields : List (String × Presence × Shape)} (hnodup : (changes.map Prod.fst).Nodup)
    (hmembers : ∀ e ∈ members, Shape.checkMember fields e.1 e.2 = .ok ())
    (hchanges : ∀ e ∈ changes, ∀ j, changed (Keyed.get? members e.1) e.2 = some j →
      Shape.checkMember fields e.1 j = .ok ())
    (hrequired : ∀ f ∈ fields, f.2.1 = .required →
      (Keyed.get? (mergeMembers members changes) f.1).isSome) :
    (Shape.record wanted layout fields).check (.obj (mergeMembers members changes)) = .ok () := by
  rw [Shape.check_record]
  refine ⟨fun e he => ?_, hrequired⟩
  rcases mem_mergeMembers hnodup he with hmember | ⟨change, hchange, heq⟩
  · exact hmembers e hmember
  · exact hchanges _ hchange e.2 heq

end PatternSync.Json
