import PatternSync.Proofs.MergePatch

/-!
# Documents without nulls

A null-free document has no null anywhere, and the members of its objects stand in key order. Main
statements: a null-free document is left as it is by a merge patch that is equal to it (`merge_self`),
and so is a member whose change in the patch is equal to it (`member?_mergeMembers_of_same`). What
a record does not know therefore survives when the record is written over the document it was read
from (`member?_merge_withExtra`).
-/

namespace PatternSync

open Wire

instance {β : Type} (entries : Keyed β) : Decidable entries.Ordered :=
  inferInstanceAs (Decidable (entries.Pairwise fun a b => a.1 < b.1))

namespace Json

/-! ## Documents -/

mutual

/-- Whether there is no null anywhere and the members of every object stand in key order. -/
def isNullFree : Json → Bool
  | .null => false
  | .bool _ | .num _ | .str _ => true
  | .arr items => itemsNullFree items
  | .obj members => decide (Keyed.Ordered members) && membersNullFree members

def itemsNullFree : List Json → Bool
  | [] => true
  | j :: rest => isNullFree j && itemsNullFree rest

def membersNullFree : List (String × Json) → Bool
  | [] => true
  | (_, j) :: rest => isNullFree j && membersNullFree rest

end

@[simp] theorem itemsNullFree_iff {items : List Json} :
    itemsNullFree items = true ↔ ∀ j ∈ items, j.isNullFree = true := by
  induction items with
  | nil => simp [itemsNullFree]
  | cons j rest ih => simp [itemsNullFree, ih]

@[simp] theorem membersNullFree_iff {members : List (String × Json)} :
    membersNullFree members = true ↔ ∀ e ∈ members, e.2.isNullFree = true := by
  induction members with
  | nil => simp [membersNullFree]
  | cons e rest ih => simp [membersNullFree, ih]

theorem isNullFree_obj {members : Keyed Json} :
    (obj members).isNullFree = true ↔ members.Ordered ∧ ∀ e ∈ members, e.2.isNullFree = true := by
  simp [isNullFree]

theorem isNullFree_arr {items : List Json} :
    (arr items).isNullFree = true ↔ ∀ j ∈ items, j.isNullFree = true := by
  simp [isNullFree]

theorem ne_null_of_isNullFree {j : Json} (h : j.isNullFree = true) : j ≠ .null := by
  rintro rfl
  cases h

theorem member?_eq (j : Json) (key : String) : j.member? key = Keyed.get? j.members key := by
  cases j <;> rfl

section

variable {j : Json}

theorem ordered_of_isNullFree (h : j.isNullFree = true) : j.members.Ordered := by
  cases j with
  | obj members => exact (isNullFree_obj.1 h).1
  | null | bool | num | str | arr => exact List.Pairwise.nil

theorem isNullFree_members (h : j.isNullFree = true) : (obj j.members).isNullFree = true := by
  cases j with
  | obj members => exact h
  | null | bool | num | str | arr => rfl

theorem isNullFree_of_mem (h : j.isNullFree = true) {e : String × Json} (he : e ∈ j.members) :
    e.2.isNullFree = true := by
  cases j with
  | obj members => exact (isNullFree_obj.1 h).2 e he
  | null | bool | num | str | arr => exact absurd he List.not_mem_nil

theorem isNullFree_of_member? (h : j.isNullFree = true) {key : String} :
    ∀ k ∈ j.member? key, k.isNullFree = true := by
  intro k hk
  rw [member?_eq] at hk
  exact isNullFree_of_mem h (Keyed.mem_of_get? hk)

end

/-! ## Patches that say nothing new -/

theorem ordered_amend {members : Keyed Json} (h : members.Ordered) (key : String)
    (change : Json) : (amend members key change).Ordered := by
  unfold amend
  cases changed (Keyed.get? members key) change with
  | none => exact Keyed.ordered_erase key h
  | some j => exact Keyed.ordered_put key j h

/-- A change that makes of a member what it is leaves all members as they are. -/
theorem amend_eq_self {members : Keyed Json} (h : members.Ordered) {key : String} {change : Json}
    (hsame : changed (Keyed.get? members key) change = Keyed.get? members key) :
    amend members key change = members := by
  refine Keyed.eq_of_get?_eq (ordered_amend h key change) h fun other => ?_
  rw [get?_amend]
  split
  · rename_i heq
    rw [hsame, heq]
  · rfl

theorem mergeMembers_eq_self {members : Keyed Json} (h : members.Ordered)
    {changes : List (String × Json)}
    (hsame : ∀ e ∈ changes, changed (Keyed.get? members e.1) e.2 = Keyed.get? members e.1) :
    mergeMembers members changes = members := by
  induction changes with
  | nil => rfl
  | cons e rest ih =>
    obtain ⟨he, hrest⟩ := List.forall_mem_cons.1 hsame
    rw [mergeMembers_cons, amend_eq_self h he]
    exact ih hrest

mutual

theorem merge_self : (j : Json) → j.isNullFree = true → j.merge j = j
  | .null, h => by cases h
  | .bool _, _ | .num _, _ | .str _, _ | .arr _, _ => rfl
  | .obj members, h => by
    obtain ⟨hordered, hfree⟩ := isNullFree_obj.1 h
    have hsettled := merge_members_self members hfree
    refine congrArg Json.obj (mergeMembers_eq_self hordered fun e he => ?_)
    rw [Keyed.get?_of_mem hordered.nodup he, changed_of_ne_null (ne_null_of_isNullFree (hfree e he))]
    exact congrArg some (hsettled e he)

theorem merge_members_self : (members : List (String × Json)) →
    (∀ e ∈ members, e.2.isNullFree = true) → ∀ e ∈ members, e.2.merge e.2 = e.2
  | [], _, _, he => absurd he List.not_mem_nil
  | (_, j) :: rest, h, e, he => by
    obtain ⟨hj, hrest⟩ := List.forall_mem_cons.1 h
    rcases List.mem_cons.1 he with rfl | he
    · exact merge_self j hj
    · exact merge_members_self rest hrest e he

end

/-- A member whose change is equal to it stays, as does one without a change. -/
theorem patched_self {o : Option Json} (h : ∀ j ∈ o, j.isNullFree = true) : patched o o = o := by
  cases o with
  | none => rfl
  | some j =>
    have hj := h j rfl
    show changed (some j) j = some j
    rw [changed_of_ne_null (ne_null_of_isNullFree hj), Option.getD_some, merge_self j hj]

theorem member?_merge_object {entries : List (String × Json)}
    (hnodup : (entries.map Prod.fst).Nodup) (target : Json) (key : String) :
    (target.merge (object entries)).member? key
      = patched (target.member? key) (Keyed.get? entries key) := by
  rw [member?_eq target, ← Keyed.get?_ofList_of_nodup hnodup]
  exact get?_mergeMembers (Keyed.ordered_ofList _).nodup key

theorem member?_mergeMembers_of_same {j : Json} {changes : List (String × Json)}
    (hnodup : (changes.map Prod.fst).Nodup) {key : String}
    (h : ∀ k ∈ j.member? key, k.isNullFree = true)
    (hsame : Keyed.get? changes key = j.member? key) :
    (j.merge (.obj changes)).member? key = j.member? key := by
  show Keyed.get? (mergeMembers j.members changes) key = _
  rw [get?_mergeMembers hnodup, hsame, ← member?_eq]
  exact patched_self h

/-! ## Patches without nulls -/

mutual

/-- A merge patch brings in no null that it does not have. -/
theorem isNullFree_merge : (patch : Json) → patch.isNullFree = true → ∀ target : Json,
    (obj target.members).isNullFree = true → (target.merge patch).isNullFree = true
  | .null, h, _, _ => by cases h
  | .bool _, _, _, _ | .num _, _, _, _ | .str _, _, _, _ => rfl
  | .arr _, h, _, _ => h
  | .obj changes, h, target, htarget =>
    isNullFree_mergeMembers changes (fun e he => .inr ((isNullFree_obj.1 h).2 e he))
      target.members htarget

theorem isNullFree_mergeMembers : (changes : List (String × Json)) →
    (∀ e ∈ changes, e.2 = .null ∨ e.2.isNullFree = true) → ∀ members : Keyed Json,
      (obj members).isNullFree = true → (obj (mergeMembers members changes)).isNullFree = true
  | [], _, _, h => h
  | (key, change) :: rest, h, members, hmembers => by
    obtain ⟨hchange, hrest⟩ := List.forall_mem_cons.1 h
    obtain ⟨hordered, hfree⟩ := isNullFree_obj.1 hmembers
    rw [mergeMembers_cons]
    refine isNullFree_mergeMembers rest hrest _ (isNullFree_obj.2 ⟨ordered_amend hordered _ _, ?_⟩)
    intro e he
    rcases mem_amend he with he | ⟨-, heq⟩
    · exact hfree e he
    · rcases hchange with rfl | hchange
      · cases heq
      · -- the changed member is the earlier one, or nothing, with the change merged into it
        rw [changed_of_ne_null (ne_null_of_isNullFree hchange)] at heq
        rw [← Option.some.inj heq]
        refine isNullFree_merge change hchange _ ?_
        cases hget : Keyed.get? members key with
        | none => rfl
        | some j => exact isNullFree_members (hfree _ (Keyed.mem_of_get? hget))

end

end Json

/-! ## Records and what they do not know -/

namespace Wire

theorem Fills.member? {shape : Shape} {fields : Keyed (Option Json)} {extra : Keyed Json}
    (h : Fills shape fields extra) {name : String} (hname : name ∈ shape.fieldNames) :
    (withExtra fields extra).member? name = (Keyed.get? fields name).join := by
  have hfield := h.field? hname
  rw [withExtra_eq] at hfield ⊢
  exact hfield

/-- Members apart from the fields that are found again under their keys. -/
theorem get?_unknownMembers {shape : Shape} {j : Json} (h : j.members.Ordered) {key : String}
    (hkey : key ∉ shape.fieldNames) :
    Keyed.get? (shape.unknownMembers j).reverse key = j.member? key := by
  have hordered : (shape.unknownMembers j).Ordered := List.Pairwise.filter _ h
  rw [Keyed.get?_reverse hordered.nodup, Json.member?_eq, Shape.unknownMembers,
    Keyed.get?_filter fun name => decide (name ∉ shape.fieldNames), if_pos (by simpa using hkey)]

section

variable {shape : Shape} {fields : Keyed (Option Json)} {j : Json}

theorem get?_written_unknown (hfills : Fills shape fields (shape.unknownMembers j))
    (h : j.members.Ordered) {key : String} (hkey : key ∉ shape.fieldNames) :
    Keyed.get? (written fields (shape.unknownMembers j)) key = j.member? key := by
  rw [get?_written_of_not_mem (hfills.names ▸ hkey)]
  exact get?_unknownMembers h hkey

/-- A record that is written with the unknown members of a document has these members. -/
theorem member?_withExtra (hfills : Fills shape fields (shape.unknownMembers j))
    (h : j.members.Ordered) {key : String} (hkey : key ∉ shape.fieldNames) :
    (withExtra fields (shape.unknownMembers j)).member? key = j.member? key := by
  rw [withExtra_eq]
  exact get?_written_unknown hfills h hkey

theorem member?_merge_withExtra (hfills : Fills shape fields (shape.unknownMembers j))
    (h : j.isNullFree = true) {key : String} (hkey : key ∉ shape.fieldNames) :
    (j.merge (withExtra fields (shape.unknownMembers j))).member? key = j.member? key := by
  rw [withExtra_eq]
  exact Json.member?_mergeMembers_of_same (Json.nodup_written _ _) (Json.isNullFree_of_member? h)
    (get?_written_unknown hfills (Json.ordered_of_isNullFree h) hkey)

end

theorem isNullFree_withExtra {fields : Keyed (Option Json)} {extra : Keyed Json}
    (hfields : ∀ e ∈ fields, ∀ j ∈ e.2, j.isNullFree = true)
    (hextra : ∀ e ∈ extra, e.2.isNullFree = true) : (withExtra fields extra).isNullFree = true := by
  rw [withExtra_eq, Json.isNullFree_obj]
  refine ⟨Keyed.ordered_ofList _, fun e he => ?_⟩
  rcases List.mem_append.1 (Keyed.mem_of_mem_ofList he) with he | he
  · exact hfields _ (mem_present.1 he) _ rfl
  · exact hextra e he

end Wire

end PatternSync
