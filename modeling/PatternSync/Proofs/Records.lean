import PatternSync.Application.Wire
import PatternSync.Proofs.Entries

/-!
# Records as documents

When a document has the shape of a record, and what is read back from a record that was written.
A record is written as its present fields followed by the members it does not know. Main
statements: each field is read back as it was written (`Fills.field?`), the unknown members
come back in key order (`Fills.unknownMembers`), and the written record has its shape as soon
as each field has (`Fills.check`).
-/

namespace PatternSync.Wire

/-! ## Shapes -/

theorem forM_eq_ok_iff {α ε : Type} {f : α → Except ε Unit} {items : List α} :
    items.forM f = .ok () ↔ ∀ a ∈ items, f a = .ok () := by
  induction items with
  | nil => exact iff_of_true rfl fun a h => absurd h List.not_mem_nil
  | cons a rest ih =>
    rw [List.forM, List.forall_mem_cons, ← ih]
    cases h : f a with
    | error e => simp [bind, Except.bind]
    | ok u => simp [bind, Except.bind]

namespace Shape

theorem checkPresent_eq_ok_iff {members : Keyed Json}
    {fields : List (String × Presence × Shape)} :
    checkPresent members fields = .ok ()
      ↔ ∀ f ∈ fields, f.2.1 = .required → (Keyed.get? members f.1).isSome := by
  unfold checkPresent missing?
  generalize h : fields.find? _ = found
  cases found with
  | none =>
    simp only [Option.map_none, true_iff]
    intro f hf hreq
    have hfound := List.find?_eq_none.1 h f hf
    simpa [hreq, Option.isSome_iff_ne_none] using hfound
  | some f =>
    have hf := List.mem_of_find?_eq_some h
    have hlack := List.find?_some h
    simp only [Option.map_some, reduceCtorEq, false_iff]
    intro hall
    have hthere := hall f hf
    simp only [decide_eq_true_eq] at hlack
    rw [Option.isNone_iff_eq_none] at hlack
    simp [hlack] at hthere

theorem check_record {wanted : String} {layout : Layout}
    {fields : List (String × Presence × Shape)} {members : Keyed Json} :
    (record wanted layout fields).check (.obj members) = .ok ()
      ↔ (∀ e ∈ members, checkMember fields e.1 e.2 = .ok ())
        ∧ ∀ f ∈ fields, f.2.1 = .required → (Keyed.get? members f.1).isSome := by
  rw [← checkPresent_eq_ok_iff, ← forM_eq_ok_iff]
  unfold check
  cases h : members.forM fun e => checkMember fields e.1 e.2 with
  | error e => simp [bind, Except.bind]
  | ok u => simp [bind, Except.bind]

@[simp] theorem check_list {item : Shape} {items : List Json} :
    (list item).check (.arr items) = .ok () ↔ ∀ j ∈ items, item.check j = .ok () := by
  rw [check]
  exact forM_eq_ok_iff

@[simp] theorem check_dict {value : Shape} {members : Keyed Json} :
    (dict value).check (.obj members) = .ok () ↔ ∀ e ∈ members, value.check e.2 = .ok () := by
  rw [check]
  exact forM_eq_ok_iff

theorem check_nullable {inner : Shape} {j : Json} :
    (nullable inner).check j = .ok () ↔ j = .null ∨ inner.check j = .ok () := by
  cases j <;> simp [check]

theorem checkMember_of_not_mem {fields : List (String × Presence × Shape)} {key : String}
    (h : key ∉ fields.map Prod.fst) (j : Json) : checkMember fields key j = .ok () := by
  induction fields with
  | nil => rfl
  | cons f rest ih =>
    obtain ⟨name, presence, shape⟩ := f
    obtain ⟨hname, hrest⟩ := not_or.1 (fun hor => h (List.mem_cons.2 hor))
    rw [checkMember, if_neg fun heq => hname heq.symm]
    exact ih hrest

end Shape

/-! ## Members apart from the fields -/

def Apart (names : List String) (members : Keyed Json) : Prop :=
  ∀ e ∈ members, e.1 ∉ names

theorem apart_nil (names : List String) : Apart names [] :=
  fun _ h => absurd h List.not_mem_nil

theorem apart_unknownMembers (shape : Shape) (j : Json) :
    Apart shape.fieldNames (shape.unknownMembers j) := by
  intro e he
  have hkept := (List.mem_filter.1 he).2
  simpa using hkept

theorem Apart.get?_eq_none {names : List String} {members : Keyed Json} (h : Apart names members)
    {key : String} (hkey : key ∈ names) : Keyed.get? members key = none := by
  rw [Keyed.get?_eq_none_iff, List.mem_map]
  rintro ⟨e, he, rfl⟩
  exact h e he hkey

theorem Apart.reverse {names : List String} {members : Keyed Json} (h : Apart names members) :
    Apart names members.reverse :=
  fun e he => h e (List.mem_reverse.1 he)

/-! ## Written records -/

def present (fields : Keyed (Option Json)) : Keyed Json :=
  fields.filterMap fun e => e.2.map (e.1, ·)

theorem mem_present {fields : Keyed (Option Json)} {e : String × Json} :
    e ∈ present fields ↔ (e.1, some e.2) ∈ fields := by
  rw [present, List.mem_filterMap]
  constructor
  · rintro ⟨f, hf, hmap⟩
    obtain ⟨v, hv, rfl⟩ := Option.map_eq_some_iff.1 hmap
    rw [← hv]
    exact hf
  · intro h
    exact ⟨_, h, rfl⟩

theorem nodup_present {fields : Keyed (Option Json)} (h : (fields.map Prod.fst).Nodup) :
    ((present fields).map Prod.fst).Nodup := by
  induction fields with
  | nil => exact List.nodup_nil
  | cons f rest ih =>
    obtain ⟨name, value⟩ := f
    obtain ⟨hname, hrest⟩ := List.nodup_cons.1 h
    cases value with
    | none => exact ih hrest
    | some v =>
      refine List.nodup_cons.2 ⟨fun hmem => hname ?_, ih hrest⟩
      obtain ⟨e, he, heq⟩ := List.mem_map.1 hmem
      exact heq ▸ List.mem_map.2 ⟨_, mem_present.1 he, rfl⟩

/-- The members of a written record. -/
def written (fields : Keyed (Option Json)) (extra : Keyed Json) : Keyed Json :=
  Keyed.ofList (present fields ++ extra)

theorem withExtra_eq (fields : Keyed (Option Json)) (extra : Keyed Json) :
    withExtra fields extra = .obj (written fields extra) := by
  have hextra : present (extra.map fun e => (e.1, some e.2)) = extra := by
    induction extra with
    | nil => rfl
    | cons e rest ih => exact congrArg (e :: ·) ih
  have happend : present (fields ++ extra.map fun e => (e.1, some e.2))
      = present fields ++ extra := by
    rw [present, List.filterMap_append]
    exact congrArg (present fields ++ ·) hextra
  exact congrArg (fun members => Json.obj (Keyed.ofList members)) happend

theorem objectOf_eq (fields : Keyed (Option Json)) :
    Json.objectOf fields = .obj (written fields []) := by
  rw [written, List.append_nil]
  rfl

/-- A field of a written record is found as it was written. -/
theorem get?_written {fields : Keyed (Option Json)} {extra : Keyed Json}
    (hnodup : (fields.map Prod.fst).Nodup) (hapart : Apart (fields.map Prod.fst) extra)
    {key : String} (hkey : key ∈ fields.map Prod.fst) :
    Keyed.get? (written fields extra) key = (Keyed.get? fields key).join := by
  have hextra : Keyed.get? extra.reverse key = none := hapart.reverse.get?_eq_none hkey
  rw [written, Keyed.get?_ofList, List.reverse_append, Keyed.get?_append, hextra, Option.none_or,
    Keyed.get?_reverse (nodup_present hnodup), present, Keyed.get?_filterMap hnodup]

/-- Any other member is one of the unknown members. -/
theorem get?_written_of_not_mem {fields : Keyed (Option Json)} {extra : Keyed Json} {key : String}
    (hkey : key ∉ fields.map Prod.fst) :
    Keyed.get? (written fields extra) key = Keyed.get? extra.reverse key := by
  have hfields : Keyed.get? (present fields).reverse key = none := by
    rw [Keyed.get?_eq_none_iff, List.mem_map]
    rintro ⟨e, he, rfl⟩
    exact hkey (List.mem_map.2 ⟨_, mem_present.1 (List.mem_reverse.1 he), rfl⟩)
  rw [written, Keyed.get?_ofList, List.reverse_append, Keyed.get?_append, hfields, Option.or_none]

/-- The unknown members of a written record come back in key order. -/
theorem filter_written {fields : Keyed (Option Json)} {extra : Keyed Json}
    (hapart : Apart (fields.map Prod.fst) extra) :
    (written fields extra).filter (fun e => e.1 ∉ fields.map Prod.fst) = Keyed.ofList extra := by
  refine Keyed.eq_of_get?_eq ?_ (Keyed.ordered_ofList _) fun key => ?_
  · exact List.Pairwise.filter _ (Keyed.ordered_ofList _)
  · rw [Keyed.get?_filter fun k => decide (k ∉ fields.map Prod.fst), Keyed.get?_ofList]
    by_cases hkey : key ∈ fields.map Prod.fst
    · rw [if_neg (by simpa using hkey), hapart.reverse.get?_eq_none hkey]
    · rw [if_pos (by simpa using hkey), get?_written_of_not_mem hkey]

/-! ## Records of a shape -/

/-- The fields of a shape, there or not, and unknown members beside them. -/
structure Fills (shape : Shape) (fields : Keyed (Option Json)) (extra : Keyed Json) : Prop where
  names : fields.map Prod.fst = shape.fieldNames
  nodup : shape.fieldNames.Nodup
  apart : Apart shape.fieldNames extra

/-- What stands in the place of a field, if anything, suits it. -/
structure Fits (field : String × Presence × Shape) (value : Option Json) : Prop where
  present : field.2.1 = .required → value.isSome
  check : ∀ j ∈ value, field.2.2.check j = .ok ()

section

variable {shape : Shape} {fields : Keyed (Option Json)} {extra : Keyed Json}

theorem Fills.field? (h : Fills shape fields extra) {name : String}
    (hname : name ∈ shape.fieldNames) :
    shape.field? (withExtra fields extra) name = (Keyed.get? fields name).join := by
  rw [withExtra_eq]
  refine get?_written ?_ ?_ ?_
  · exact h.names ▸ h.nodup
  · exact h.names ▸ h.apart
  · exact h.names ▸ hname

theorem Fills.unknownMembers (h : Fills shape fields extra) :
    shape.unknownMembers (withExtra fields extra) = Keyed.ofList extra := by
  have hapart : Apart (fields.map Prod.fst) extra := h.names ▸ h.apart
  rw [withExtra_eq, ← filter_written hapart, h.names]
  rfl

end

theorem Shape.checkMember_of_mem {spec : List (String × Presence × Shape)}
    (hnodup : (spec.map Prod.fst).Nodup) {field : String × Presence × Shape}
    (hfield : field ∈ spec) (j : Json) : checkMember spec field.1 j = field.2.2.check j := by
  induction spec with
  | nil => cases hfield
  | cons f rest ih =>
    obtain ⟨hf, hrest⟩ := List.nodup_cons.1 hnodup
    rcases List.mem_cons.1 hfield with rfl | hfield
    · rw [checkMember, if_pos rfl]
    · have hne : f.1 ≠ field.1 := fun heq => hf (heq ▸ List.mem_map_of_mem hfield)
      rw [checkMember, if_neg hne, ih hrest hfield]

/-- A record has its shape as soon as each field has. -/
theorem Fills.check {wanted : String} {layout : Layout} {spec : List (String × Presence × Shape)}
    {fields : Keyed (Option Json)} {extra : Keyed Json}
    (h : Fills (.record wanted layout spec) fields extra)
    (hfits : ∀ f ∈ spec, Fits f (Keyed.get? fields f.1).join) :
    (Shape.record wanted layout spec).check (withExtra fields extra) = .ok () := by
  have hnames : fields.map Prod.fst = spec.map Prod.fst := h.names
  have hnodup : (fields.map Prod.fst).Nodup := hnames ▸ h.nodup
  rw [withExtra_eq, Shape.check_record]
  constructor
  · intro e he
    rcases List.mem_append.1 (Keyed.mem_of_mem_ofList he) with hfield | hextra
    · have hmem : (e.1, some e.2) ∈ fields := mem_present.1 hfield
      have hname : e.1 ∈ spec.map Prod.fst := hnames ▸ List.mem_map.2 ⟨_, hmem, rfl⟩
      obtain ⟨f, hf, heq⟩ := List.mem_map.1 hname
      have hcheck := (hfits f hf).check e.2
      rw [heq, Keyed.get?_of_mem hnodup hmem] at hcheck
      rw [← heq, Shape.checkMember_of_mem h.nodup hf]
      exact hcheck rfl
    · exact Shape.checkMember_of_not_mem (h.apart e hextra) e.2
  · intro f hf hreq
    rw [get?_written hnodup (hnames ▸ h.apart) (hnames ▸ List.mem_map_of_mem hf)]
    exact (hfits f hf).present hreq

/-! ## Written lists -/

theorem listOf_map {α : Type} {read : Json → α} {write : α → Json} {back : α → α}
    {items : List α} (h : ∀ a ∈ items, read (write a) = back a) :
    listOf read (Json.listUnlessEmpty (items.map write)) = items.map back := by
  cases items with
  | nil => rfl
  | cons a rest =>
    show ((a :: rest).map write).map read = _
    rw [List.map_map]
    exact List.map_congr_left h

theorem listOf_map_self {α : Type} {read : Json → α} {write : α → Json} {items : List α}
    (h : ∀ a, read (write a) = a) :
    listOf read (Json.listUnlessEmpty (items.map write)) = items := by
  rw [listOf_map fun a _ => h a, List.map_id']

end PatternSync.Wire
