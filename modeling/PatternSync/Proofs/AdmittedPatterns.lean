import PatternSync.Api.Call
import PatternSync.Proofs.KeyOrder
import PatternSync.Proofs.PrintedSchemas
import PatternSync.Proofs.ReadBack

/-!
# Admitted patterns can be read

A schema and a shape say of the same documents what they have to be, the one to the API server and
the other to the operator. A schema `covers` a shape if it asks for at least as much: whatever it
admits has the shape (`check_of_covers`). That is decided by comparing the two field by field, and
the schema of patterns passes. Main statement: every stored pattern that was admitted is read, and
so is every list of them (`admitted_patterns_are_read`).
-/

namespace PatternSync

open Wire

/-! ## Shapes without their nulls -/

namespace Wire.Shape

/-- The shape of the values that are not null. -/
def bare : Shape → Shape
  | nullable inner => inner.bare
  | shape => shape

/-- Whether null has the shape for sure. -/
def takesNull : Shape → Bool
  | nullable _ => true
  | _ => false

theorem check_null {shape : Shape} (h : shape.takesNull = true) : shape.check .null = .ok () := by
  cases shape with
  | nullable inner => rfl
  | _ => cases h

theorem check_of_bare (shape : Shape) {j : Json} (h : shape.bare.check j = .ok ()) :
    shape.check j = .ok () := by
  match shape with
  | nullable inner => exact check_nullable.2 (.inr (check_of_bare inner h))
  | anything | bool | string | word _ | whole _ | time | base64 | choice _ | list _ | dict _
  | record _ _ _ => exact h

/-- An object has the shape of a record if each field suits what stands under its name. -/
theorem check_of_fits {wanted : String} {layout : Layout}
    {fields : List (String × Presence × Shape)} {members : Keyed Json}
    (hnodup : (fields.map Prod.fst).Nodup) (hordered : members.Ordered)
    (hfits : ∀ f ∈ fields, Fits f (Keyed.get? members f.1)) :
    (record wanted layout fields).check (.obj members) = .ok () := by
  rw [check_record]
  constructor
  · intro e he
    by_cases hname : e.1 ∈ fields.map Prod.fst
    · obtain ⟨f, hf, heq⟩ := List.mem_map.1 hname
      have hget : Keyed.get? members e.1 = some e.2 := Keyed.get?_of_mem hordered.nodup he
      rw [← heq] at hget ⊢
      rw [checkMember_of_mem hnodup hf]
      exact (hfits f hf).check e.2 hget
    · exact checkMember_of_not_mem hname e.2
  · intro f hf hrequired
    exact (hfits f hf).present hrequired

end Wire.Shape

/-! ## Schemas that cover shapes -/

namespace Schema

mutual

/-- Whether the schema is at least as strict as the shape. -/
def covers : Schema → Shape → Bool
  | string, shape => (shape.bare matches .string)
  | boolean, shape => (shape.bare matches .bool)
  | unsigned, shape =>
    match shape.bare with
    | .whole range => decide (range.least ≤ 0 ∧ 4294967295 ≤ range.greatest)
    | _ => false
  | time, shape => (shape.bare matches .time)
  | choice names, shape =>
    match shape.bare with
    | .choice variants => decide (∀ name ∈ names, name ∈ variants)
    | _ => false
  | list item, shape =>
    match shape.bare with
    | .list itemShape => item.covers itemShape
    | _ => false
  | record properties, shape | openRecord properties, shape =>
    match shape.bare with
    | .record _ _ fields => decide ((fields.map Prod.fst).Nodup)
        && decide (∀ f ∈ fields, f.1 ∈ properties.map Prod.fst) && coversFields properties fields
    | _ => false
  | nullable inner, shape => shape.takesNull && inner.covers shape
  | described _ inner, shape => inner.covers shape
  | defaulting _ inner, shape => inner.covers shape

/-- Whether the properties are at least as strict as the fields of the same names. -/
def coversFields : List (String × Bool × Schema) → List (String × Presence × Shape) → Bool
  | [], _ => true
  | (name, required, schema) :: rest, fields =>
    (match Keyed.get? fields name with
      | some (presence, shape) =>
        schema.covers shape && (required || decide (presence ≠ .required))
      | none => true)
    && coversFields rest fields

end

/-- The values that schemas admit directly, and those that shapes accept. -/
theorem checkWhole_of_admits {range : WholeRange} {j : Json} (hadmits : unsigned.admits j = true)
    (hrange : range.least ≤ 0 ∧ 4294967295 ≤ range.greatest) :
    (Shape.whole range).check j = .ok () := by
  cases j with
  | num n =>
    cases n with
    | int i =>
      have hi := of_decide_eq_true hadmits
      exact if_pos ⟨Int.le_trans hrange.1 hi.1, Int.le_trans hi.2 hrange.2⟩
    | double d => cases hadmits
  | _ => cases hadmits

theorem checkTime_of_admits {j : Json} (hadmits : time.admits j = true) :
    Shape.time.check j = .ok () := by
  cases j with
  | str s =>
    rw [admits] at hadmits
    rw [Shape.check, Shape.checkTime]
    cases hread : Instant.ofText s with
    | ok t => rfl
    | error p =>
      rw [hread] at hadmits
      cases hadmits
  | _ => cases hadmits

theorem checkChoice_of_admits {names variants : List String} {j : Json}
    (hadmits : (choice names).admits j = true) (hnames : ∀ name ∈ names, name ∈ variants) :
    (Shape.choice variants).check j = .ok () := by
  cases j with
  | str s => exact if_pos (hnames s (of_decide_eq_true hadmits))
  | _ => cases hadmits

/-- An object has the shape of a record as soon as what stands under the name of a property suits
the field of that name. -/
theorem check_of_fitting {properties : List (String × Bool × Schema)} {wanted : String}
    {layout : Layout} {fields : List (String × Presence × Shape)} {members : Keyed Json}
    (hcovers : (decide ((fields.map Prod.fst).Nodup)
      && decide (∀ f ∈ fields, f.1 ∈ properties.map Prod.fst)
      && coversFields properties fields) = true)
    (hordered : members.Ordered)
    (hfits : coversFields properties fields = true → ∀ f : String × Presence × Shape,
      f.1 ∈ properties.map Prod.fst → Keyed.get? fields f.1 = some f.2 →
        Fits f (Keyed.get? members f.1)) :
    (Shape.record wanted layout fields).check (.obj members) = .ok () := by
  rw [Bool.and_eq_true, Bool.and_eq_true, decide_eq_true_eq, decide_eq_true_eq] at hcovers
  obtain ⟨⟨hnodup, hnames⟩, hfields⟩ := hcovers
  exact Shape.check_of_fits hnodup hordered fun f hf =>
    hfits hfields f (hnames f hf) (Keyed.get?_of_mem hnodup hf)

mutual

theorem check_of_covers : (s : Schema) → ∀ {shape : Shape} {j : Json}, s.covers shape = true →
    j.inKeyOrder = true → s.admits j = true → shape.check j = .ok ()
  | string, shape, j, hcovers, _, hadmits => by
    refine shape.check_of_bare ?_
    rw [covers] at hcovers
    split at hcovers
    · rename_i hbare
      rw [hbare]
      cases j with
      | str s => rfl
      | _ => cases hadmits
    · cases hcovers
  | boolean, shape, j, hcovers, _, hadmits => by
    refine shape.check_of_bare ?_
    rw [covers] at hcovers
    split at hcovers
    · rename_i hbare
      rw [hbare]
      cases j with
      | bool b => rfl
      | _ => cases hadmits
    · cases hcovers
  | unsigned, shape, j, hcovers, _, hadmits => by
    refine shape.check_of_bare ?_
    rw [covers] at hcovers
    split at hcovers
    · rename_i range hbare
      rw [hbare]
      exact checkWhole_of_admits hadmits (of_decide_eq_true hcovers)
    · cases hcovers
  | time, shape, j, hcovers, _, hadmits => by
    refine shape.check_of_bare ?_
    rw [covers] at hcovers
    split at hcovers
    · rename_i hbare
      rw [hbare]
      exact checkTime_of_admits hadmits
    · cases hcovers
  | choice names, shape, j, hcovers, _, hadmits => by
    refine shape.check_of_bare ?_
    rw [covers] at hcovers
    split at hcovers
    · rename_i variants hbare
      rw [hbare]
      exact checkChoice_of_admits hadmits (of_decide_eq_true hcovers)
    · cases hcovers
  | list item, shape, j, hcovers, hordered, hadmits => by
    refine shape.check_of_bare ?_
    rw [covers] at hcovers
    split at hcovers
    · rename_i itemShape hbare
      rw [hbare]
      cases j with
      | arr items =>
        rw [admits, List.all_eq_true] at hadmits
        rw [Shape.check_list]
        exact fun k hk =>
          check_of_covers item hcovers (Json.inKeyOrder_arr.1 hordered k hk) (hadmits k hk)
      | _ => cases hadmits
    · cases hcovers
  | record properties, shape, j, hcovers, hordered, hadmits
  | openRecord properties, shape, j, hcovers, hordered, hadmits => by
    refine shape.check_of_bare ?_
    rw [covers] at hcovers
    split at hcovers
    · rename_i wanted layout fields hbare
      rw [hbare]
      cases j with
      | obj members =>
        obtain ⟨hmembers, hvalues⟩ := Json.inKeyOrder_obj.1 hordered
        exact check_of_fitting hcovers hmembers fun hfields f hname hfield =>
          fits_of_coversFields properties hfields hvalues hadmits hname hfield
      | _ => cases hadmits
    · cases hcovers
  | nullable inner, shape, j, hcovers, hordered, hadmits => by
    rw [covers, Bool.and_eq_true] at hcovers
    rw [admits, Bool.or_eq_true] at hadmits
    rcases hadmits with hnull | hadmits
    · cases j with
      | null => exact Shape.check_null hcovers.1
      | _ => cases hnull
    · exact check_of_covers inner hcovers.2 hordered hadmits
  | described text inner, shape, j, hcovers, hordered, hadmits =>
    check_of_covers inner hcovers hordered hadmits
  | defaulting value inner, shape, j, hcovers, hordered, hadmits =>
    check_of_covers inner hcovers hordered hadmits

theorem fits_of_coversFields : (properties : List (String × Bool × Schema)) →
    ∀ {fields : List (String × Presence × Shape)} {members : Keyed Json}
      {f : String × Presence × Shape},
      coversFields properties fields = true → (∀ e ∈ members, e.2.inKeyOrder = true) →
      admitsMembers properties members = true → f.1 ∈ properties.map Prod.fst →
      Keyed.get? fields f.1 = some f.2 → Fits f (Keyed.get? members f.1)
  | [], _, _, _, _, _, _, hmem, _ => absurd hmem List.not_mem_nil
  | (name, required, schema) :: rest, fields, members, f, hcovers, hordered, hadmits, hmem,
      hfield => by
    rw [coversFields, Bool.and_eq_true] at hcovers
    rw [admitsMembers, Bool.and_eq_true] at hadmits
    rcases List.mem_cons.1 hmem with hname | hrest
    · obtain ⟨fieldName, presence, shape⟩ := f
      cases hname
      have hproperty := hcovers.1
      have hvalue := hadmits.1
      rw [hfield] at hproperty
      obtain ⟨hschema, hpresence⟩ := Bool.and_eq_true_iff.1 hproperty
      constructor
      · rintro rfl
        cases hget : Keyed.get? members name with
        | none =>
          rw [hget] at hvalue
          cases required with
          | true => cases hvalue
          | false => simp at hpresence
        | some j => rfl
      · intro j hj
        rw [Option.mem_def.1 hj] at hvalue
        exact check_of_covers schema hschema (hordered _ (Keyed.mem_of_get? hj)) hvalue
    · exact fits_of_coversFields rest hcovers.2 hordered hadmits.2 hrest hfield

end

end Schema

/-! ## Patterns -/

/-- A document that the API server keeps as an object of a kind: its members are in order, as in
every document that is read from a text, its metadata can be read, and it is valid by the schema
that is printed for the kind. -/
structure Kept (d : ResourceDefinition) (j : Json) : Prop where
  ordered : j.inKeyOrder = true
  metadata : ∃ m, j.member? "metadata" = some m ∧ (decode Metadata.shape Metadata.ofJson m).isOk
  valid : ∃ schema, d.toJson.at? ResourceDefinition.schemaPlace = some schema
    ∧ SchemaDocument.validates schema j = true

theorem admits_of_kept {j : Json} (h : Kept Pattern.definition j) :
    Pattern.definition.admits j = true := by
  obtain ⟨schema, hplace, hvalid⟩ := h.valid
  rw [ResourceDefinition.at?_schemaPlace] at hplace
  cases hplace
  rwa [ResourceDefinition.validates_schema (by decide)] at hvalid

theorem check_of_kept {j : Json} (h : Kept Pattern.definition j) :
    Pattern.shape.check j = .ok () := by
  have hadmits := admits_of_kept h
  cases j with
  | obj members =>
    obtain ⟨hordered, hvalues⟩ := Json.inKeyOrder_obj.1 h.ordered
    have hadmitted : Schema.admitsMembers
        [("spec", true, PatternSpec.schema), ("status", false, PatternStatus.schema)] members
        = true := hadmits
    have hmetadata : Fits ("metadata", .required, Metadata.shape)
        (Keyed.get? members "metadata") := by
      obtain ⟨m, hm, hread⟩ := h.metadata
      have hget : Keyed.get? members "metadata" = some m := hm
      rw [hget]
      refine ⟨fun _ => rfl, ?_⟩
      rintro _ ⟨⟩
      rw [decode] at hread
      cases hcheck : Metadata.shape.check m with
      | ok u => rfl
      | error problem =>
        rw [hcheck] at hread
        cases hread
    have hcovers : Schema.coversFields
        [("spec", true, PatternSpec.schema), ("status", false, PatternStatus.schema)]
        [ ("metadata", .required, Metadata.shape), ("spec", .required, PatternSpec.shape),
          ("status", .keyed, .nullable PatternStatus.shape) ] = true := by
      decide
    have hspec : Fits ("spec", .required, PatternSpec.shape) (Keyed.get? members "spec") :=
      Schema.fits_of_coversFields _ hcovers hvalues hadmitted (by decide) rfl
    have hstatus : Fits ("status", .keyed, .nullable PatternStatus.shape)
        (Keyed.get? members "status") :=
      Schema.fits_of_coversFields _ hcovers hvalues hadmitted (by decide) rfl
    refine Shape.check_of_fits (by decide) hordered ?_
    simp only [List.forall_mem_cons]
    exact ⟨hmetadata, hspec, hstatus, List.forall_mem_nil _⟩
  | _ => cases hadmits

/-- Whatever the API server keeps as a pattern is read as one. So is every list of such patterns
that it answers with: no stored pattern keeps the others from being seen. -/
theorem admitted_patterns_are_read :
    (∀ j, Kept Pattern.definition j →
      decode Pattern.shape Pattern.ofJson j = .ok (Pattern.ofJson j))
    ∧ ∀ items : List Json, (∀ j ∈ items, Kept Pattern.definition j) → ∀ list : Json,
      list.inKeyOrder = true → list.member? "items" = some (.arr items) →
      (list.member? "metadata").isSome = true →
        Call.listPatterns.read (.document list) = .ok list := by
  refine ⟨fun j hj => ?_, fun items hitems list hordered hlist hmetadata => ?_⟩
  · rw [decode, check_of_kept hj]
    rfl
  · have hcheck : Call.patternListShape.check list = .ok () := by
      cases list with
      | obj members =>
        refine Shape.check_of_fits (by decide) (Json.inKeyOrder_obj.1 hordered).1 ?_
        have hget : Keyed.get? members "items" = some (.arr items) := hlist
        have hall : (Shape.list Pattern.shape).check (.arr items) = .ok () :=
          Shape.check_list.2 fun j hj => check_of_kept (hitems j hj)
        simp only [List.forall_mem_cons]
        refine ⟨⟨fun _ => hmetadata, fun _ _ => rfl⟩, ?_, List.forall_mem_nil _⟩
        rw [hget]
        exact fits_some hall
      | _ => cases hlist
    have hread : Call.listPatterns.read (.document list)
        = Body.read Call.patternListShape (.document list) := rfl
    rw [hread, Body.read, hcheck]

/-- A pattern with nulls where they are admitted, and the greatest interval. -/
def keptDocument : Json :=
  .object
    [ ("apiVersion", .str Pattern.apiVersion), ("kind", .str "Pattern"),
      ("metadata", .object [("name", .str "mcg"), ("namespace", .str "default")]),
      ("spec", .object
        [ ("clusterGroupName", .str "hub"), ("gitOpsSpec", .null),
          ("gitSpec", .object
            [ ("targetRepo", .str "https://example.com/mcg"),
              ("pollInterval", .int 4294967295) ]) ]),
      ("status", .object
        [ ("conditions", .arr
            [ .object
                [ ("type", .str "GitInSync"), ("status", .str "True"),
                  ("lastUpdateTime", .str "2024-03-01T12:00:00Z"),
                  ("lastTransitionTime", .null) ] ]) ]) ]

theorem admitted_patterns_are_read_with_nulls :
    Kept Pattern.definition keptDocument
      ∧ decode Pattern.shape Pattern.ofJson keptDocument = .ok (Pattern.ofJson keptDocument)
      ∧ ∃ list, list.member? "items" = some (.arr [keptDocument])
        ∧ Call.listPatterns.read (.document list) = .ok list := by
  have hadmitted : Pattern.definition.admits keptDocument = true := by decide +kernel
  have hvalid : SchemaDocument.validates Pattern.definition.schema keptDocument = true :=
    (ResourceDefinition.validates_schema (by decide) _).trans hadmitted
  have hkept : Kept Pattern.definition keptDocument :=
    { ordered := by decide +kernel
      metadata := ⟨_, rfl, by decide +kernel⟩
      valid := ⟨_, ResourceDefinition.at?_schemaPlace _, hvalid⟩ }
  refine ⟨hkept, admitted_patterns_are_read.1 _ hkept,
    .obj [("items", .arr [keptDocument]), ("metadata", .obj [])], rfl, ?_⟩
  refine admitted_patterns_are_read.2 [keptDocument] ?_ _ (by decide +kernel) rfl rfl
  intro j hj
  obtain rfl := List.mem_singleton.1 hj
  exact hkept

end PatternSync
