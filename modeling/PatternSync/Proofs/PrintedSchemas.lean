import PatternSync.Crd.Admission
import PatternSync.Json.Pointer
import PatternSync.Proofs.Entries

/-!
# Schemas as they are printed

What the document of a schema says, keyword by keyword, whatever document it is: a value is valid if
it meets every keyword that restricts values, or if it is null and null is permitted. A whole number
is one that is written without fraction and exponent. Keywords that only describe do not matter.
Main statement: the document that is printed for a schema says what the schema admits, provided
that no property is there twice (`validates_schema`).
-/

namespace PatternSync

/-! ## Numbers -/

namespace Number

def ratio : Number → Int × Nat
  | .int i => (i, 1)
  | .double d =>
    let (num, den) := d.toRatio
    (if d.negative then -(num : Int) else num, den)

def atMost (a b : Number) : Bool :=
  decide (a.ratio.1 * b.ratio.2 ≤ b.ratio.1 * a.ratio.2)

end Number

/-! ## Documents of schemas -/

namespace SchemaDocument

def hasType (name : String) (j : Json) : Bool :=
  match name, j with
  | "string", .str _ | "boolean", .bool _ | "array", .arr _ | "object", .obj _
  | "integer", .num (.int _) | "number", .num _ => true
  | _, _ => false

def hasFormat (name : String) (j : Json) : Bool :=
  match name, j with
  | "uint32", .num n => Number.atMost (.int 0) n && n.atMost (.int 4294967295)
  | "date-time", .str s => (Instant.ofText s).isOk
  | _, _ => true

def atLeast (least : Number) : Json → Bool
  | .num n => least.atMost n
  | _ => true

def hasAll (names : List Json) : Json → Bool
  | .obj members => names.all fun name =>
    match name with
    | .str key => (Keyed.get? members key).isSome
    | _ => false
  | _ => true

/-- Whether a value meets a keyword that says nothing about its parts. -/
def meetsPlain (keyword : String) (argument j : Json) : Bool :=
  match keyword, argument with
  | "type", .str name => hasType name j
  | "format", .str name => hasFormat name j
  | "minimum", .num least => atLeast least j
  | "enum", .arr values => decide (j ∈ values)
  | "required", .arr names => hasAll names j
  | _, _ => true

def permitsNull (keywords : Keyed Json) : Bool :=
  decide (Keyed.get? keywords "nullable" = some (.bool true))

mutual

/-- Whether a value is valid by the document of a schema. -/
def validates : Json → Json → Bool
  | .obj keywords, j => j.isNull && permitsNull keywords || meetsAll keywords j
  | _, _ => false

def meetsAll : List (String × Json) → Json → Bool
  | [], _ => true
  | (keyword, argument) :: rest, j =>
    (if keyword = "items" then (j.items?.getD []).all fun item => validates argument item
      else if keyword = "properties" then meetsProperties argument j.members
      else meetsPlain keyword argument j)
    && meetsAll rest j

def meetsProperties : Json → Keyed Json → Bool
  | .obj properties, members => meetsEach properties members
  | _, _ => true

def meetsEach : List (String × Json) → Keyed Json → Bool
  | [], _ => true
  | (name, schema) :: rest, members =>
    (match Keyed.get? members name with
      | some j => validates schema j
      | none => true)
    && meetsEach rest members

end

/-! ## Keywords that only describe -/

/-- The keywords that restrict the values. -/
def restricting : List String :=
  ["enum", "format", "items", "minimum", "properties", "required", "type"]

theorem meetsPlain_of_not_mem {keyword : String} (h : keyword ∉ restricting) (argument j : Json) :
    meetsPlain keyword argument j = true := by
  unfold meetsPlain
  split
  all_goals first | rfl | exact absurd (by decide) h

theorem meetsAll_cons_of_not_mem {keyword : String} (h : keyword ∉ restricting)
    (argument : Json) (rest : Keyed Json) (j : Json) :
    meetsAll ((keyword, argument) :: rest) j = meetsAll rest j := by
  have hitems : keyword ≠ "items" := fun heq => h (heq ▸ by decide)
  have hproperties : keyword ≠ "properties" := fun heq => h (heq ▸ by decide)
  rw [meetsAll, if_neg hitems, if_neg hproperties, meetsPlain_of_not_mem h, Bool.true_and]

theorem meetsAll_cons (keyword : String) (argument : Json) (rest : Keyed Json) (j : Json) :
    meetsAll ((keyword, argument) :: rest) j
      = (meetsAll [(keyword, argument)] j && meetsAll rest j) := by
  rw [meetsAll, meetsAll, meetsAll, Bool.and_true]

/-- A keyword that only describes changes nothing. -/
theorem meetsAll_put {keyword : String} (h : keyword ∉ restricting) (argument : Json)
    (keywords : Keyed Json) (j : Json) :
    meetsAll (Keyed.put keyword argument keywords) j = meetsAll keywords j := by
  induction keywords with
  | nil => rw [Keyed.put, meetsAll_cons_of_not_mem h]
  | cons entry rest ih =>
    obtain ⟨other, value⟩ := entry
    unfold Keyed.put
    split
    · rw [meetsAll_cons_of_not_mem h]
    · split
      · rename_i heq
        rw [meetsAll_cons_of_not_mem h, meetsAll_cons_of_not_mem (heq ▸ h)]
      · rw [meetsAll_cons, ih, ← meetsAll_cons]

/-- Where null is not permitted, the other keywords decide. -/
theorem validates_of_not_null {keywords : Keyed Json} (h : permitsNull keywords = false)
    (j : Json) : validates (.obj keywords) j = meetsAll keywords j := by
  rw [validates, h, Bool.and_false, Bool.false_or]

theorem validates_put {keyword : String} (h : keyword ∉ restricting) (hnull : keyword ≠ "nullable")
    (argument : Json) (keywords : Keyed Json) (j : Json) :
    validates (.obj (Keyed.put keyword argument keywords)) j = validates (.obj keywords) j := by
  rw [validates, validates, meetsAll_put h, permitsNull, permitsNull,
    Keyed.get?_put_of_ne hnull.symm]

theorem validates_put_nullable (keywords : Keyed Json) (j : Json) :
    validates (.obj (Keyed.put "nullable" (.bool true) keywords)) j
      = (j.isNull || validates (.obj keywords) j) := by
  rw [validates, validates, meetsAll_put (by decide), permitsNull, Keyed.get?_put_self]
  cases j.isNull <;> simp

/-- A property is checked by its own schema, whatever the others are. -/
theorem meetsEach_cons (name : String) (schema : Json) (rest members : Keyed Json) :
    meetsEach ((name, schema) :: rest) members
      = (meetsEach [(name, schema)] members && meetsEach rest members) := by
  rw [meetsEach, meetsEach, meetsEach, Bool.and_true]

theorem meetsEach_put {name : String} {properties : Keyed Json}
    (h : name ∉ properties.map Prod.fst) (schema : Json) (members : Keyed Json) :
    meetsEach (Keyed.put name schema properties) members
      = (meetsEach [(name, schema)] members && meetsEach properties members) := by
  induction properties with
  | nil => simp [Keyed.put, meetsEach]
  | cons entry rest ih =>
    obtain ⟨other, value⟩ := entry
    rw [List.map_cons, List.mem_cons, not_or] at h
    unfold Keyed.put
    split
    · exact meetsEach_cons name schema _ members
    · rw [if_neg h.1, meetsEach_cons other value (Keyed.put name schema rest), ih h.2,
        meetsEach_cons other value rest]
      exact Bool.and_left_comm _ _ _

/-! ## Objects -/

theorem recordMembers_eq (properties : Keyed Json) (required : List Json) (keeps : Bool) :
    Schema.recordMembers properties required keeps
      = ("properties", .obj properties)
        :: (if required.isEmpty then [] else [("required", .arr required)])
        ++ ("type", .str "object")
        :: (if keeps then [("x-kubernetes-preserve-unknown-fields", .bool true)] else []) := by
  cases hrequired : required.isEmpty <;> cases keeps <;>
    simp only [Schema.recordMembers, Json.objectOf, Json.object, Json.listUnlessEmpty, hrequired,
      Keyed.ofList, Keyed.put, Json.members, List.filterMap_cons, List.filterMap_nil,
      List.foldl_cons, List.foldl_nil, List.cons_append, List.nil_append, Option.map_some,
      Option.map_none, String.reduceLT, String.reduceEq, Bool.false_eq_true, ↓reduceIte]

theorem permitsNull_recordMembers (properties : Keyed Json) (required : List Json)
    (keeps : Bool) : permitsNull (Schema.recordMembers properties required keeps) = false := by
  rw [recordMembers_eq]
  cases required.isEmpty <;> cases keeps <;> simp [permitsNull, Keyed.get?]

/-- An object meets the keywords if its members do and it has all that are required; nothing else
does. -/
theorem meetsAll_recordMembers (properties : Keyed Json) (required : List Json) (keeps : Bool)
    (j : Json) :
    meetsAll (Schema.recordMembers properties required keeps) j
      = (meetsEach properties j.members && (hasAll required j && hasType "object" j)) := by
  have hempty : required.isEmpty = true → hasAll required j = true := by
    intro h
    rw [List.isEmpty_iff.1 h]
    cases j <;> rfl
  rw [recordMembers_eq]
  cases hrequired : required.isEmpty <;> cases keeps <;>
    simp [meetsAll, meetsProperties, meetsPlain, hrequired, hempty]

end SchemaDocument

/-! ## Printed schemas -/

namespace Schema

mutual

def distinct : Schema → Bool
  | record properties | openRecord properties => distinctProperties properties
  | list inner | nullable inner | described _ inner | defaulting _ inner => inner.distinct
  | _ => true

def distinctProperties : List (String × Bool × Schema) → Bool
  | [] => true
  | (name, _, schema) :: rest =>
    decide (name ∉ rest.map Prod.fst) && schema.distinct && distinctProperties rest

end

open SchemaDocument

theorem mem_propertyMembers {name : String} {properties : List (String × Bool × Schema)}
    (h : name ∈ (propertyMembers properties).map Prod.fst) : name ∈ properties.map Prod.fst := by
  induction properties with
  | nil => exact h
  | cons property rest ih =>
    obtain ⟨key, required, schema⟩ := property
    obtain ⟨entry, hentry, rfl⟩ := List.mem_map.1 h
    rcases Keyed.mem_put hentry with hkey | hrest
    · exact List.mem_cons.2 (.inl hkey)
    · exact List.mem_cons_of_mem _ (ih (List.mem_map_of_mem hrest))

theorem hasAll_requiredNames_cons {name : String} {required : Bool} {schema : Schema}
    {rest : List (String × Bool × Schema)} {members : Keyed Json} :
    hasAll (requiredNames ((name, required, schema) :: rest)) (.obj members)
      = ((!required || (Keyed.get? members name).isSome)
        && hasAll (requiredNames rest) (.obj members)) := by
  cases required <;> simp [requiredNames, hasAll]

theorem hasFormat_uint32 (i : Int) :
    hasFormat "uint32" (.num (.int i)) = decide (0 ≤ i ∧ i ≤ 4294967295) := by
  simp [hasFormat, Number.atMost, Number.ratio]

theorem atLeast_zero (i : Int) : atLeast (.double default) (.num (.int i)) = decide (0 ≤ i) := by
  have hzero : Number.ratio (.double default) = (0, 1) := by rfl
  rw [atLeast, Number.atMost, hzero]
  simp [Number.ratio]

mutual

/-- The printed document says what the schema admits. -/
theorem validates_members : (s : Schema) → s.distinct = true → ∀ j,
    validates (.obj s.members) j = s.admits j
  | string, _, j => by
    rw [members, validates_of_not_null rfl]
    cases j <;> simp [typed, meetsAll, meetsPlain, hasType, admits]
  | boolean, _, j => by
    rw [members, validates_of_not_null rfl]
    cases j <;> simp [typed, meetsAll, meetsPlain, hasType, admits]
  | unsigned, _, j => by
    rw [members, validates_of_not_null rfl]
    cases j with
    | num n =>
      cases n with
      | int i =>
        simp +contextual [meetsAll, meetsPlain, hasType, admits, hasFormat_uint32, atLeast_zero]
      | double d => simp [meetsAll, meetsPlain, hasType, admits]
    | _ => simp [meetsAll, meetsPlain, hasType, admits]
  | time, _, j => by
    rw [members, validates_of_not_null rfl]
    cases j <;> simp [meetsAll, meetsPlain, hasType, hasFormat, admits]
  | choice names, _, j => by
    rw [members, validates_of_not_null rfl]
    cases j <;> simp [meetsAll, meetsPlain, hasType, admits]
  | list item, h, j => by
    have hitem := validates_members item h
    rw [members, validates_of_not_null rfl]
    cases j <;> simp [meetsAll, meetsPlain, hasType, admits, Json.items?, hitem]
  | record properties, h, j | openRecord properties, h, j => by
    have hproperties := meetsEach_propertyMembers properties h
    rw [members, validates_of_not_null (permitsNull_recordMembers _ _ _), meetsAll_recordMembers]
    cases j with
    | obj members => simp [hasType, admits, Json.members, ← hproperties]
    | _ => simp [hasType, admits]
  | nullable inner, h, j => by
    rw [members, validates_put_nullable, validates_members inner h, admits]
  | described text inner, h, j => by
    rw [members, validates_put (by decide) (by decide), validates_members inner h, admits]
  | defaulting value inner, h, j => by
    rw [members, validates_put (by decide) (by decide), validates_members inner h, admits]

theorem meetsEach_propertyMembers : (properties : List (String × Bool × Schema)) →
    distinctProperties properties = true → ∀ members : Keyed Json,
      (meetsEach (propertyMembers properties) members
        && hasAll (requiredNames properties) (.obj members))
      = admitsMembers properties members
  | [], _, members => by
    simp [propertyMembers, requiredNames, meetsEach, hasAll, admitsMembers]
  | (name, required, schema) :: rest, h, members => by
    rw [distinctProperties, Bool.and_eq_true, Bool.and_eq_true, decide_eq_true_eq] at h
    obtain ⟨⟨hname, hschema⟩, hrest⟩ := h
    have hfresh : name ∉ (propertyMembers rest).map Prod.fst := mt mem_propertyMembers hname
    rw [propertyMembers, meetsEach_put hfresh, hasAll_requiredNames_cons, admitsMembers,
      ← meetsEach_propertyMembers rest hrest members, meetsEach, meetsEach, Bool.and_true]
    cases Keyed.get? members name with
    | none => simp [Bool.and_left_comm]
    | some j => simp [validates_members schema hschema j, Bool.and_assoc]

end

end Schema

/-! ## Printed definitions -/

theorem Json.child?_object {entries : List (String × Json)} (h : (entries.map Prod.fst).Nodup)
    (token : String) : (Json.object entries).child? token = Keyed.get? entries token :=
  Keyed.get?_ofList_of_nodup h token

namespace ResourceDefinition

def schemaPlace : Pointer :=
  ["spec", "versions", "0", "schema", "openAPIV3Schema"]

theorem at?_schemaPlace (d : ResourceDefinition) : d.toJson.at? schemaPlace = some d.schema := by
  obtain ⟨spec, hspec, hversions⟩ : ∃ spec, d.toJson.child? "spec" = some spec
      ∧ spec.child? "versions" = some (.arr [d.version]) :=
    ⟨_, (Json.child?_object (by simp) _).trans rfl, (Json.child?_object (by simp) _).trans rfl⟩
  obtain ⟨holder, hholder, hschema⟩ : ∃ holder, d.version.child? "schema" = some holder
      ∧ holder.child? "openAPIV3Schema" = some d.schema :=
    ⟨_, (Json.child?_object (by simp) _).trans rfl, (Json.child?_object (by simp) _).trans rfl⟩
  have hfirst : (Json.arr [d.version]).child? "0" = some d.version := by
    have hindex : Pointer.index? "0" = some 0 := by decide
    rw [Json.child?, hindex]
    rfl
  simp only [schemaPlace, Json.at?, hspec, hversions, hfirst, hholder, hschema, Option.bind_some]

/-- The printed schema of a definition says which objects are admitted. -/
theorem validates_schema {d : ResourceDefinition} (h : d.objectSchema.distinct = true) (j : Json) :
    SchemaDocument.validates d.schema j = d.admits j := by
  rw [schema, SchemaDocument.validates_put (by decide) (by decide), Schema.validates_members _ h,
    admits]

end ResourceDefinition

end PatternSync
