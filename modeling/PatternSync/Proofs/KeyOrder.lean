import PatternSync.Proofs.NullFree
import PatternSync.Wire.Reading

/-!
# Documents in key order

A document is in key order if the members of each of its objects are. The values of its fields are
so too (`inKeyOrder_field?`), and so is every document that is read from a text
(`inKeyOrder_of_ofText`): the reader puts the members of an object in order where it leaves it.
-/

namespace PatternSync

open Wire

theorem Keyed.ofList_of_ordered {β : Type} {entries : Keyed β} (h : Ordered entries) :
    ofList entries = entries :=
  eq_of_get?_eq (ordered_ofList entries) h fun key => get?_ofList_of_nodup h.nodup key

/-! ## Key order -/

namespace Json

mutual

/-- Whether the members of every object stand in key order. -/
def inKeyOrder : Json → Bool
  | .null | .bool _ | .num _ | .str _ => true
  | .arr items => itemsInKeyOrder items
  | .obj members => decide (Keyed.Ordered members) && membersInKeyOrder members

def itemsInKeyOrder : List Json → Bool
  | [] => true
  | j :: rest => inKeyOrder j && itemsInKeyOrder rest

def membersInKeyOrder : List (String × Json) → Bool
  | [] => true
  | (_, j) :: rest => inKeyOrder j && membersInKeyOrder rest

end

@[simp] theorem itemsInKeyOrder_iff {items : List Json} :
    itemsInKeyOrder items = true ↔ ∀ j ∈ items, j.inKeyOrder = true := by
  induction items with
  | nil => simp [itemsInKeyOrder]
  | cons j rest ih => simp [itemsInKeyOrder, ih]

@[simp] theorem membersInKeyOrder_iff {members : List (String × Json)} :
    membersInKeyOrder members = true ↔ ∀ e ∈ members, e.2.inKeyOrder = true := by
  induction members with
  | nil => simp [membersInKeyOrder]
  | cons e rest ih => simp [membersInKeyOrder, ih]

theorem inKeyOrder_obj {members : Keyed Json} :
    (obj members).inKeyOrder = true
      ↔ members.Ordered ∧ ∀ e ∈ members, e.2.inKeyOrder = true := by
  simp [inKeyOrder]

theorem inKeyOrder_arr {items : List Json} :
    (arr items).inKeyOrder = true ↔ ∀ j ∈ items, j.inKeyOrder = true := by
  simp [inKeyOrder]

theorem inKeyOrder_object {members : List (String × Json)}
    (h : ∀ e ∈ members, e.2.inKeyOrder = true) : (object members).inKeyOrder = true :=
  inKeyOrder_obj.2 ⟨Keyed.ordered_ofList members, fun e he => h e (Keyed.mem_of_mem_ofList he)⟩

theorem ordered_of_inKeyOrder {j : Json} (h : j.inKeyOrder = true) : j.members.Ordered := by
  cases j with
  | obj members => exact (inKeyOrder_obj.1 h).1
  | null | bool | num | str | arr => exact List.Pairwise.nil

theorem inKeyOrder_orNull {o : Option Json} (h : ∀ k ∈ o, k.inKeyOrder = true) :
    (orNull o).inKeyOrder = true := by
  cases o with
  | none => rfl
  | some k => exact h k rfl

end Json

section

variable {j : Json} {shape : Shape}

/-- The value of a field is in key order with the document that it is part of. -/
theorem inKeyOrder_field? (h : j.inKeyOrder = true) (name : String) :
    ∀ k ∈ shape.field? j name, k.inKeyOrder = true := by
  intro k hk
  cases j with
  | obj members => exact (Json.inKeyOrder_obj.1 h).2 _ (Keyed.mem_of_get? hk)
  | arr items =>
    obtain ⟨i, -, hi⟩ := Option.bind_eq_some_iff.1 hk
    exact Json.inKeyOrder_arr.1 h k (List.mem_of_getElem? hi)
  | null | bool | num | str => cases hk

theorem ofList_unknownMembers (h : j.inKeyOrder = true) :
    Keyed.ofList (shape.unknownMembers j) = shape.unknownMembers j :=
  Keyed.ofList_of_ordered ((Json.ordered_of_inKeyOrder h).filter _)

end

/-! ## What a reader yields -/

namespace Wire

def Yields {σ ε α : Type} (right : α → Prop) (r : StateT σ (Except ε) α) : Prop :=
  ∀ c a c', r c = .ok (a, c') → right a

def YieldsRecord {α : Type} (right : α → Prop) (r : RecordReader α) : Prop :=
  Yields (fun result : Except Problem α => ∀ a, result = .ok a → right a) r.run

section

variable {σ ε α β : Type} {right : β → Prop} {left : α → Prop}

theorem Yields.bind {r : StateT σ (Except ε) α} {f : α → StateT σ (Except ε) β}
    (hr : Yields left r) (hf : ∀ a, left a → Yields right (f a)) : Yields right (r >>= f) := by
  intro c b c' hread
  have hsplit : (r c >>= fun p => f p.1 p.2) = .ok (b, c') := hread
  cases hfirst : r c with
  | error e =>
    rw [hfirst] at hsplit
    cases hsplit
  | ok p =>
    rw [hfirst] at hsplit
    exact hf p.1 (hr c p.1 p.2 hfirst) p.2 b c' hsplit

theorem yields_bind {r : StateT σ (Except ε) α} {f : α → StateT σ (Except ε) β}
    (hf : ∀ a, Yields right (f a)) : Yields right (r >>= f) := by
  have hany : Yields (fun _ : α => True) r := fun _ _ _ _ => trivial
  exact hany.bind fun a _ => hf a

theorem yields_pure {b : β} (h : right b) : Yields right (pure b : StateT σ (Except ε) β) := by
  intro c b' c' hread
  cases hread
  exact h

theorem yields_throw (e : ε) : Yields right (throw e : StateT σ (Except ε) β) := by
  intro c b c' hread
  cases hread

theorem yields_fail (problem : SyntaxProblem) : Yields right (Scan.fail problem) :=
  yields_bind fun _ => yields_throw _

theorem yields_failNext (problem : SyntaxProblem) : Yields right (Scan.failNext problem) :=
  yields_bind fun _ => yields_throw _

theorem yields_refuse (problem : Problem) : Yields right (TextReader.refuse problem) :=
  yields_bind fun _ => yields_throw _

/-- What a reader of a part of the text yields is not changed by where it is used. -/
theorem Yields.lift {scan : Scan β} (h : Yields right scan) :
    Yields right (liftM scan : TextReader β) := by
  intro c b c' hread
  have hmap : (scan c).mapError Fault.ofSyntax = .ok (b, c') := hread
  cases hscan : scan c with
  | error e =>
    rw [hscan] at hmap
    cases hmap
  | ok p =>
    rw [hscan] at hmap
    cases hmap
    exact h c b c' hscan

end

section

variable {α β : Type} {right : β → Prop} {left : α → Prop}

theorem YieldsRecord.bind {r : RecordReader α} {f : α → RecordReader β} (hr : YieldsRecord left r)
    (hf : ∀ a, left a → YieldsRecord right (f a)) : YieldsRecord right (r >>= f) := by
  refine Yields.bind hr fun result hresult => ?_
  cases result with
  | ok a => exact hf a (hresult a rfl)
  | error problem =>
    refine yields_pure fun b hb => ?_
    cases hb

theorem yieldsRecord_bind {r : RecordReader α} {f : α → RecordReader β}
    (hf : ∀ a, YieldsRecord right (f a)) : YieldsRecord right (r >>= f) := by
  have hany : YieldsRecord (fun _ : α => True) r := fun _ _ _ _ _ _ => trivial
  exact hany.bind fun a _ => hf a

theorem yieldsRecord_pure {b : β} (h : right b) : YieldsRecord right (pure b) :=
  yields_pure fun _ hb => Except.ok.inj hb ▸ h

theorem yieldsRecord_throw (problem : Problem) :
    YieldsRecord right (throw problem : RecordReader β) :=
  yields_pure fun _ hb => by cases hb

theorem Yields.liftRecord {r : TextReader β} (h : Yields right r) :
    YieldsRecord right (ExceptT.lift r) :=
  h.bind fun _ hb => yields_pure fun _ hok => Except.ok.inj hok ▸ hb

end

/-! ## Reading in key order -/

abbrev InOrder (j : Json) : Prop :=
  j.inKeyOrder = true

theorem yields_plain : Yields InOrder Scan.plain := by
  refine yields_bind fun next => ?_
  cases next with
  | none => exact yields_fail _
  | some c =>
    dsimp only
    split
    · exact yields_bind fun _ => yields_pure rfl
    split
    · exact yields_bind fun _ => yields_pure rfl
    split
    · exact yields_bind fun _ => yields_pure rfl
    split
    · exact yields_bind fun _ => yields_pure rfl
    split
    · exact yields_bind fun _ => yields_pure rfl
    · exact yields_failNext _

namespace TextReader

theorem yields_glimpse : Yields InOrder glimpse := by
  refine yields_bind fun next => ?_
  split
  · exact yields_pure rfl
  · exact yields_pure rfl
  · exact yields_plain.lift

theorem yields_nested {α : Type} {right : α → Prop} {read : Nat → TextReader α}
    (h : ∀ depth, Yields right (read depth)) (depth : Nat) : Yields right (nested read depth) := by
  cases depth with
  | zero => exact (yields_failNext _).lift
  | succ depth => exact h depth

theorem yields_leave {α : Type} {right : α → Prop} {approach finish : Scan Unit}
    {record : RecordReader α} (h : YieldsRecord right record) :
    Yields right (leave approach finish record) := by
  refine Yields.bind h fun result hresult => ?_
  cases result with
  | ok a => exact yields_bind fun _ => yields_pure (hresult a rfl)
  | error problem => exact yields_bind fun _ => yields_refuse _

theorem yields_itemsFrom {read : TextReader Json} (h : Yields InOrder read) (steps : Nat)
    (first : Bool) : Yields (fun items => ∀ j ∈ items, InOrder j) (itemsFrom read steps first) := by
  induction steps generalizing first with
  | zero => exact yields_pure fun j hj => absurd hj List.not_mem_nil
  | succ steps ih =>
    refine yields_bind fun more => ?_
    split
    · refine h.bind fun item hitem => (ih false).bind fun items hitems => ?_
      exact yields_pure (List.forall_mem_cons.2 ⟨hitem, hitems⟩)
    · exact yields_pure fun j hj => absurd hj List.not_mem_nil

theorem yields_items {read : TextReader Json} (h : Yields InOrder read) :
    Yields InOrder (items read) := by
  refine yields_bind fun _ => yields_bind fun steps => ?_
  refine (yields_itemsFrom h steps true).bind fun items hitems => yields_bind fun _ => ?_
  exact yields_pure (Json.inKeyOrder_arr.2 hitems)

section

variable {allow : String → List String → Except Problem Unit}
  {read : String → RecordReader (Option Json)}

theorem yieldsRecord_membersFrom
    (h : ∀ key, YieldsRecord (fun o => ∀ j ∈ o, InOrder j) (read key)) (steps : Nat)
    (seen : List String) :
    YieldsRecord (fun members => ∀ e ∈ members, InOrder e.2)
      (membersFrom allow read steps seen) := by
  induction steps generalizing seen with
  | zero => exact yieldsRecord_pure fun e he => absurd he List.not_mem_nil
  | succ steps ih =>
    refine yieldsRecord_bind fun more => ?_
    split
    · refine yieldsRecord_bind fun key => yieldsRecord_bind fun _ => yieldsRecord_bind fun _ => ?_
      refine (h key).bind fun value hvalue => (ih _).bind fun rest hrest => yieldsRecord_pure ?_
      intro e he
      rcases List.mem_append.1 he with hfirst | hlater
      · obtain ⟨j, hj, rfl⟩ := Option.map_eq_some_iff.1 (Option.mem_toList.1 hfirst)
        exact hvalue j hj
      · exact hrest e hlater
    · exact yieldsRecord_pure fun e he => absurd he List.not_mem_nil

theorem yields_members (h : ∀ key, YieldsRecord (fun o => ∀ j ∈ o, InOrder j) (read key))
    (check : List (String × Json) → Except Problem Unit) :
    Yields InOrder (members allow read check) := by
  refine yields_bind fun _ => yields_leave ?_
  refine yieldsRecord_bind fun steps => ?_
  refine (yieldsRecord_membersFrom h steps []).bind fun found hfound => ?_
  exact yieldsRecord_bind fun _ => yieldsRecord_pure (Json.inKeyOrder_object hfound)

end

theorem yields_entries {read : TextReader Json} (h : Yields InOrder read) :
    Yields InOrder (entries read) := by
  refine yields_members (fun _ => Yields.liftRecord ?_) _
  refine h.bind fun j hj => yields_pure ?_
  rintro k ⟨⟩
  exact hj

theorem yields_any (depth : Nat) : Yields InOrder (any depth) := by
  induction depth with
  | zero =>
    refine yields_bind fun _ => yields_bind fun deep => ?_
    split
    · exact yields_bind fun _ => yields_plain.lift
    · exact yields_plain.lift
  | succ depth ih =>
    refine yields_bind fun _ => yields_bind fun next => ?_
    split
    · exact yields_items ih
    · exact yields_entries ih
    · exact yields_plain.lift

theorem inKeyOrder_single (name : String) : InOrder (.obj [(name, .null)]) := by
  rw [InOrder, Json.inKeyOrder_obj]
  simp [Keyed.Ordered, Json.inKeyOrder]

theorem yields_choice (variants : List String) (depth : Nat) :
    Yields InOrder (choice variants depth) := by
  refine yields_bind fun _ => yields_bind fun next => ?_
  split
  · exact (yields_fail _).lift
  · exact yields_bind fun _ => yields_pure rfl
  · refine yields_bind fun name => yields_bind fun _ => yields_bind fun close => ?_
    split
    · exact yields_bind fun _ => yields_pure (inKeyOrder_single name)
    · exact yields_bind fun _ => yields_pure (inKeyOrder_single name)
    · exact yields_bind fun _ => yields_pure (inKeyOrder_single name)
  · exact (yields_failNext _).lift

end TextReader

namespace Shape

open TextReader

theorem yields_readPlain (shape : Shape) : Yields InOrder (readPlain shape) := by
  refine yields_bind fun _ => yields_glimpse.bind fun found hfound => ?_
  exact yields_bind fun _ => yields_pure hfound

mutual

theorem yields_read : (shape : Shape) → ∀ depth, Yields InOrder (shape.read depth)
  | anything, depth => yields_any depth
  | word _, _ => yields_readPlain string
  | choice variants, depth => yields_choice variants depth
  | bool, _ => yields_readPlain bool
  | string, _ => yields_readPlain string
  | whole range, _ => yields_readPlain (whole range)
  | time, _ => yields_readPlain time
  | base64, _ => yields_readPlain base64
  | nullable inner, depth => by
    refine yields_bind fun _ => yields_bind fun absent => ?_
    split
    · exact yields_plain.lift
    · exact yields_read inner depth
  | list item, depth => by
    refine yields_bind fun _ => yields_bind fun opened => ?_
    split
    · exact yields_nested (fun depth => yields_items (yields_read item depth)) depth
    · exact yields_readPlain (list item)
  | dict value, depth => by
    refine yields_bind fun _ => yields_bind fun opened => ?_
    split
    · exact yields_nested (fun depth => yields_entries (yields_read value depth)) depth
    · exact yields_readPlain (dict value)
  | record wanted layout fields, depth => by
    refine yields_bind fun _ => yields_bind fun next => ?_
    split
    · exact yields_nested
        (fun depth => yields_members (fun key => yields_readMember layout fields key depth) _) depth
    · refine yields_nested (fun depth => yields_bind fun _ => yields_leave ?_) depth
      refine (yields_readListed _ 0 fields depth).bind fun items hitems => ?_
      exact yieldsRecord_pure (Json.inKeyOrder_arr.2 hitems)
    · exact yields_nested (fun _ => yields_bind fun _ => yields_leave (yieldsRecord_throw _)) depth
    · exact yields_readPlain (record wanted layout fields)

theorem yields_readMember (layout : Layout) : (fields : List (String × Presence × Shape)) →
    ∀ key depth, YieldsRecord (fun o => ∀ j ∈ o, InOrder j) (readMember layout fields key depth)
  | [], _, depth => by
    refine Yields.liftRecord ?_
    split
    · refine (yields_any depth).bind fun j hj => yields_pure ?_
      rintro k ⟨⟩
      exact hj
    · exact yields_bind fun _ => yields_pure fun j hj => by cases hj
  | (name, _, shape) :: rest, key, depth => by
    rw [readMember]
    split
    · refine (yields_read shape depth).liftRecord.bind fun j hj => yieldsRecord_bind fun _ => ?_
      refine yieldsRecord_pure ?_
      rintro k ⟨⟩
      exact hj
    · exact yields_readMember layout rest key depth

theorem yields_readListed (wanted : String) (index : Nat) :
    (fields : List (String × Presence × Shape)) → ∀ depth,
      YieldsRecord (fun items => ∀ j ∈ items, InOrder j) (readListed wanted index fields depth)
  | [], _ => yieldsRecord_pure fun j hj => absurd hj List.not_mem_nil
  | (_, presence, shape) :: rest, depth => by
    refine yieldsRecord_bind fun more => ?_
    split
    · refine (yields_read shape depth).liftRecord.bind fun j hj => ?_
      refine (yields_readListed wanted (index + 1) rest depth).bind fun items hitems => ?_
      exact yieldsRecord_pure (List.forall_mem_cons.2 ⟨hj, hitems⟩)
    split
    · exact yields_readListed wanted (index + 1) rest depth
    · exact yieldsRecord_throw _

end

/-- Whatever is read from a text of a shape is in key order. -/
theorem inKeyOrder_of_ofText {shape : Shape} {s : String} {j : Json}
    (h : shape.ofText s = .ok j) : j.inKeyOrder = true := by
  have hyields : Yields InOrder shape.readText := by
    refine (yields_read shape depthLimit).bind fun j hj => ?_
    refine yields_bind fun _ => yields_bind fun c => ?_
    split
    · exact yields_bind fun _ => yields_pure hj
    · exact yields_pure hj
  unfold ofText at h
  cases hread : shape.readText.run (.ofText s) with
  | error f =>
    rw [hread] at h
    cases h
  | ok read =>
    obtain ⟨k, c⟩ := read
    rw [hread] at h
    cases h
    exact hyields _ _ _ hread

end Shape

end Wire

end PatternSync
