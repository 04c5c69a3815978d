import PatternSync.Proofs.Patched

/-!
# The shape of a patched application

A stored application that can be read can still be read after the managed parts of an updated one
were written back (`check_patchedDocument`), provided that its specification is an object.
-/

namespace PatternSync

open Wire Json

namespace Wire

/-! ## Members that suit a record -/

def Shape.fields : Shape → List (String × Presence × Shape)
  | .record _ _ fields => fields
  | _ => []

/-- Every member of a document that bears the name of a field has its shape. -/
def Suits (shape : Shape) (j : Json) : Prop :=
  ∀ e ∈ j.members, Shape.checkMember shape.fields e.1 e.2 = .ok ()

theorem suits_of_members_eq_nil {shape : Shape} {j : Json} (h : j.members = []) :
    Suits shape j := by
  rw [Suits, h]
  exact fun e he => absurd he List.not_mem_nil

theorem suits_of_check {shape : Shape} {j : Json} (h : shape.check j = .ok ()) :
    Suits shape j := by
  cases j with
  | obj members =>
    cases shape with
    | record wanted layout fields => exact (Shape.check_record.1 h).1
    | _ => exact fun e _ => rfl
  | null | bool | num | str | arr => exact suits_of_members_eq_nil rfl

theorem Suits.child {shape inner : Shape} {j : Json} (h : Suits shape j)
    (hnodup : (shape.fields.map Prod.fst).Nodup) {name : String} {presence : Presence}
    (hfield : (name, presence, .nullable inner) ∈ shape.fields) : Suits inner (j.child name) := by
  rw [Json.child]
  cases hget : Keyed.get? j.members name with
  | none => exact suits_of_members_eq_nil rfl
  | some k =>
    have hcheck := h _ (Keyed.mem_of_get? hget)
    rw [Shape.checkMember_of_mem hnodup hfield, Shape.check_nullable] at hcheck
    rcases hcheck with rfl | hcheck
    · exact suits_of_members_eq_nil rfl
    · exact suits_of_check hcheck

/-- What a field that may be null becomes if a record is written over its child. -/
theorem Suits.check_changed {α : Type} {shape inner : Shape} {j k : Json} (h : Suits shape j)
    (hnodup : (shape.fields.map Prod.fst).Nodup) {name : String} {presence : Presence}
    (hfield : (name, presence, .nullable inner) ∈ shape.fields) {write : α → Json}
    (hnull : ∀ a, write a ≠ .null) {o : Option α}
    (hcheck : ∀ a ∈ o, ∀ target, Suits inner target →
      inner.check (Json.merge target (write a)) = .ok ())
    (hk : changed (Keyed.get? j.members name) (orNull (o.map write)) = some k) :
    (Shape.nullable inner).check k = .ok () := by
  rw [changed_orNull hnull] at hk
  obtain ⟨a, ha, rfl⟩ := Option.map_eq_some_iff.1 hk
  rw [Shape.check_nullable]
  exact .inr (hcheck a ha _ (h.child hnodup hfield))

/-! ## Records that are written over others -/

/-- What the value of a field becomes if it is an object itself; any other value takes the place
of an earlier one. -/
def Nests (field : String × Presence × Shape) (earlier : Json) (value : Option Json) : Prop :=
  ∀ change, value = some (.obj change) →
    field.2.2.check (Json.merge earlier (.obj change)) = .ok ()

theorem nests_str (field : String × Presence × Shape) (earlier : Json) (o : Option String) :
    Nests field earlier (o.map .str) := by
  intro change h
  cases o <;> cases h

theorem nests_bool (field : String × Presence × Shape) (earlier : Json) (o : Option Bool) :
    Nests field earlier (o.map .bool) := by
  intro change h
  cases o <;> cases h

theorem nests_list (field : String × Presence × Shape) (earlier : Json) (items : List Json) :
    Nests field earlier (Json.listUnlessEmpty items) := by
  intro change h
  cases items <;> cases h

theorem nests_map {α : Type} {name : String} {presence : Presence} {inner : Shape}
    {earlier : Json} {write : α → Json} {o : Option α}
    (h : ∀ a ∈ o, inner.check (Json.merge earlier (write a)) = .ok ()) :
    Nests (name, presence, .nullable inner) earlier (o.map write) := by
  intro change hchange
  obtain ⟨a, ha, hwrite⟩ := Option.map_eq_some_iff.1 hchange
  rw [Shape.check_nullable, ← hwrite]
  exact .inr (h a ha)

/-- A record that is written over an object of its kind keeps the shape. -/
theorem check_merge_withExtra {wanted : String} {layout : Layout}
    {spec : List (String × Presence × Shape)} {fields : Keyed (Option Json)} {extra : Keyed Json}
    {target : Json} (hfills : Fills (.record wanted layout spec) fields extra)
    (hcheck : (Shape.record wanted layout spec).check (withExtra fields extra) = .ok ())
    (htarget : Suits (.record wanted layout spec) target)
    (hnests : ∀ f ∈ spec, Nests f (target.child f.1) (Keyed.get? fields f.1).join)
    (hrequired : ∀ f ∈ spec, f.2.1 = .required → (Keyed.get? fields f.1).join ≠ some .null) :
    (Shape.record wanted layout spec).check (Json.merge target (withExtra fields extra))
      = .ok () := by
  have hnodup := nodup_written fields extra
  have hget : ∀ f ∈ spec, Keyed.get? (written fields extra) f.1 = (Keyed.get? fields f.1).join := by
    intro f hf
    have hfield := hfills.field? (List.mem_map_of_mem hf : f.1 ∈ spec.map Prod.fst)
    rwa [withExtra_eq] at hfield
  rw [withExtra_eq, Shape.check_record] at hcheck
  rw [withExtra_eq]
  refine check_mergeMembers hnodup htarget ?_ ?_
  · intro e he j hj
    by_cases hobj : ∃ change, e.2 = .obj change
    · obtain ⟨change, hchange⟩ := hobj
      by_cases hname : e.1 ∈ spec.map Prod.fst
      · obtain ⟨f, hf, heq⟩ := List.mem_map.1 hname
        have hvalue : (Keyed.get? fields f.1).join = some (.obj change) := by
          rw [← hget f hf, heq, ← hchange]
          exact Keyed.get?_of_mem hnodup he
        rw [hchange, changed_of_ne_null Json.noConfusion, ← heq] at hj
        cases hj
        rw [← heq, Shape.checkMember_of_mem hfills.nodup hf]
        exact hnests f hf change hvalue
      · exact Shape.checkMember_of_not_mem hname j
    · rw [changed, merge_of_members fun m hm => hobj ⟨m, hm⟩] at hj
      split at hj
      · cases hj
      · cases hj
        exact hcheck.1 e he
  · intro f hf hreq
    obtain ⟨j, hj⟩ := Option.isSome_iff_exists.1 (hcheck.2 f hf hreq)
    have hne : j ≠ .null := fun hnull => hrequired f hf hreq (by rw [← hget f hf, hj, hnull])
    rw [get?_mergeMembers hnodup, hj]
    show (changed _ j).isSome
    rw [changed_of_ne_null hne]
    rfl

end Wire

/-! ## Sources and sync policies -/

theorem HelmSettings.check_merge {h : HelmSettings} (htidy : h.Tidy) {target : Json}
    (htarget : Suits shape target) : shape.check (Json.merge target h.toJson) = .ok () := by
  refine check_merge_withExtra htidy.fills (check_toJson htidy) htarget ?_ ?_
  · simp only [List.forall_mem_cons]
    exact ⟨nests_list _ _ _, nests_list _ _ _, nests_bool _ _ _, List.forall_mem_nil _⟩
  · simp

theorem Source.check_merge {s : Source} (htidy : s.Tidy) {target : Json}
    (htarget : Suits shape target) : shape.check (Json.merge target s.toJson) = .ok () := by
  refine check_merge_withExtra htidy.fills (check_toJson htidy) htarget ?_ ?_
  · simp only [List.forall_mem_cons]
    refine ⟨nests_str _ _ (some s.repoUrl), nests_str _ _ _, nests_str _ _ _, nests_str _ _ _,
      nests_str _ _ _, nests_map ?_, List.forall_mem_nil _⟩
    intro k hk
    have hfield : ("helm", .optional, .nullable HelmSettings.shape) ∈ shape.fields := by
      simp [shape, Shape.fields]
    exact HelmSettings.check_merge (htidy.helm k hk) (htarget.child (by decide) hfield)
  · simp [Keyed.get?]

theorem AutomatedSync.check_merge {a : AutomatedSync} (htidy : a.Tidy) {target : Json}
    (htarget : Suits shape target) : shape.check (Json.merge target a.toJson) = .ok () := by
  refine check_merge_withExtra htidy.fills (check_toJson htidy) htarget ?_ ?_
  · simp only [List.forall_mem_cons]
    exact ⟨nests_bool _ _ (some a.prune), nests_bool _ _ (some a.selfHeal), List.forall_mem_nil _⟩
  · simp

namespace Application

theorem check_syncPolicyChange {p : SyncPolicy} (htidy : p.Tidy) {target : Json}
    (htarget : Suits SyncPolicy.shape target) :
    SyncPolicy.shape.check (Json.merge target (syncPolicyChange p)) = .ok () := by
  have hordered := Keyed.ordered_put "automated"
    (Json.orNull (p.automated.map AutomatedSync.toJson)) (Keyed.ordered_ofList (present
      [("automated", p.automated.map AutomatedSync.toJson)] ++ p.extra))
  rw [syncPolicyChange_eq]
  refine check_mergeMembers hordered.nodup htarget ?_ ?_
  · intro e he j hj
    by_cases hname : e.1 = "automated"
    · have hvalue := Keyed.get?_of_mem hordered.nodup he
      rw [hname, Keyed.get?_put_self] at hvalue
      rw [hname, ← Option.some.inj hvalue, changed_orNull AutomatedSync.toJson_ne_null] at hj
      obtain ⟨a, ha, rfl⟩ := Option.map_eq_some_iff.1 hj
      have hfield : ("automated", .optional, .nullable AutomatedSync.shape)
          ∈ SyncPolicy.shape.fields := List.mem_singleton_self _
      have hchild := htarget.child (by decide) hfield
      rw [hname, Shape.checkMember, if_pos rfl, Shape.check_nullable]
      exact .inr (AutomatedSync.check_merge (htidy.automated a ha) hchild)
    · exact Shape.checkMember_of_not_mem (by simpa using hname) j
  · simp

/-! ## Specifications -/

theorem check_specChange {a : Application} (htidy : a.Tidy) {spec : Keyed Json}
    (hspec : ApplicationSpec.shape.check (.obj spec) = .ok ()) :
    ApplicationSpec.shape.check (Json.merge (.obj spec) a.specChange) = .ok () := by
  have hsuits : Suits ApplicationSpec.shape (.obj spec) := suits_of_check hspec
  have hnodup : ∀ entries : List (String × Json), ((Keyed.ofList entries).map Prod.fst).Nodup :=
    fun _ => (Keyed.ordered_ofList _).nodup
  refine check_mergeMembers (hnodup _) hsuits ?_ ?_
  · intro e he j hj
    have hchange := Keyed.mem_of_mem_ofList he
    simp only [List.mem_cons, List.not_mem_nil, or_false] at hchange
    rcases hchange with rfl | rfl | rfl
    · have hfield : ("source", .optional, .nullable Source.shape)
          ∈ ApplicationSpec.shape.fields := by
        simp [ApplicationSpec.shape, Shape.fields]
      exact hsuits.check_changed (by decide) hfield Source.toJson_ne_null
        (fun s hs _ htarget => Source.check_merge (htidy.spec.source s hs) htarget) hj
    · cases hlist : a.spec.sources with
      | nil =>
        rw [hlist] at hj
        cases hj
      | cons first rest =>
        rw [hlist] at hj
        obtain rfl : Json.arr ((first :: rest).map Source.toJson) = j := Option.some.inj hj
        show (Shape.list Source.shape).check _ = _
        rw [Shape.check_list, List.forall_mem_map, ← hlist]
        exact fun s hs => Source.check_toJson (htidy.spec.sources s hs)
    · have hfield : ("syncPolicy", .optional, .nullable SyncPolicy.shape)
          ∈ ApplicationSpec.shape.fields := by
        simp [ApplicationSpec.shape, Shape.fields]
      exact hsuits.check_changed (by decide) hfield syncPolicyChange_ne_null
        (fun p hp _ htarget => check_syncPolicyChange (htidy.spec.syncPolicy p hp) htarget) hj
  · intro f hf hreq
    have hpresent := (Shape.check_record.1 hspec).2 f hf hreq
    have hfield := field?_specChange a (.obj spec) f.1
    rw [show Keyed.get? (mergeMembers (Json.obj spec).members _) f.1 = _ from hfield]
    simp only [List.mem_cons, List.not_mem_nil, or_false] at hf
    rcases hf with rfl | rfl | rfl | rfl | rfl
    · cases hreq
    · cases hreq
    · simpa [Keyed.get?, patched, Json.members] using hpresent
    · simpa [Keyed.get?, patched, Json.members] using hpresent
    · cases hreq

/-! ## Applications -/

/-- Nothing in metadata is required, so their members alone decide. -/
theorem check_metadata {members : Keyed Json}
    (h : ∀ e ∈ members, Shape.checkMember Metadata.shape.fields e.1 e.2 = .ok ()) :
    Metadata.shape.check (.obj members) = .ok () := by
  refine Shape.check_record.2 ⟨h, ?_⟩
  simp

theorem check_version (version : String) :
    Shape.checkMember Metadata.shape.fields "resourceVersion" (.str version) = .ok () := rfl

section

variable {members : Keyed Json}

theorem suits_metadata (h : shape.check (.obj members) = .ok ()) :
    Suits Metadata.shape ((Json.obj members).child "metadata") := by
  obtain ⟨hmembers, hrequired⟩ := Shape.check_record.1 h
  obtain ⟨j, hj⟩ := Option.isSome_iff_exists.1 (hrequired _ List.mem_cons_self rfl)
  have hcheck : Metadata.shape.check j = .ok () := hmembers _ (Keyed.mem_of_get? hj)
  have hchild : (Json.obj members).child "metadata" = j := by
    show (Keyed.get? members "metadata").getD .null = j
    rw [hj, Option.getD_some]
  rw [hchild]
  exact suits_of_check hcheck

/-- A document can be read under any version. -/
theorem check_withVersion (h : shape.check (.obj members) = .ok ()) (version : String) :
    shape.check ((Json.obj members).withVersion version) = .ok () := by
  obtain ⟨hmembers, hrequired⟩ := Shape.check_record.1 h
  have hmetadata := suits_metadata h
  rw [Json.withVersion]
  refine Shape.check_record.2 ⟨fun e he => ?_, fun f hf hreq => ?_⟩
  · rcases Keyed.eq_or_mem_of_mem_put he with rfl | he
    · show Metadata.shape.check _ = _
      refine check_metadata fun d hd => ?_
      rcases Keyed.eq_or_mem_of_mem_put hd with rfl | hd
      · exact check_version version
      · exact hmetadata d hd
    · exact hmembers e he
  · rw [Keyed.get?_put]
    split
    · rfl
    · exact hrequired f hf hreq

/-- A stored application that can be read can be read after the patch. -/
theorem check_patchedDocument {a : Application} (htidy : a.Tidy) {spec : Keyed Json}
    (hspec : Keyed.get? members "spec" = some (.obj spec))
    (hstored : shape.check (.obj members) = .ok ()) (version : String) :
    shape.check (patchedDocument (.obj members) a version) = .ok () := by
  have hnodup : ∀ entries : List (String × Json), ((Keyed.ofList entries).map Prod.fst).Nodup :=
    fun _ => (Keyed.ordered_ofList _).nodup
  obtain ⟨hmembers, hrequired⟩ := Shape.check_record.1 hstored
  refine check_withVersion (check_mergeMembers (hnodup _) hmembers ?_ ?_) version
  · intro e he j hj
    have hchange := Keyed.mem_of_mem_ofList he
    simp only [List.mem_cons, List.not_mem_nil, or_false] at hchange
    rcases hchange with rfl | rfl
    · obtain rfl := Option.some.inj hj
      refine check_metadata fun d hd => ?_
      rcases mem_mergeMembers (hnodup _) hd with hd | ⟨change, hchange, heq⟩
      · exact suits_metadata hstored d hd
      · obtain ⟨hkey, hvalue⟩ :=
          Prod.mk.inj (List.mem_singleton.1 (Keyed.mem_of_mem_ofList hchange))
        rw [hvalue, changed_orNull (fun _ => Json.noConfusion)] at heq
        obtain ⟨v, -, hv⟩ := Option.map_eq_some_iff.1 heq
        rw [hkey, ← hv]
        exact check_version v
    · rw [hspec] at hj
      obtain rfl := Option.some.inj hj
      have hcheck : ApplicationSpec.shape.check (.obj spec) = .ok () :=
        hmembers _ (Keyed.mem_of_get? hspec)
      exact check_specChange htidy hcheck
  · intro f hf hreq
    rw [get?_mergeMembers (hnodup _), Keyed.get?_ofList_of_nodup (by simp)]
    simp only [List.mem_cons, List.not_mem_nil, or_false] at hf
    rcases hf with rfl | rfl
    · rfl
    · rfl

end

end Application

end PatternSync
