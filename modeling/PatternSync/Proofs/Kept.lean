import PatternSync.Proofs.NullFree
import PatternSync.Proofs.PatchedShape
import PatternSync.Proofs.Spared

/-!
# What stored parts keep

The parts of a stored application before and after a write: helm settings, sources, sync policies,
and the specification that holds them. A single source and a sync policy are merged into the stored
ones, a list of sources is written anew, so a member that is not known has to come through the
reading, the update and the writing of each part, and in the end through the merge. Main statement:
a specification into which the managed parts of an update are merged keeps everything else
(`Application.kept_specChange`).

For each part there is a relation `Kept` between the stored document and the one after it, put
together from the relations of its parts.
-/

namespace PatternSync

open Wire Json

/-! ## Members of stored records -/

/-- Both documents have the same members, but for those with the names. -/
def AgreeBut (names : List String) (before after : Json) : Prop :=
  ∀ key, key ∉ names → after.member? key = before.member? key

def Json.items (j : Json) : List Json :=
  j.items?.getD []

theorem Json.child_eq (j : Json) (key : String) : j.child key = (j.member? key).getD .null := by
  rw [child, member?_eq]

theorem Json.member?_of_child {j : Json} {key : String} {members : Keyed Json}
    (h : j.child key = .obj members) : j.member? key = some (.obj members) := by
  rw [child_eq] at h
  cases hmember : j.member? key with
  | none =>
    rw [hmember] at h
    cases h
  | some k =>
    rw [hmember] at h
    exact congrArg some h

theorem Json.isNullFree_of_mem_items {j : Json} (h : j.isNullFree = true) {key : String} :
    ∀ k ∈ (j.child key).items, k.isNullFree = true := by
  intro k hk
  rw [child_eq] at hk
  cases hmember : j.member? key with
  | none =>
    rw [hmember] at hk
    cases hk
  | some list =>
    rw [hmember] at hk
    have hlist := isNullFree_of_member? h list hmember
    cases list with
    | arr items => exact isNullFree_arr.1 hlist k hk
    | null | bool | num | str | obj => cases hk

namespace Wire

/-- A record that keeps its unknown members is an object. -/
theorem object_of_keeping {wanted : String} {fields : List (String × Presence × Shape)} {j : Json}
    (h : (Shape.record wanted .keeping fields).check j = .ok ()) : ∃ members, j = .obj members := by
  cases j with
  | obj members => exact ⟨members, rfl⟩
  | null | bool | num | str | arr => simp [Shape.check, Shape.refuse] at h

theorem Suits.member? {shape inner : Shape} {j : Json} (h : Suits shape j)
    (hnodup : (shape.fields.map Prod.fst).Nodup) {name : String} {presence : Presence}
    (hfield : (name, presence, inner) ∈ shape.fields) :
    ∀ k ∈ j.member? name, inner.check k = .ok () := by
  intro k hk
  rw [member?_eq] at hk
  have hcheck := h _ (Keyed.mem_of_get? hk)
  rwa [Shape.checkMember_of_mem hnodup hfield] at hcheck

theorem check_of_nullable {inner : Shape} {j : Json} (hne : j ≠ .null)
    (h : (Shape.nullable inner).check j = .ok ()) : inner.check j = .ok () :=
  (Shape.check_nullable.1 h).resolve_left hne

/-- Without nulls a field that may be null is there or not. -/
theorem optional_of_ne_null {α : Type} {read : Json → α} {o : Option Json}
    (h : ∀ j ∈ o, j ≠ .null) : optional read o = o.map read := by
  cases o with
  | none => rfl
  | some j =>
    have hj := h j rfl
    cases j with
    | null => exact absurd rfl hj
    | bool | num | str | arr | obj => rfl

end Wire

/-! ## Optional parts -/

/-- A part that is written exactly if it was there is written over what was there. -/
theorem patched_of_rel {β γ : Type} {R : β → γ → Prop} {read : Json → β} {write : γ → Json}
    (hnull : ∀ c, write c ≠ .null) {earlier : Option Json} {o : Option γ}
    (h : Option.Rel R (earlier.map read) o) :
    patched earlier (o.map write) = o.map fun c => (earlier.getD .null).merge (write c) := by
  cases o with
  | none =>
    cases earlier with
    | none => rfl
    | some j => cases h
  | some c => exact changed_of_ne_null (hnull c) earlier

/-! ## Helm settings -/

/-- Everything that is not managed in stored helm settings is as it was: members without a field,
and parameters that bear none of the names. -/
structure HelmSettings.Kept (managed : List String) (before after : Json) : Prop where
  members : AgreeBut shape.fieldNames before after
  others : Parameter.others managed (ofJson after).parameters
    = Parameter.others managed (ofJson before).parameters
  order : Parameter.names (ofJson before).parameters <+: Parameter.names (ofJson after).parameters

namespace HelmSettings

variable {managed : List String} {stored : Keyed Json} {h : HelmSettings}

theorem parameters_ofJson_merge (hspares : (ofJson (.obj stored)).Spares managed h)
    (htidy : h.Tidy) : (ofJson (Json.merge (.obj stored) h.toJson)).parameters = h.parameters := by
  have hfield : (ofJson (Json.merge (.obj stored) h.toJson)).parameters
      = listOf Parameter.ofJson (patched (Keyed.get? stored "parameters")
          (Json.listUnlessEmpty (h.parameters.map Parameter.toJson))) := by
    rw [toJson, ofJson, field?_merge_withExtra htidy.fills _ (by decide),
      field?_merge_withExtra htidy.fills _ (by decide),
      field?_merge_withExtra htidy.fills _ (by decide)]
    simp [Keyed.get?, Json.members]
  rw [hfield]
  by_cases hnil : h.parameters = []
  · have horder := hspares.order
    rw [hnil] at horder ⊢
    exact List.map_eq_nil_iff.1 (List.prefix_nil.1 horder)
  · rw [listOf_patched hnil, show Parameter.ofJson ∘ Parameter.toJson = id from
      funext Parameter.ofJson_toJson, List.map_id]

theorem fills_of_spares (hspares : (ofJson (.obj stored)).Spares managed h) (htidy : h.Tidy) :
    ∃ fields, h.toJson = withExtra fields (shape.unknownMembers (.obj stored))
      ∧ Fills shape fields (shape.unknownMembers (.obj stored)) := by
  have hextra : h.extra = shape.unknownMembers (.obj stored) := hspares.extra
  exact ⟨_, by rw [toJson, hextra], hextra ▸ htidy.fills⟩

theorem kept_of_parameters {after : Json} (hspares : (ofJson (.obj stored)).Spares managed h)
    (hmembers : AgreeBut shape.fieldNames (.obj stored) after)
    (hparameters : (ofJson after).parameters = h.parameters) :
    Kept managed (.obj stored) after where
  members := hmembers
  others := by
    rw [hparameters]
    exact hspares.others
  order := by
    rw [hparameters]
    exact hspares.order

theorem kept_merge (hfree : (Json.obj stored).isNullFree = true)
    (hspares : (ofJson (.obj stored)).Spares managed h) (htidy : h.Tidy) :
    Kept managed (.obj stored) (Json.merge (.obj stored) h.toJson) := by
  refine kept_of_parameters hspares ?_ (parameters_ofJson_merge hspares htidy)
  obtain ⟨fields, hwritten, hfills⟩ := fills_of_spares hspares htidy
  rw [hwritten]
  exact fun key hkey => member?_merge_withExtra hfills hfree hkey

theorem kept_toJson (hfree : (Json.obj stored).isNullFree = true)
    (hspares : (ofJson (.obj stored)).Spares managed h) (htidy : h.Tidy) :
    Kept managed (.obj stored) h.toJson := by
  refine kept_of_parameters hspares ?_ (by rw [ofJson_toJson htidy]; rfl)
  obtain ⟨fields, hwritten, hfills⟩ := fills_of_spares hspares htidy
  rw [hwritten]
  exact fun key hkey => member?_withExtra hfills (ordered_of_isNullFree hfree) hkey

end HelmSettings

/-! ## Sources -/

structure Source.Kept (managed : List String) (before after : Json) : Prop where
  members : AgreeBut shape.fieldNames before after
  helm : Option.Rel (HelmSettings.Kept managed) (before.member? "helm") (after.member? "helm")

namespace Source

variable {managed : List String} {stored : Keyed Json} {s : Source}

theorem fills_of_spares (hspares : (ofJson (.obj stored)).Spares managed s) (htidy : s.Tidy) :
    ∃ fields, s.toJson = withExtra fields (shape.unknownMembers (.obj stored))
      ∧ Fills shape fields (shape.unknownMembers (.obj stored))
      ∧ (Keyed.get? fields "helm").join = s.helm.map HelmSettings.toJson := by
  have hextra : s.extra = shape.unknownMembers (.obj stored) := hspares.extra
  refine ⟨_, by rw [toJson, hextra], hextra ▸ htidy.fills, ?_⟩
  simp [Keyed.get?]

section

variable (hfree : (Json.obj stored).isNullFree = true)

include hfree

theorem helm_ofJson : (ofJson (.obj stored)).helm
    = ((Json.obj stored).member? "helm").map HelmSettings.ofJson :=
  optional_of_ne_null fun j hj => ne_null_of_isNullFree (isNullFree_of_member? hfree j hj)

theorem object_helm (hcheck : shape.check (.obj stored) = .ok ()) :
    ∀ j ∈ (Json.obj stored).member? "helm", ∃ members, j = .obj members := by
  intro j hj
  have hfield : ("helm", .optional, .nullable HelmSettings.shape) ∈ shape.fields := by
    simp [shape, Shape.fields]
  have hne := ne_null_of_isNullFree (isNullFree_of_member? hfree j hj)
  have hshape := (suits_of_check hcheck).member? (by decide) hfield j hj
  exact object_of_keeping (check_of_nullable hne hshape)

/-- What is kept of the helm settings, however they are written. -/
theorem kept_of_helm {after : Json} {write : HelmSettings → Json}
    (hcheck : shape.check (.obj stored) = .ok ())
    (hspares : (ofJson (.obj stored)).Spares managed s)
    (hmembers : AgreeBut shape.fieldNames (.obj stored) after)
    (hafter : after.member? "helm" = s.helm.map write)
    (hwrite : ∀ members, (Json.obj stored).member? "helm" = some (.obj members) →
      (Json.obj members).isNullFree = true → ∀ h ∈ s.helm,
      (HelmSettings.ofJson (.obj members)).Spares managed h →
      HelmSettings.Kept managed (.obj members) (write h)) :
    Kept managed (.obj stored) after := by
  have hrel := hspares.helm
  rw [helm_ofJson hfree] at hrel
  refine ⟨hmembers, ?_⟩
  rw [hafter]
  refine optionRel_imp_map hrel fun j hj h hh hkept => ?_
  obtain ⟨members, rfl⟩ := object_helm hfree hcheck j hj
  exact hwrite members hj (isNullFree_of_member? hfree _ hj) h hh hkept

/-- A source that is merged into the stored one keeps what is not managed. -/
theorem kept_merge (hcheck : shape.check (.obj stored) = .ok ())
    (hspares : (ofJson (.obj stored)).Spares managed s) (htidy : s.Tidy) :
    Kept managed (.obj stored) (Json.merge (.obj stored) s.toJson) := by
  obtain ⟨fields, hwritten, hfills, hfield⟩ := fills_of_spares hspares htidy
  have hrel := hspares.helm
  rw [helm_ofJson hfree] at hrel
  have hmember : (Json.merge (.obj stored) s.toJson).member? "helm"
      = s.helm.map fun h => (((Json.obj stored).member? "helm").getD .null).merge h.toJson := by
    rw [← patched_of_rel HelmSettings.toJson_ne_null hrel, hwritten, ← hfield]
    exact field?_merge_withExtra hfills _ (by decide)
  refine kept_of_helm hfree hcheck hspares ?_ hmember fun members hj hplain h hh hkept => ?_
  · rw [hwritten]
    exact fun key hkey => member?_merge_withExtra hfills hfree hkey
  · rw [hj, Option.getD_some]
    exact HelmSettings.kept_merge hplain hkept (htidy.helm h hh)

theorem kept_toJson (hcheck : shape.check (.obj stored) = .ok ())
    (hspares : (ofJson (.obj stored)).Spares managed s) (htidy : s.Tidy) :
    Kept managed (.obj stored) s.toJson := by
  obtain ⟨fields, hwritten, hfills, hfield⟩ := fills_of_spares hspares htidy
  have hmember : s.toJson.member? "helm" = s.helm.map HelmSettings.toJson := by
    rw [hwritten, hfills.member? (by decide), hfield]
  refine kept_of_helm hfree hcheck hspares ?_ hmember fun members _ hplain h hh hkept => ?_
  · rw [hwritten]
    exact fun key hkey => member?_withExtra hfills (ordered_of_isNullFree hfree) hkey
  · exact HelmSettings.kept_toJson hplain hkept (htidy.helm h hh)

end

end Source

/-! ## Sync policies -/

/-- An automated part is as it was. Settings that it does not name count as false. -/
structure AutomatedSync.Kept (before after : Json) : Prop where
  members : AgreeBut shape.fieldNames before after
  prune : (ofJson after).prune = (ofJson before).prune
  selfHeal : (ofJson after).selfHeal = (ofJson before).selfHeal

structure SyncPolicy.Kept (before after : Json) : Prop where
  members : AgreeBut shape.fieldNames before after
  automated : ∀ old ∈ before.member? "automated", ∀ new ∈ after.member? "automated",
    AutomatedSync.Kept old new

theorem AutomatedSync.ofJson_merge {a : AutomatedSync} (htidy : a.Tidy) (target : Json) :
    ∃ extra, ofJson (target.merge a.toJson) = { a with extra } := by
  refine ⟨shape.unknownMembers (target.merge a.toJson), ?_⟩
  rw [toJson, ofJson, field?_merge_withExtra htidy.fills _ (by decide),
    field?_merge_withExtra htidy.fills _ (by decide)]
  rfl

theorem AutomatedSync.kept_merge {j : Json} (hfree : j.isNullFree = true) :
    Kept j (j.merge (ofJson j).toJson) := by
  obtain ⟨extra, hread⟩ := ofJson_merge (tidy_ofJson j) j
  refine ⟨?_, by rw [hread], by rw [hread]⟩
  exact fun key hkey => member?_merge_withExtra (tidy_ofJson j).fills hfree hkey

namespace SyncPolicy

theorem kept_null : Kept .null .null where
  members := fun _ _ => rfl
  automated := by rintro old ⟨⟩

theorem automated_ofJson {members : Keyed Json}
    (hfree : (Json.obj members).isNullFree = true) : (ofJson (.obj members)).automated
      = ((Json.obj members).member? "automated").map AutomatedSync.ofJson :=
  optional_of_ne_null fun k hk => ne_null_of_isNullFree (isNullFree_of_member? hfree k hk)

section

variable {p : SyncPolicy}

theorem exists_changes (htidy : p.Tidy) : ∃ changes : Keyed Json,
    Application.syncPolicyChange p = .obj changes ∧ (changes.map Prod.fst).Nodup
      ∧ Keyed.get? changes "automated" = some (Json.orNull (p.automated.map AutomatedSync.toJson))
      ∧ ∀ key, key ∉ shape.fieldNames → Keyed.get? changes key = Keyed.get? p.extra.reverse key := by
  refine ⟨_, Application.syncPolicyChange_eq p, ?_, Keyed.get?_put_self _ _ _, ?_⟩
  · exact (Keyed.ordered_put _ _ (Keyed.ordered_ofList _)).nodup
  · intro key hkey
    have hne : key ≠ "automated" := fun heq => hkey (heq ▸ List.mem_singleton_self _)
    rw [Keyed.get?_put_of_ne hne, get?_written_of_not_mem (htidy.fills.names ▸ hkey)]

theorem automated_merge (htidy : p.Tidy) (target : Json) :
    (target.merge (Application.syncPolicyChange p)).member? "automated"
      = p.automated.map fun a => (target.child "automated").merge a.toJson := by
  obtain ⟨changes, hchanges, hnodup, hautomated, -⟩ := exists_changes htidy
  rw [hchanges]
  show Keyed.get? (mergeMembers target.members changes) "automated" = _
  rw [get?_mergeMembers hnodup, hautomated]
  exact changed_orNull AutomatedSync.toJson_ne_null _ _

theorem kept_merge {earlier : Option Json} (hfree : ∀ j ∈ earlier, j.isNullFree = true)
    (htidy : p.Tidy) (hspares : Spares (earlier.map ofJson) (some p)) :
    Kept (earlier.getD .null)
      ((earlier.getD .null).merge (Application.syncPolicyChange p)) := by
  have hmembers : ∀ key, ∀ k ∈ (earlier.getD .null).member? key, k.isNullFree = true := by
    intro key
    cases earlier with
    | none => rintro k ⟨⟩
    | some j => exact isNullFree_of_member? (hfree j rfl)
  refine ⟨?_, ?_⟩
  · obtain ⟨changes, hchanges, hnodup, -, hunknown⟩ := exists_changes htidy
    intro key hkey
    have hextra := hspares.extra p rfl
    rw [hchanges]
    refine member?_mergeMembers_of_same hnodup (hmembers key) ?_
    rw [hunknown key hkey, hextra]
    cases earlier with
    | none => rfl
    | some j => exact get?_unknownMembers (ordered_of_isNullFree (hfree j rfl)) hkey
  · intro old hold new hnew
    rw [automated_merge htidy] at hnew
    obtain ⟨a, ha, rfl⟩ := Option.map_eq_some_iff.1 hnew
    have hlive : (earlier.map ofJson).bind (·.automated) = some (AutomatedSync.ofJson old) := by
      cases earlier with
      | none => cases hold
      | some j =>
        cases j with
        | obj members =>
          have hmember : (Json.obj members).member? "automated" = some old := hold
          show (ofJson (.obj members)).automated = _
          rw [automated_ofJson (hfree _ rfl), hmember, Option.map_some]
        | null | bool | num | str | arr => cases hold
    obtain rfl := hspares.automated _ hlive a ha
    rw [child_eq, Option.mem_def.1 hold, Option.getD_some]
    exact AutomatedSync.kept_merge (hmembers _ old hold)

end

end SyncPolicy

/-! ## Specifications -/

structure ApplicationSpec.Kept (managed : List String) (before after : Json) : Prop where
  members : AgreeBut ["source", "sources", "syncPolicy"] before after
  source : Option.Rel (Source.Kept managed) (before.member? "source") (after.member? "source")
  sources : List.Forall₂ (Source.Kept managed) (before.child "sources").items
    (after.child "sources").items
  syncPolicy : SyncPolicy.Kept (before.child "syncPolicy") (after.child "syncPolicy")

namespace ApplicationSpec

section

variable {spec : Keyed Json} (hcheck : shape.check (.obj spec) = .ok ())

include hcheck

theorem check_member {name : String} {presence : Presence} {inner : Shape}
    (hfield : (name, presence, inner) ∈ shape.fields) :
    ∀ k ∈ (Json.obj spec).member? name, inner.check k = .ok () :=
  (suits_of_check hcheck).member? (by decide) hfield

/-- The stored sources have the shape of sources, and they are what is read. -/
theorem sources_ofJson : (∀ j ∈ ((Json.obj spec).child "sources").items, Source.shape.check j = .ok ())
    ∧ (ofJson (.obj spec)).sources = ((Json.obj spec).child "sources").items.map Source.ofJson := by
  have hfield : ("sources", .optional, .list Source.shape) ∈ shape.fields := by
    simp [shape, Shape.fields]
  have hshape := check_member hcheck hfield
  have hread : (ofJson (.obj spec)).sources
      = listOf Source.ofJson ((Json.obj spec).member? "sources") := rfl
  rw [hread, child_eq]
  cases hmember : (Json.obj spec).member? "sources" with
  | none => exact ⟨fun j hj => absurd hj List.not_mem_nil, rfl⟩
  | some k =>
    have hlist := hshape k hmember
    cases k with
    | arr items => exact ⟨Shape.check_list.1 hlist, rfl⟩
    | null | bool | num | str | obj => simp [Shape.check, Shape.refuse] at hlist

end

end ApplicationSpec

namespace Application

theorem member?_specChange (a : Application) (target : Json) (key : String) :
    (target.merge a.specChange).member? key = patched (target.member? key) (Keyed.get?
      [ ("source", Json.orNull (a.spec.source.map Source.toJson)),
        ("sources", Json.orNull (Json.listUnlessEmpty (a.spec.sources.map Source.toJson))),
        ("syncPolicy", Json.orNull (a.spec.syncPolicy.map syncPolicyChange)) ] key) := by
  refine member?_merge_object ?_ target key
  show ["source", "sources", "syncPolicy"].Nodup
  decide

theorem source_merge (a : Application) (target : Json) :
    (target.merge a.specChange).member? "source"
      = a.spec.source.map fun s => (target.child "source").merge s.toJson := by
  rw [member?_specChange, child_eq]
  exact changed_orNull Source.toJson_ne_null _ _

theorem sources_merge (a : Application) (target : Json) :
    ((target.merge a.specChange).child "sources").items = a.spec.sources.map Source.toJson := by
  rw [child_eq, member?_specChange]
  simp only [Keyed.get?, String.reduceEq, ↓reduceIte]
  cases a.spec.sources <;> rfl

theorem syncPolicy_merge (a : Application) (target : Json) :
    (target.merge a.specChange).member? "syncPolicy"
      = a.spec.syncPolicy.map fun p => (target.child "syncPolicy").merge (syncPolicyChange p) := by
  rw [member?_specChange, child_eq]
  exact changed_orNull syncPolicyChange_ne_null _ _

section

variable {spec : Keyed Json} {a : Application}

/-- The sync policy in a patched specification keeps what is not managed, whatever becomes of the
sources. -/
theorem kept_syncPolicy
    (hfree : ∀ j ∈ (Json.obj spec).member? "syncPolicy", j.isNullFree = true) (htidy : a.Tidy)
    (hspares : SyncPolicy.Spares (ApplicationSpec.ofJson (.obj spec)).syncPolicy a.spec.syncPolicy) :
    SyncPolicy.Kept ((Json.obj spec).child "syncPolicy")
      (((Json.obj spec).merge a.specChange).child "syncPolicy") := by
  have hread : (ApplicationSpec.ofJson (.obj spec)).syncPolicy
      = ((Json.obj spec).member? "syncPolicy").map SyncPolicy.ofJson :=
    optional_of_ne_null fun j hj => ne_null_of_isNullFree (hfree j hj)
  rw [hread] at hspares
  rw [child_eq (Json.merge _ _), syncPolicy_merge]
  cases hpolicy : a.spec.syncPolicy with
  | none =>
    rw [child_eq, Option.map_eq_none_iff.1 (hspares.gone hpolicy)]
    exact SyncPolicy.kept_null
  | some p =>
    rw [hpolicy] at hspares
    rw [child_eq]
    exact SyncPolicy.kept_merge hfree (htidy.spec.syncPolicy p hpolicy) hspares

/-- A specification into which the managed parts are merged keeps the others. -/
theorem kept_specChange {managed : List String} {live : Application}
    (hlive : live.spec = .ofJson (.obj spec)) (hfree : (Json.obj spec).isNullFree = true)
    (hcheck : ApplicationSpec.shape.check (.obj spec) = .ok ()) (htidy : a.Tidy)
    (hspares : Spares managed live a)
    (hpolicy : SyncPolicy.Spares live.spec.syncPolicy a.spec.syncPolicy) :
    ApplicationSpec.Kept managed (.obj spec) ((Json.obj spec).merge a.specChange) := by
  have hmember : ∀ {key}, ∀ j ∈ (Json.obj spec).member? key, j.isNullFree = true :=
    isNullFree_of_member? hfree
  refine ⟨?_, ?_, ?_, ?_⟩
  · intro key hkey
    rw [member?_specChange, Keyed.get?_eq_none_iff.2 hkey]
    rfl
  · have hread : live.spec.source = ((Json.obj spec).member? "source").map Source.ofJson := by
      rw [hlive]
      exact optional_of_ne_null fun j hj => ne_null_of_isNullFree (hmember j hj)
    have hfield : ("source", .optional, .nullable Source.shape) ∈ ApplicationSpec.shape.fields := by
      simp [ApplicationSpec.shape, Shape.fields]
    have hrel := hspares.source
    rw [hread] at hrel
    rw [source_merge]
    refine optionRel_imp_map hrel fun j hj s hs hkept => ?_
    have hshape := check_of_nullable (ne_null_of_isNullFree (hmember j hj))
      (ApplicationSpec.check_member hcheck hfield j hj)
    obtain ⟨members, rfl⟩ := object_of_keeping hshape
    rw [child_eq, Option.mem_def.1 hj, Option.getD_some]
    exact Source.kept_merge (hmember _ hj) hshape hkept (htidy.spec.source s hs)
  · -- the list is written anew, so that its sources keep nothing by the merge itself
    obtain ⟨hshapes, hread⟩ := ApplicationSpec.sources_ofJson hcheck
    have hrel := hspares.sources
    rw [hlive, hread] at hrel
    rw [sources_merge]
    refine forall₂_imp_map hrel fun j hj s hs hkept => ?_
    obtain ⟨members, rfl⟩ := object_of_keeping (hshapes j hj)
    exact Source.kept_toJson (isNullFree_of_mem_items hfree _ hj) (hshapes _ hj) hkept
      (htidy.spec.sources s hs)
  · rw [hlive] at hpolicy
    exact kept_syncPolicy hmember htidy hpolicy

end

end Application

end PatternSync
