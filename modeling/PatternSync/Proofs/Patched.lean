import PatternSync.Api.Server
import PatternSync.Proofs.MergePatch
import PatternSync.Proofs.Settling

/-!
# Reading a patched application

The application that is read after the managed parts of an updated one were written back as a merge
patch. Lists are replaced as a whole, but a single source is merged into the stored one, so that a
part that the goal leaves out stays as it was stored. Main statement: a patched application is in
line with its goal exactly if the stored source has no such part (`inLine_patched_iff`).
-/

namespace PatternSync

open Wire Json

/-! ## Fields of a patched record -/

namespace Wire

theorem optional_patched_text (o : Option String) (earlier : Option Json) :
    optional text (patched earlier (o.map .str)) = o.or (optional text earlier) := by
  cases o <;> rfl

theorem listOf_patched {α β : Type} {read : Json → β} {write : α → Json} {items : List α}
    (hne : items ≠ []) (earlier : Option Json) :
    listOf read (patched earlier (Json.listUnlessEmpty (items.map write)))
      = items.map (read ∘ write) := by
  cases items with
  | nil => exact absurd rfl hne
  | cons a rest =>
    show ((a :: rest).map write).map read = _
    rw [List.map_map]

end Wire

/-! ## Helm settings -/

namespace HelmSettings

/-- Nothing of the settings is left out when they are written. -/
structure Complete (h : HelmSettings) : Prop where
  valueFiles : h.valueFiles ≠ []
  parameters : h.parameters ≠ []
  ignoreMissingValueFiles : h.ignoreMissingValueFiles.isSome

/-- Complete settings that are written over earlier ones keep all fields. -/
theorem ofJson_merge {h : HelmSettings} (htidy : h.Tidy) (hcomplete : h.Complete)
    (target : Json) : ∃ extra, ofJson (Json.merge target h.toJson) = { h with extra } := by
  obtain ⟨b, hb⟩ := Option.isSome_iff_exists.1 hcomplete.ignoreMissingValueFiles
  have hfiles : h.valueFiles.map (text ∘ .str) = h.valueFiles := List.map_id' _
  have hparameters : h.parameters.map (Parameter.ofJson ∘ Parameter.toJson) = h.parameters := by
    rw [show Parameter.ofJson ∘ Parameter.toJson = id from funext Parameter.ofJson_toJson,
      List.map_id]
  refine ⟨shape.unknownMembers (Json.merge target h.toJson), ?_⟩
  rw [toJson, ofJson, field?_merge_withExtra htidy.fills _ (by decide),
    field?_merge_withExtra htidy.fills _ (by decide),
    field?_merge_withExtra htidy.fills _ (by decide)]
  simp only [Keyed.get?, String.reduceEq, ↓reduceIte, Option.join_some]
  rw [listOf_patched hcomplete.valueFiles, listOf_patched hcomplete.parameters, hfiles,
    hparameters, hb]
  rfl

end HelmSettings

/-! ## Sources -/

namespace Source

/-- The origin of a source that is written over an earlier one: what it leaves out stays. -/
def laidOver (earlier s : Source) : Source where
  repoUrl := s.repoUrl
  path := s.path.or earlier.path
  targetRevision := s.targetRevision.or earlier.targetRevision
  chart := s.chart.or earlier.chart
  ref := s.ref.or earlier.ref

structure Within (earlier s : Source) : Prop where
  path : s.path = none → earlier.path = none
  targetRevision : s.targetRevision = none → earlier.targetRevision = none
  chart : s.chart = none → earlier.chart = none
  ref : s.ref = none → earlier.ref = none

theorem laidOver_eq_origin_iff {earlier s : Source} :
    laidOver earlier s = s.origin ↔ Within earlier s := by
  have hpart : ∀ a b : Option String, a.or b = a ↔ (a = none → b = none) := by
    intro a b
    cases a <;> simp
  simp only [laidOver, origin, Source.mk.injEq, hpart, true_and, and_true]
  constructor
  · rintro ⟨hpath, hrevision, hchart, href⟩
    exact ⟨hpath, hrevision, hchart, href⟩
  · intro h
    exact ⟨h.path, h.targetRevision, h.chart, h.ref⟩

theorem laidOver_origin (earlier s : Source) : laidOver earlier s.origin = laidOver earlier s := rfl

theorem origin_ofJson_merge {s : Source} (h : s.Tidy) (target : Json) :
    (ofJson (Json.merge target s.toJson)).origin = laidOver (ofJson (.obj target.members)) s := by
  rw [toJson, ofJson, field?_merge_withExtra h.fills _ (by decide),
    field?_merge_withExtra h.fills _ (by decide), field?_merge_withExtra h.fills _ (by decide),
    field?_merge_withExtra h.fills _ (by decide), field?_merge_withExtra h.fills _ (by decide),
    field?_merge_withExtra h.fills _ (by decide)]
  simp only [Keyed.get?, String.reduceEq, ↓reduceIte, Option.join_some, origin]
  rw [optional_patched_text, optional_patched_text, optional_patched_text, optional_patched_text]
  rfl

theorem helm_ofJson_merge {s : Source} (h : s.Tidy) {k : HelmSettings} (hk : s.helm = some k)
    (hcomplete : k.Complete) (target : Json) :
    ∃ extra, (ofJson (Json.merge target s.toJson)).helm = some { k with extra } := by
  obtain ⟨extra, hextra⟩ := HelmSettings.ofJson_merge (h.helm k hk) hcomplete
    (target.child "helm")
  have hfield : shape.field? (Json.merge target s.toJson) "helm"
      = some (Json.merge (target.child "helm") k.toJson) := by
    rw [toJson, field?_merge_withExtra h.fills _ (by decide)]
    simp only [Keyed.get?, String.reduceEq, ↓reduceIte, hk, Option.map_some, Option.join_some]
    exact changed_of_ne_null k.toJson_ne_null _
  refine ⟨extra, ?_⟩
  rw [ofJson, hfield, ← hextra]
  rfl

end Source

/-! ## Sync policies -/

namespace Wire

theorem optional_map_of_ne_null {α β : Type} {read : Json → β} {write : α → Json}
    (hnull : ∀ a, write a ≠ .null) (o : Option α) :
    optional read (o.map write) = o.map (read ∘ write) :=
  optional_map hnull fun _ _ => rfl

end Wire

namespace Application

theorem syncPolicyChange_eq (p : SyncPolicy) :
    syncPolicyChange p = .obj (Keyed.put "automated"
      (Json.orNull (p.automated.map AutomatedSync.toJson))
      (written [("automated", p.automated.map AutomatedSync.toJson)] p.extra)) := by
  rw [syncPolicyChange, SyncPolicy.toJson, withExtra_eq]

theorem syncPolicyChange_ne_null (p : SyncPolicy) : syncPolicyChange p ≠ .null := by
  rw [syncPolicyChange_eq]
  exact Json.noConfusion

/-- The automated part of a patched policy is there or not as wanted. -/
theorem automated_syncPolicyChange (p : SyncPolicy) (target : Json) :
    (SyncPolicy.ofJson (Json.merge target (syncPolicyChange p))).automated.isSome
      = p.automated.isSome := by
  have hnodup : ∀ change, ((Keyed.put "automated" change
      (written [("automated", p.automated.map AutomatedSync.toJson)] p.extra)).map
        Prod.fst).Nodup := fun change =>
    (Keyed.ordered_put _ _ (Keyed.ordered_ofList _)).nodup
  have hfield : SyncPolicy.shape.field? (Json.merge target (syncPolicyChange p)) "automated"
      = p.automated.map fun a =>
        Json.merge ((Keyed.get? target.members "automated").getD .null) a.toJson := by
    rw [← changed_orNull AutomatedSync.toJson_ne_null, syncPolicyChange_eq]
    show Keyed.get? (Json.mergeMembers target.members _) "automated" = _
    rw [get?_mergeMembers (hnodup _), Keyed.get?_put_self]
    rfl
  rw [SyncPolicy.ofJson, hfield,
    optional_map_of_ne_null fun a => merge_ne_null a.toJson_ne_null _, Option.isSome_map]

/-! ## Specifications -/

/-- The change of the specification in the patch that writes an application back. -/
def specChange (a : Application) : Json :=
  .object
    [ ("source", Json.orNull (a.spec.source.map Source.toJson)),
      ("sources", Json.orNull (Json.listUnlessEmpty (a.spec.sources.map Source.toJson))),
      ("syncPolicy", Json.orNull (a.spec.syncPolicy.map syncPolicyChange)) ]

theorem writeBack_eq (a : Application) :
    a.writeBack = .object
      [ ("metadata", .object
          [("resourceVersion", Json.orNull (a.metadata.resourceVersion.map .str))]),
        ("spec", a.specChange) ] := rfl

theorem field?_specChange (a : Application) (target : Json) (name : String) :
    ApplicationSpec.shape.field? (Json.merge target a.specChange) name
      = patched (Keyed.get? target.members name) (Keyed.get?
          [ ("source", Json.orNull (a.spec.source.map Source.toJson)),
            ("sources", Json.orNull (Json.listUnlessEmpty (a.spec.sources.map Source.toJson))),
            ("syncPolicy", Json.orNull (a.spec.syncPolicy.map syncPolicyChange)) ] name) := by
  refine field?_merge_object ?_ _ target name
  show ["source", "sources", "syncPolicy"].Nodup
  decide

theorem source_specChange (a : Application) (target : Json) :
    (ApplicationSpec.ofJson (Json.merge target a.specChange)).source
      = a.spec.source.map fun s =>
        Source.ofJson (Json.merge (target.child "source") s.toJson) := by
  rw [ApplicationSpec.ofJson, field?_specChange]
  simp only [Keyed.get?, ↓reduceIte]
  show optional Source.ofJson (changed _ _) = _
  rw [changed_orNull Source.toJson_ne_null,
    optional_map_of_ne_null fun s => merge_ne_null s.toJson_ne_null _]
  rfl

theorem sources_specChange {a : Application} (h : a.Tidy) (target : Json) :
    (ApplicationSpec.ofJson (Json.merge target a.specChange)).sources
      = a.spec.sources.map Source.normal := by
  rw [ApplicationSpec.ofJson]
  dsimp only
  rw [field?_specChange]
  simp only [Keyed.get?, String.reduceEq, ↓reduceIte]
  rw [← listOf_map fun s hs => Source.ofJson_toJson (h.spec.sources s hs)]
  cases a.spec.sources <;> rfl

theorem automated_specChange (a : Application) (target : Json) :
    ((ApplicationSpec.ofJson (Json.merge target a.specChange)).syncPolicy.bind
      (·.automated)).isSome = a.automated?.isSome := by
  rw [ApplicationSpec.ofJson]
  dsimp only
  rw [field?_specChange]
  simp only [Keyed.get?, String.reduceEq, ↓reduceIte]
  show (Option.bind (optional SyncPolicy.ofJson (changed _ _)) _).isSome = _
  rw [changed_orNull syncPolicyChange_ne_null,
    optional_map_of_ne_null fun p => merge_ne_null (syncPolicyChange_ne_null p) _, automated?]
  cases a.spec.syncPolicy with
  | none => rfl
  | some p => exact automated_syncPolicyChange p _

/-! ## Applications -/

def patchedDocument (stored : Json) (a : Application) (version : String) : Json :=
  (Json.merge stored a.writeBack).withVersion version

theorem spec_patchedDocument (stored : Json) (a : Application) (version : String) :
    shape.field? (patchedDocument stored a version) "spec"
      = some (Json.merge (stored.child "spec") a.specChange) := by
  have hwritten : shape.field? (Json.merge stored a.writeBack) "spec"
      = some (Json.merge (stored.child "spec") a.specChange) := by
    rw [writeBack_eq, field?_merge_object (by show ["metadata", "spec"].Nodup; decide)]
    rfl
  rw [patchedDocument, Json.withVersion]
  show Keyed.get? (Keyed.put "metadata" _ _) "spec" = _
  rw [Keyed.get?_put_of_ne (by decide)]
  exact hwritten

theorem ofJson_patchedDocument (stored : Json) (a : Application) (version : String) :
    (ofJson (patchedDocument stored a version)).spec
      = .ofJson (Json.merge (stored.child "spec") a.specChange) := by
  rw [ofJson, spec_patchedDocument]
  rfl

/-! ## Staying in line -/

theorem complete_of_merge {wanted current : HelmSettings} (hcomplete : wanted.Complete)
    (h : wanted.merge current = current) : current.Complete := by
  rw [← h]
  refine ⟨hcomplete.valueFiles, Parameter.foldl_upsert_ne_nil (.inl hcomplete.parameters), ?_⟩
  obtain ⟨b, hb⟩ := Option.isSome_iff_exists.1 hcomplete.ignoreMissingValueFiles
  rw [HelmSettings.merge, hb]
  rfl

theorem merge_withExtra {wanted current : HelmSettings} (h : wanted.merge current = current)
    (extra : Keyed Json) : wanted.merge { current with extra } = { current with extra } :=
  congrArg (fun k : HelmSettings => { k with extra }) h

def storedSource (stored : Json) : Source :=
  .ofJson (.obj ((stored.child "spec").child "source").members)

/-- The single source of a patched application is laid over the stored one, and its helm settings
are the written ones, but for members that the settings do not know. -/
theorem source_patchedDocument {a : Application} {s : Source} {k : HelmSettings} (htidy : a.Tidy)
    (hs : a.spec.source = some s) (hk : s.helm = some k) (hcomplete : k.Complete) (stored : Json)
    (version : String) :
    ∃ r extra, (ofJson (patchedDocument stored a version)).spec.source = some r
      ∧ r.origin = Source.laidOver (storedSource stored) s ∧ r.helm = some { k with extra } := by
  have hsource := source_specChange a (stored.child "spec")
  rw [hs, Option.map_some] at hsource
  obtain ⟨extra, hextra⟩ := Source.helm_ofJson_merge (htidy.spec.source s hs) hk hcomplete
    ((stored.child "spec").child "source")
  refine ⟨_, extra, ?_, Source.origin_ofJson_merge (htidy.spec.source s hs) _, hextra⟩
  rw [ofJson_patchedDocument]
  exact hsource

section

variable {goal first : Application} {stored : Json} {version : String} {wanted : HelmSettings}

/-- A written list of sources replaces the stored one, so that nothing of that is left. -/
theorem inLine_patched_of_sources (hline : InLine goal first) (htidy : first.Tidy)
    (hfirst : first.spec.source = none) :
    InLine goal (ofJson (patchedDocument stored first version)) := by
  have hspec := ofJson_patchedDocument stored first version
  have hsource := source_specChange first (stored.child "spec")
  have hsources := sources_specChange htidy (stored.child "spec")
  have hautomated := automated_specChange first (stored.child "spec")
  rw [← hspec] at hsource hsources hautomated
  rw [hfirst] at hsource
  refine hline.normal.congr ?_ hsources ?_
  · rw [hsource]
    show none = first.spec.source.map Source.normal
    rw [hfirst]
    rfl
  · rw [automated?_normal, Option.isSome_map]
    exact hautomated

/-- Where the helm settings of single sources are in line, their origins decide. -/
theorem inLine_iff_of_source {again : Application} {g r : Source} {k : HelmSettings}
    (hg : goal.spec.source = some g) (hr : again.spec.source = some r)
    (hwanted : goal.helm? = some wanted) (hk : r.helm = some k) (hmerge : wanted.merge k = k)
    (hautomated : goal.automated?.isSome = again.automated?.isSome) :
    InLine goal again ↔ g.origin = r.origin := by
  constructor
  · intro h
    have hlayout : goal.allSources.map Source.origin = again.allSources.map Source.origin :=
      congrArg (·.2.1) h.layout
    rw [allSources_of_source hg, allSources_of_source hr] at hlayout
    exact List.singleton_inj.1 hlayout
  · intro h
    refine ⟨?_, ?_, hautomated⟩
    · rw [layout, layout, allSources_of_source hg, allSources_of_source hr, hwanted,
        helm?_of_source hr, hg, hr, hk, List.map_singleton, List.map_singleton, h]
      rfl
    · intro w hw current hcurrent
      rw [hwanted] at hw
      rw [helm?_of_source hr, hk] at hcurrent
      cases hw
      cases hcurrent
      exact hmerge

/-- A patched application is in line with its goal exactly if the stored source has no optional
part that the source of the goal leaves out. -/
theorem inLine_patched_iff (hwanted : goal.helm? = some wanted) (hcomplete : wanted.Complete)
    (hline : InLine goal first) (htidy : first.Tidy) :
    InLine goal (ofJson (patchedDocument stored first version))
      ↔ ∀ s ∈ goal.spec.source, Source.Within (storedSource stored) s := by
  have hsingle : goal.spec.source.isSome = first.spec.source.isSome :=
    congrArg (·.1) hline.layout
  cases hfirst : first.spec.source with
  | none =>
    refine iff_of_true (inLine_patched_of_sources hline htidy hfirst) ?_
    rw [hfirst] at hsingle
    rw [Option.isNone_iff_eq_none.1 (Option.isSome_eq_false_iff.1 hsingle)]
    rintro s ⟨⟩
  | some s =>
    obtain ⟨g, hg⟩ := Option.isSome_iff_exists.1 (hsingle.trans (by rw [hfirst]; rfl))
    have horigins : goal.allSources.map Source.origin = first.allSources.map Source.origin :=
      congrArg (·.2.1) hline.layout
    rw [allSources_of_source hg, allSources_of_source hfirst] at horigins
    have horigin : g.origin = s.origin := List.singleton_inj.1 horigins
    have hhelm : goal.helm?.isSome = first.helm?.isSome := congrArg (·.2.2) hline.layout
    rw [hwanted, helm?_of_source hfirst] at hhelm
    obtain ⟨k, hk⟩ := Option.isSome_iff_exists.1 hhelm.symm
    have hmerge : wanted.merge k = k :=
      hline.helm wanted hwanted k ((helm?_of_source hfirst).trans hk)
    obtain ⟨r, extra, hr, hrorigin, hextra⟩ := source_patchedDocument htidy hfirst hk
      (complete_of_merge hcomplete hmerge) stored version
    have hautomated := automated_specChange first (stored.child "spec")
    rw [← ofJson_patchedDocument stored first version] at hautomated
    rw [inLine_iff_of_source hg hr hwanted hextra (merge_withExtra hmerge extra)
      (hline.automated.trans hautomated.symm)]
    rw [hg, hrorigin, ← Source.laidOver_origin _ s, ← horigin, Source.laidOver_origin, eq_comm,
      Source.laidOver_eq_origin_iff]
    exact ⟨fun h x hx => Option.some.inj hx ▸ h, fun h => h g rfl⟩

end

end Application

end PatternSync
