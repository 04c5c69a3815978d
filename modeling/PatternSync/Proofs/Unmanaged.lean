import PatternSync.Proofs.Convergence
import PatternSync.Proofs.Interleaving
import PatternSync.Proofs.Kept

/-!
# Settings that nobody here manages

What a stored application has beside the managed settings, before and after the patch of an update.
Main statement: if the layout is that of the goal, every member and every parameter that is not
managed is there afterwards as it was before, and the application is in line (`unmanaged_survives`).
-/

namespace PatternSync

open Wire Json

namespace Application

/-! ## Stored applications -/

/-- A stored application in the ordinary form: it can be read, and the document and its
specification are objects. -/
structure Ordinary (stored : Json) : Prop where
  readable : shape.check stored = .ok ()
  document : ∃ members, stored = .obj members
  spec : ∃ members, stored.child "spec" = .obj members

/-- Everything that is not managed in a stored application is as it was. -/
structure Kept (managed : List String) (before after : Json) : Prop where
  members : AgreeBut ["spec"] before after
  spec : ApplicationSpec.Kept managed (before.child "spec") (after.child "spec")

section

variable {stored : Json}

theorem member?_writeBack (a : Application) (target : Json) (key : String) :
    (target.merge a.writeBack).member? key = patched (target.member? key) (Keyed.get?
      [ ("metadata", .object
          [("resourceVersion", Json.orNull (a.metadata.resourceVersion.map .str))]),
        ("spec", a.specChange) ] key) := by
  refine member?_merge_object ?_ target key
  show ["metadata", "spec"].Nodup
  decide

theorem spec_merge (a : Application) (target : Json) :
    (target.merge a.writeBack).child "spec" = (target.child "spec").merge a.specChange := by
  rw [child_eq, member?_writeBack, child_eq]
  rfl

theorem Ordinary.spec_ofJson (h : Ordinary stored) :
    (ofJson stored).spec = .ofJson (stored.child "spec") := by
  obtain ⟨members, rfl⟩ := h.document
  rfl

theorem Ordinary.check_spec (h : Ordinary stored) :
    ApplicationSpec.shape.check (stored.child "spec") = .ok () := by
  obtain ⟨spec, hspec⟩ := h.spec
  have hfield : ("spec", .required, ApplicationSpec.shape) ∈ shape.fields := by
    simp [shape, Shape.fields]
  rw [hspec]
  exact (suits_of_check h.readable).member? (by decide) hfield _ (member?_of_child hspec)

theorem changed_version {parts : Keyed Json} (hfree : (Json.obj parts).isNullFree = true)
    (hcheck : Metadata.shape.check (.obj parts) = .ok ()) :
    changed (Keyed.get? parts "resourceVersion")
      (Json.orNull ((Metadata.ofJson (.obj parts)).resourceVersion.map .str))
        = Keyed.get? parts "resourceVersion" := by
  have hread : (Metadata.ofJson (.obj parts)).resourceVersion
      = optional text (Keyed.get? parts "resourceVersion") := rfl
  have hfield : ("resourceVersion", .optional, .nullable .string) ∈ Metadata.shape.fields := by
    simp [Metadata.shape, Shape.fields]
  rw [hread, changed_orNull fun _ => Json.noConfusion]
  cases hget : Keyed.get? parts "resourceVersion" with
  | none => rfl
  | some j =>
    have hne := ne_null_of_isNullFree (isNullFree_of_member? hfree j hget)
    have hstring := check_of_nullable hne
      ((suits_of_check hcheck).member? (by decide) hfield j hget)
    cases j with
    | str s => rfl
    | null | bool | num | arr | obj => simp [Shape.check, Shape.refuse] at hstring

theorem metadata_merge (h : Ordinary stored) (hfree : stored.isNullFree = true) {a : Application}
    (hmetadata : a.metadata = (ofJson stored).metadata) :
    (stored.merge a.writeBack).member? "metadata" = stored.member? "metadata" := by
  obtain ⟨members, rfl⟩ := h.document
  obtain ⟨hmembers, hrequired⟩ := Shape.check_record.1 h.readable
  obtain ⟨j, hj⟩ := Option.isSome_iff_exists.1 (hrequired _ List.mem_cons_self rfl)
  have hcheck : Metadata.shape.check j = .ok () := hmembers _ (Keyed.mem_of_get? hj)
  have hplain : j.isNullFree = true := isNullFree_of_member? hfree j hj
  obtain ⟨parts, rfl⟩ : ∃ parts, j = .obj parts := by
    cases j with
    | obj parts => exact ⟨parts, rfl⟩
    | null | bool | num | str | arr => simp [Metadata.shape, Shape.check, Shape.refuse] at hcheck
  have hread : a.metadata = Metadata.ofJson (.obj parts) := by
    rw [hmetadata]
    show Metadata.ofJson (Json.orNull (Keyed.get? members "metadata")) = _
    rw [show Keyed.get? members "metadata" = some (.obj parts) from hj]
    rfl
  have hmember : (Json.obj members).member? "metadata" = some (.obj parts) := hj
  have hsame : mergeMembers parts
      [("resourceVersion", Json.orNull (a.metadata.resourceVersion.map .str))] = parts := by
    refine mergeMembers_eq_self (isNullFree_obj.1 hplain).1 fun e he => ?_
    rw [List.mem_singleton.1 he, hread]
    exact changed_version hplain hcheck
  rw [member?_writeBack, hmember]
  exact congrArg (fun parts => some (Json.obj parts)) hsame

end

/-- A stored application into which the managed parts of an update are merged keeps the others, if
its layout is that of the goal. -/
theorem kept_writeBack {goal : Application} {stored : Json} (h : Ordinary stored)
    (hfree : stored.isNullFree = true) (hgoal : goal.Tidy)
    (hsame : sameLayout goal (.ofJson stored) = true) :
    Kept goal.managedNames stored (stored.merge (goal.update (.ofJson stored)).1.writeBack) := by
  have htidy := tidy_update hgoal (tidy_ofJson stored)
  refine ⟨?_, ?_⟩
  · intro key hkey
    by_cases hmetadata : key = "metadata"
    · rw [hmetadata]
      exact metadata_merge h hfree (metadata_update goal _)
    · have hother : key ∉ ["metadata", "spec"] := by simp_all
      rw [member?_writeBack, Keyed.get?_eq_none_iff.2 hother]
      rfl
  · obtain ⟨spec, hspec⟩ := h.spec
    have hspecFree : (Json.obj spec).isNullFree = true :=
      isNullFree_of_member? hfree _ (member?_of_child hspec)
    have hlive := h.spec_ofJson
    have hcheck := h.check_spec
    rw [spec_merge]
    rw [hspec] at hlive hcheck ⊢
    exact kept_specChange hlive hspecFree hcheck htidy (spares_update hsame)
      (SyncPolicy.spares_update goal _)

end Application

/-! ## Patches that change no origin -/

/-- A source leaves nothing out that a source of the same origin has. -/
theorem Source.within_of_origin_eq {earlier s : Source} (h : s.origin = earlier.origin) :
    Within earlier s := by
  have hpath : s.path = earlier.path := congrArg (·.path) h
  have hrevision : s.targetRevision = earlier.targetRevision := congrArg (·.targetRevision) h
  have hchart : s.chart = earlier.chart := congrArg (·.chart) h
  have href : s.ref = earlier.ref := congrArg (·.ref) h
  exact ⟨hpath.symm.trans, hrevision.symm.trans, hchart.symm.trans, href.symm.trans⟩

namespace Application

theorem spec_merge_writeBack (stored : Json) (a : Application) (version : String) :
    (ofJson (stored.merge a.writeBack)).spec
      = (ofJson (patchedDocument stored a version)).spec := by
  have hspec : shape.field? (stored.merge a.writeBack) "spec"
      = some ((stored.child "spec").merge a.specChange) := by
    rw [writeBack_eq, field?_merge_object (by show ["metadata", "spec"].Nodup; decide)]
    rfl
  rw [ofJson_patchedDocument, ofJson, hspec]
  rfl

theorem storedSource_eq {stored : Json} (h : Ordinary stored) (hfree : stored.isNullFree = true)
    {s : Source} (hs : (ofJson stored).spec.source = some s) : storedSource stored = s := by
  obtain ⟨spec, hspec⟩ := h.spec
  have hcheck := h.check_spec
  rw [h.spec_ofJson, hspec] at hs
  rw [hspec] at hcheck
  obtain ⟨j, hj, hread⟩ := mem_optional hs
  have hmember : (Json.obj spec).member? "source" = some j := hj
  have hfield : ("source", .optional, .nullable Source.shape) ∈ ApplicationSpec.shape.fields := by
    simp [ApplicationSpec.shape, Shape.fields]
  have hne : j ≠ .null := ne_null_of_isNullFree
    (isNullFree_of_member? (isNullFree_of_member? hfree _ (member?_of_child hspec)) j hmember)
  obtain ⟨members, rfl⟩ := object_of_keeping
    (check_of_nullable hne (ApplicationSpec.check_member hcheck hfield j hmember))
  rw [storedSource, hspec, child_eq, hmember]
  exact hread

/-- A patch from the same layout leaves the stored application in line. -/
theorem inLine_merge_writeBack {goal : Application} {stored : Json} {wanted : HelmSettings}
    (h : Ordinary stored) (hfree : stored.isNullFree = true) (hgoal : goal.Tidy)
    (hwanted : goal.helm? = some wanted) (hcomplete : wanted.Complete)
    (hnodup : (Parameter.names wanted.parameters).Nodup)
    (hsame : sameLayout goal (.ofJson stored) = true) :
    InLine goal (.ofJson (stored.merge (goal.update (.ofJson stored)).1.writeBack)) := by
  obtain ⟨live, hlive⟩ : ∃ live, Application.ofJson stored = live := ⟨_, rfl⟩
  have hline : InLine goal (goal.update live).1 :=
    inLine_update (fun k hk => Option.some.inj (hwanted.symm.trans hk) ▸ hnodup) live
  have htidy : (goal.update live).1.Tidy := tidy_update hgoal (hlive ▸ tidy_ofJson stored)
  -- a merged source would keep an optional part that it leaves out, but here it leaves out none
  have hwithin : ∀ s ∈ goal.spec.source, Source.Within (storedSource stored) s := by
    intro s hs
    have hlayout := sameLayout_iff.1 hsame
    have hsingle : goal.spec.source.isSome = (ofJson stored).spec.source.isSome :=
      congrArg (·.1) hlayout
    rw [Option.mem_def.1 hs] at hsingle
    obtain ⟨earlier, hearlier⟩ := Option.isSome_iff_exists.1 hsingle.symm
    have horigins : goal.allSources.map Source.origin
        = (ofJson stored).allSources.map Source.origin := congrArg (·.2.1) hlayout
    rw [allSources_of_source hs, allSources_of_source hearlier] at horigins
    rw [storedSource_eq h hfree hearlier]
    exact Source.within_of_origin_eq (List.singleton_inj.1 horigins)
  have hpatched : InLine goal (.ofJson (patchedDocument stored (goal.update live).1 "")) :=
    (inLine_patched_iff hwanted hcomplete hline htidy).2 hwithin
  have hspec := spec_merge_writeBack stored (goal.update live).1 ""
  rw [hlive]
  exact hpatched.congr (by rw [hspec]) (by rw [hspec]) (by rw [automated?, automated?, hspec])

end Application

namespace Pattern

/-- If a stored application has the layout of the goal, the patch of the update leaves everything
alone that is not managed, and with it the application is in line. -/
theorem unmanaged_survives (p : Pattern) (settings : Settings) {stored : Json}
    (hform : Application.Ordinary stored) (hfree : stored.isNullFree = true)
    (hsame : Application.sameLayout (p.goal settings) (.ofJson stored) = true) :
    let goal := p.goal settings
    let after := stored.merge (goal.update (.ofJson stored)).1.writeBack
    Application.Kept goal.managedNames stored after
      ∧ Application.InLine goal (.ofJson after) := by
  intro goal after
  obtain ⟨root, hroot⟩ := p.helm?_goal settings
  refine ⟨Application.kept_writeBack hform hfree (p.tidy_goal settings) hsame, ?_⟩
  exact Application.inLine_merge_writeBack hform hfree (p.tidy_goal settings) hroot
    (p.complete_helmGoal settings root) (p.nodup_parameters settings) hsame

/-- An application as it is stored for the pattern, with an outdated parameter and settings of
others in every part. -/
def tendedStored : Json :=
  .object
    [ ("apiVersion", .str "argoproj.io/v1alpha1"),
      ("kind", .str "Application"),
      ("metadata", .object
        [ ("labels", .object [("team", .str "edge")]),
          ("name", .str "mcg-hub"),
          ("resourceVersion", .str "7") ]),
      ("spec", .object
        [ ("destination", .object []),
          ("ignoreDifferences", .arr [.object [("kind", .str "Deployment")]]),
          ("project", .str "default"),
          ("source", .object
            [ ("directory", .object [("recurse", .bool true)]),
              ("helm", .object
                [ ("parameters", .arr
                    [ .object [("name", .str "extra.flag"), ("value", .str "on")],
                      .object [("name", .str "global.pattern"), ("value", .str "old")] ]),
                  ("releaseName", .str "mcg") ]),
              ("path", .str "common/clustergroup"),
              ("repoURL", .str "https://example.com/mcg"),
              ("targetRevision", .str "main") ]),
          ("syncPolicy", .object
            [ ("automated", .object [("allowEmpty", .bool true), ("prune", .bool true)]),
              ("syncOptions", .arr [.str "CreateNamespace=true"]) ]) ]),
      ("status", .object [("health", .object [("status", .str "Healthy")])]) ]

theorem unmanaged_survives_tended :
    let goal := hub.goal {}
    let after := tendedStored.merge (goal.update (.ofJson tendedStored)).1.writeBack
    Application.Ordinary tendedStored ∧ tendedStored.isNullFree = true
      ∧ Application.sameLayout goal (.ofJson tendedStored) = true
      ∧ (goal.update (.ofJson tendedStored)).2 = true
      ∧ Application.Kept goal.managedNames tendedStored after
      ∧ Application.InLine goal (.ofJson after) := by
  have hform : Application.Ordinary tendedStored :=
    ⟨by decide, ⟨_, rfl⟩, ⟨(tendedStored.child "spec").members, by decide⟩⟩
  have hfree : tendedStored.isNullFree = true := by decide
  have hsame : Application.sameLayout (hub.goal {}) (.ofJson tendedStored) = true := by decide
  exact ⟨hform, hfree, hsame, by decide, hub.unmanaged_survives {} hform hfree hsame⟩

end Pattern

end PatternSync
