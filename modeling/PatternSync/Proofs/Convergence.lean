import PatternSync.Proofs.Conduct
import PatternSync.Proofs.PatchedShape
import PatternSync.Proofs.Writes

/-!
# Whether one write is enough

A pass that patches the application of a pattern, and the next pass over a pattern that asks for
the same. A single source is merged into the stored one, and a part that the goal leaves out is not
removed by that. Main statement: the next pass writes nothing exactly if the stored source has none
of the parts that a single source never has, and a target revision only if one is wanted
(`second_pass_calm_iff`).
-/

namespace PatternSync

open Json Pass Wire

/-! ## Patterns that ask for the same -/

def PatternStatus.facts (status : PatternStatus) : ClusterFacts where
  clusterId := status.clusterId
  clusterVersion := status.clusterVersion
  clusterPlatform := status.clusterPlatform
  appClusterDomain := status.appClusterDomain
  clusterDomain := status.clusterDomain
  clusterName := status.clusterName

namespace Pattern

/-- Two patterns have the same name, the same specification and the same facts. -/
structure Alike (p q : Pattern) : Prop where
  name : p.displayName = q.displayName
  spec : p.spec = q.spec
  facts : p.observed.facts = q.observed.facts

/-- The wanted application is built from the name, the specification and five of the facts. -/
theorem goal_congr {p q : Pattern} (hname : p.displayName = q.displayName) (hspec : p.spec = q.spec)
    (hversion : p.observed.clusterVersion = q.observed.clusterVersion)
    (hplatform : p.observed.clusterPlatform = q.observed.clusterPlatform)
    (happs : p.observed.appClusterDomain = q.observed.appClusterDomain)
    (hdomain : p.observed.clusterDomain = q.observed.clusterDomain)
    (hcluster : p.observed.clusterName = q.observed.clusterName) (settings : Settings) :
    p.goal settings = q.goal settings := by
  have hparameters : p.parameters settings = q.parameters settings := by
    simp only [parameters, fixedParameters, hname, hspec, hversion, hplatform, happs, hdomain,
      hcluster]
  have hfiles : p.rootedValueFiles = q.rootedValueFiles := by
    simp only [rootedValueFiles, layers, hspec, hversion, hplatform, hcluster]
  have hhelm : p.helmGoal settings = q.helmGoal settings := by
    funext root
    simp only [helmGoal, valueFiles, hparameters, hfiles]
  have hrevision : p.targetRevision? = q.targetRevision? := by
    rw [targetRevision?, targetRevision?, hspec]
  have hsingle : p.singleSource settings = q.singleSource settings := by
    rw [singleSource, singleSource, hspec, hrevision, hhelm]
  have hrepo : p.repoSource = q.repoSource := by
    rw [repoSource, repoSource, hspec, hrevision]
  have hchart : p.chartSource settings = q.chartSource settings := by
    rw [chartSource, chartSource, hspec, hhelm]
  have hsync : p.syncPolicyGoal settings = q.syncPolicyGoal settings := by
    rw [syncPolicyGoal, syncPolicyGoal, manualSync, manualSync, hspec]
  have happlication : p.applicationName = q.applicationName := by
    rw [applicationName, applicationName, hname, hspec]
  rw [goal, goal, happlication, hname, hspec, hsingle, hrepo, hchart, hsync]

theorem Alike.goal_eq {p q : Pattern} (h : Alike p q) (settings : Settings) :
    p.goal settings = q.goal settings := by
  obtain ⟨hname, hspec, hfacts⟩ := h
  simp only [PatternStatus.facts, ClusterFacts.mk.injEq] at hfacts
  obtain ⟨-, hversion, hplatform, happs, hdomain, hcluster⟩ := hfacts
  exact goal_congr hname hspec hversion hplatform happs hdomain hcluster settings

theorem complete_helmGoal (p : Pattern) (settings : Settings) (root : String) :
    (p.helmGoal settings root).Complete where
  valueFiles := by
    have hglobal : layerKey? ["global"] = some "global" := by decide
    simp [helmGoal, valueFiles, rootedValueFiles, layers, List.filterMap_cons, hglobal]
  parameters := Parameter.foldl_upsert_ne_nil (.inr (List.cons_ne_nil _ _))
  ignoreMissingValueFiles := rfl

/-- The parts of a stored source that the single source of the goal leaves out. -/
theorem within_goal_iff {p : Pattern} {settings : Settings} {earlier : Source} :
    (∀ s ∈ (p.goal settings).spec.source, Source.Within earlier s) ↔
      (p.spec.multiSource.enabled = false →
        earlier.chart = none ∧ earlier.ref = none
          ∧ (p.spec.git.targetRevision = "" → earlier.targetRevision = none)) := by
  cases hmulti : p.spec.multiSource.enabled with
  | true => simp [goal, hmulti]
  | false =>
    have hsource : (p.goal settings).spec.source = some (p.singleSource settings) := by
      simp [goal, hmulti]
    have hrevision : (p.singleSource settings).targetRevision = none
        ↔ p.spec.git.targetRevision = "" := by
      simp [singleSource, targetRevision?]
    rw [hsource]
    constructor
    · intro h _
      have hwithin := h _ rfl
      exact ⟨hwithin.chart rfl, hwithin.ref rfl,
        fun hempty => hwithin.targetRevision (hrevision.2 hempty)⟩
    · rintro h s ⟨⟩
      obtain ⟨hchart, href, htarget⟩ := h rfl
      have hpath : (p.singleSource settings).path ≠ none := Option.some_ne_none _
      exact ⟨fun hnone => absurd hnone hpath, fun hnone => htarget (hrevision.1 hnone),
        fun _ => hchart, fun _ => href⟩

end Pattern

/-! ## A pass that patches -/

section

variable {p : Pattern} {settings : Settings} {s after : Inventory} {steps : List Step}

/-- Reading the application leaves it alone and tells what is stored. -/
theorem trail_readCall {result : Except ApiFailure Json}
    (h : Trail Inventory.honest s (.called (readCall p settings) result :: steps) after) :
    Trail Inventory.honest s steps after
      ∧ (∀ j, result = .ok j → s.stored (p.home settings) = some j
          ∧ Application.shape.check j = .ok ())
      ∧ ∀ f, result = .error f → f.isAbsence = true → s.stored (p.home settings) = none := by
  obtain ⟨fate, mid, hhonest, hrest⟩ := trail_call h
  have hserve := Inventory.serve_of_honest hhonest
  obtain rfl := Inventory.serve_other rfl hserve
  refine ⟨hrest, ?_, ?_⟩
  · rintro j rfl
    obtain ⟨-, hstored, hcheck⟩ := Inventory.serve_read hserve
    refine ⟨hstored, ?_⟩
    cases hresult : Application.shape.check j with
    | ok u => rfl
    | error e =>
      rw [hresult] at hcheck
      cases hcheck
  · rintro f rfl habsent
    have hdenies : (readCall p settings).denies f = true := habsent
    exact Inventory.stored_of_denies hdenies rfl hhonest

/-- Creating the application stores the goal where nothing was. -/
theorem trail_createCall {result : Except ApiFailure Json}
    (h : Trail Inventory.honest s (.called (createCall p settings) result :: steps) after) :
    ∃ mid, Trail Inventory.honest mid steps after
      ∧ (result.isOk = false ∧ mid = s ∨ s.stored (p.home settings) = none
        ∧ ∃ version, mid = s.store (p.home settings) (p.goal settings).toJson version) := by
  obtain ⟨fate, mid, hhonest, hrest⟩ := trail_call h
  refine ⟨mid, hrest, ?_⟩
  obtain ⟨f, -, rfl, hmid⟩ | ⟨-, version, hperform⟩ :=
    Handler.refused_or_performed (Inventory.serve_of_honest hhonest)
  · exact .inl ⟨rfl, hmid⟩
  · obtain ⟨hnone, -, hmid⟩ := Inventory.perform?_create hperform
    exact .inr ⟨hnone, version, hmid⟩

/-- The patch replaces the application that is stored. -/
theorem trail_mergeCall {stored j : Json} {result : Except ApiFailure Json}
    (hstored : s.stored (p.home settings) = some stored)
    (h : Trail Inventory.honest s (.called (mergeCall p settings j) result :: steps) after) :
    ∃ mid, Trail Inventory.honest mid steps after
      ∧ (result.isOk = false ∧ mid = s ∨ ∃ version, mid = s.store (p.home settings)
        (stored.merge ((p.goal settings).update (.ofJson j)).1.writeBack) version) := by
  obtain ⟨fate, mid, hhonest, hrest⟩ := trail_call h
  refine ⟨mid, hrest, ?_⟩
  obtain ⟨f, -, rfl, hmid⟩ | ⟨-, version, hperform⟩ :=
    Handler.refused_or_performed (Inventory.serve_of_honest hhonest)
  · exact .inl ⟨rfl, hmid⟩
  · obtain ⟨document, hdocument, -, -, hmid⟩ := Inventory.perform?_merge hperform
    have hsame : document = stored := Option.some.inj (hdocument.symm.trans hstored)
    exact .inr ⟨version, hsame ▸ hmid⟩

end

/-- What bringing an application in line can do to the stored applications: nothing, because it
fails or because there is nothing to do, or one write. A write may have been carried out although
its answer was lost. -/
inductive SyncEffect (p : Pattern) (settings : Settings) (s : Inventory) :
    Inventory → Except Failure SyncOutcome → Prop where
  | failed {e : Failure} : SyncEffect p settings s s (.error e)
  | inLine {j : Json} {outcome : SyncOutcome} (hstored : s.stored (p.home settings) = some j)
      (hline : Application.InLine (p.goal settings) (.ofJson j)) :
      SyncEffect p settings s s (.ok outcome)
  | created {version : String} {v : Except Failure SyncOutcome}
      (hnone : s.stored (p.home settings) = none) :
      SyncEffect p settings s (s.store (p.home settings) (p.goal settings).toJson version) v
  | patched {j : Json} {version : String} {v : Except Failure SyncOutcome}
      (hstored : s.stored (p.home settings) = some j)
      (hcheck : Application.shape.check j = .ok ()) :
      SyncEffect p settings s (s.store (p.home settings)
        (j.merge ((p.goal settings).update (.ofJson j)).1.writeBack) version) v

section

variable {p : Pattern} {settings : Settings} {s after : Inventory} {steps : List Step}

theorem SyncCourse.effect {v : Except Failure SyncOutcome} (hcourse : SyncCourse p settings steps v)
    (htrail : Trail Inventory.honest s steps after) : SyncEffect p settings s after v := by
  cases hcourse with
  | unread habsent =>
    obtain rfl := trail_nil (trail_readCall htrail).1
    exact .failed
  | created habsent =>
    obtain ⟨mid, hend, hmid⟩ := trail_createCall (trail_note (trail_readCall htrail).1)
    obtain rfl := trail_nil (trail_note hend)
    rcases hmid with ⟨hfail, -⟩ | ⟨hnone, version, rfl⟩
    · cases hfail
    · exact .created hnone
  | notCreated habsent =>
    obtain ⟨mid, hend, hmid⟩ := trail_createCall (trail_note (trail_readCall htrail).1)
    obtain rfl := trail_nil hend
    rcases hmid with ⟨-, rfl⟩ | ⟨hnone, version, rfl⟩
    · exact .failed
    · exact .created hnone
  | unchanged hupdate =>
    obtain ⟨hrest, hread, -⟩ := trail_readCall htrail
    obtain rfl := trail_nil (trail_note hrest)
    exact .inLine (hread _ rfl).1 (Application.update_snd.1 hupdate)
  | updated hupdate =>
    obtain ⟨hrest, hread, -⟩ := trail_readCall htrail
    obtain ⟨hstored, hcheck⟩ := hread _ rfl
    obtain ⟨mid, hend, hmid⟩ := trail_mergeCall hstored (trail_note hrest)
    obtain rfl := trail_nil (trail_note hend)
    rcases hmid with ⟨hfail, -⟩ | ⟨version, rfl⟩
    · cases hfail
    · exact .patched hstored hcheck
  | notUpdated hupdate hwarning =>
    obtain ⟨hrest, hread, -⟩ := trail_readCall htrail
    obtain ⟨hstored, hcheck⟩ := hread _ rfl
    obtain ⟨mid, hend, hmid⟩ := trail_mergeCall hstored (trail_note hrest)
    obtain rfl := hend.eq_start_of_quiet hwarning
    rcases hmid with ⟨-, rfl⟩ | ⟨version, rfl⟩
    · exact .failed
    · exact .patched hstored hcheck

/-- An application can only be changed by the patch that is computed from it. -/
theorem stored_of_changed {stored : Json} {v : Except Failure SyncOutcome}
    (hstored : s.stored (p.home settings) = some stored)
    (hcourse : SyncCourse p settings steps v) (htrail : Trail Inventory.honest s steps after)
    (hchanged : after.stored (p.home settings) ≠ some stored) :
    Application.shape.check stored = .ok () ∧ ∃ version, after.stored (p.home settings)
      = some (Application.patchedDocument stored
          ((p.goal settings).update (.ofJson stored)).1 version) := by
  cases hcourse.effect htrail with
  | failed => exact absurd hstored hchanged
  | inLine => exact absurd hstored hchanged
  | created hnone => cases hnone.symm.trans hstored
  | patched hread hcheck =>
    obtain rfl := Option.some.inj (hread.symm.trans hstored)
    exact ⟨hcheck, _, if_pos rfl⟩

end

/-! ## The next pass -/

section

variable {p : Pattern} {settings : Settings} {s : Inventory} {stored : Json}

theorem calm_of_inLine (hstored : s.stored (p.home settings) = some stored)
    (hline : Application.InLine (p.goal settings) (.ofJson stored)) {after : Inventory}
    {steps : List Step} {v : Except Failure SyncOutcome} (hcourse : SyncCourse p settings steps v)
    (htrail : Trail Inventory.honest s steps after) : Avoids Call.isWrite steps := by
  have hread : ∀ {j : Json} {rest : List Step}, Trail Inventory.honest s
      (.called (readCall p settings) (.ok j) :: rest) after →
        ((p.goal settings).update (.ofJson j)).2 = false := by
    intro j rest htrail
    obtain ⟨hj, -⟩ := (trail_readCall htrail).2.1 _ rfl
    rw [Option.some.inj (hj.symm.trans hstored)]
    exact Application.update_snd.2 hline
  cases hcourse with
  | unread habsent =>
    intro c result hmem
    cases List.mem_singleton.1 hmem
    rfl
  | created habsent =>
    cases hstored.symm.trans ((trail_readCall htrail).2.2 _ rfl habsent)
  | notCreated habsent =>
    cases hstored.symm.trans ((trail_readCall htrail).2.2 _ rfl habsent)
  | unchanged hupdate =>
    intro c result hmem
    rcases List.mem_cons.1 hmem with heq | hmem
    · cases heq
      rfl
    · cases List.mem_singleton.1 hmem
  | updated hupdate => cases hupdate.symm.trans (hread htrail)
  | notUpdated hupdate hwarning => cases hupdate.symm.trans (hread htrail)

/-- A pass over an application that is not in line and can be read writes, if it reads it. -/
theorem exists_write (hstored : s.stored (p.home settings) = some stored)
    (hcheck : Application.shape.check stored = .ok ())
    (hline : ¬ Application.InLine (p.goal settings) (.ofJson stored)) :
    ∃ fates r, (Attempt.syncApplication p settings).run.conduct Inventory.honest s fates = some r
      ∧ ¬ Avoids Call.isWrite r.steps := by
  have hupdate : ((p.goal settings).update (.ofJson stored)).2 = true := by
    cases hflag : ((p.goal settings).update (.ofJson stored)).2 with
    | true => rfl
    | false => exact absurd (Application.update_snd.1 hflag) hline
  obtain ⟨next, hnext⟩ : ∃ next, (Attempt.syncApplication p settings).run
    = .call (readCall p settings) next := ⟨_, rfl⟩
  obtain ⟨steps, v, hcourse, htrail⟩ := Inventory.exists_trail (next (.ok stored)) s
  have hwhole : Course (Attempt.syncApplication p settings).run
      (.called (readCall p settings) (.ok stored) :: steps) v := hnext ▸ .call _ hcourse
  have hserved : Trail Inventory.honest s
      (.called (readCall p settings) (.ok stored) :: steps) s :=
    .call _ (Inventory.honest_read hstored hcheck) htrail
  obtain ⟨fates, hconduct⟩ := (conduct_iff (r := ⟨v, s, _⟩)).2 ⟨hwhole, hserved⟩
  refine ⟨fates, _, hconduct, fun hcalm => ?_⟩
  dsimp only at hcalm
  have hsync := syncCourse_of_course hwhole
  generalize hsteps : Step.called (readCall p settings) (.ok stored) :: steps = all at hsync hcalm
  cases hsync with
  | unread habsent => cases hsteps
  | created habsent => cases hsteps
  | notCreated habsent => cases hsteps
  | unchanged hsame =>
    cases hsteps
    cases hsame.symm.trans hupdate
  | updated hsame =>
    cases hcalm _ _ (List.mem_cons_of_mem _ (List.mem_cons_of_mem _ List.mem_cons_self))
  | notUpdated hsame hwarning =>
    cases hcalm _ _ (List.mem_cons_of_mem _ (List.mem_cons_of_mem _ List.mem_cons_self))

end

/-- After a pass has changed the stored application, the next pass over a pattern that asks for the
same, with nobody else in between, writes nothing exactly if the single source, where there is to be
one, was stored without the parts that the goal leaves out. -/
theorem second_pass_calm_iff {p q : Pattern} {settings : Settings} {s : Inventory}
    {members spec : Keyed Json} {fates : List Fate}
    {first : Conduct Inventory (Except Failure SyncOutcome)}
    (hstored : s.stored (p.home settings) = some (.obj members))
    (hspec : Keyed.get? members "spec" = some (.obj spec))
    (hfirst : (Attempt.syncApplication p settings).run.conduct Inventory.honest s fates
      = some first)
    (hchanged : first.state.stored (p.home settings) ≠ some (.obj members))
    (halike : p.Alike q) :
    (∀ fates second, (Attempt.syncApplication q settings).run.conduct Inventory.honest first.state
        fates = some second → Avoids Call.isWrite second.steps) ↔
      (p.spec.multiSource.enabled = false →
        let source := Application.storedSource (.obj members)
        source.chart = none ∧ source.ref = none
          ∧ (p.spec.git.targetRevision = "" → source.targetRevision = none)) := by
  obtain ⟨hcourse, htrail⟩ := conduct_iff.1 ⟨fates, hfirst⟩
  obtain ⟨hcheck, version, hafter⟩ :=
    stored_of_changed hstored (syncCourse_of_course hcourse) htrail hchanged
  obtain ⟨root, hroot⟩ := p.helm?_goal settings
  have htidy : ((p.goal settings).update (.ofJson (.obj members))).1.Tidy :=
    Application.tidy_update (p.tidy_goal settings) (Application.tidy_ofJson _)
  have hline : Application.InLine (p.goal settings)
      ((p.goal settings).update (.ofJson (.obj members))).1 :=
    Application.inLine_update (p.nodup_goal settings) _
  have hagain := Application.check_patchedDocument htidy hspec hcheck version
  have hiff : Application.InLine (p.goal settings) (.ofJson (Application.patchedDocument
      (.obj members) ((p.goal settings).update (.ofJson (.obj members))).1 version)) ↔ _ :=
    (Application.inLine_patched_iff hroot (p.complete_helmGoal settings root) hline htidy).trans
      Pattern.within_goal_iff
  have hgoal := halike.goal_eq settings
  have hhome : p.home settings = q.home settings := by
    simp only [Pattern.home, Pattern.applicationName, halike.name, halike.spec]
  rw [hhome] at hafter
  rw [hgoal] at hafter hagain hiff
  rw [← hiff]
  constructor
  · intro hcalm
    refine Classical.byContradiction fun hnot => ?_
    obtain ⟨fates, second, hsecond, hwrites⟩ := exists_write hafter hagain hnot
    exact hwrites (hcalm fates second hsecond)
  · intro hstays fates second hsecond
    obtain ⟨hcourse, htrail⟩ := conduct_iff.1 ⟨fates, hsecond⟩
    exact calm_of_inLine hafter hstays (syncCourse_of_course hcourse) htrail

def Pattern.unpinned : Pattern where
  metadata := { name := some "mcg", namespaceName := some "default" }
  spec := { clusterGroupName := "hub", git := { targetRepo := "https://example.com/mcg" } }

/-- The members of an application that is stored for the pattern, with a revision. -/
def pinnedMembers : Keyed Json :=
  [ ("metadata", .object [("name", .str "mcg-hub"), ("resourceVersion", .str "7")]),
    ("spec", .object
      [ ("destination", .object []),
        ("project", .str "default"),
        ("source", .object
          [ ("path", .str "common/clustergroup"),
            ("repoURL", .str "https://example.com/mcg"),
            ("targetRevision", .str "main") ]) ]) ]

def pinnedInventory : Inventory where
  stored place :=
    if place = { ns := "openshift-gitops", name := "mcg-hub" } then some (.obj pinnedMembers)
    else none

/-- A revision that a pattern does not name stays, and the second pass writes again. -/
theorem second_pass_writes_pinned :
    ∃ fates first, (Attempt.syncApplication Pattern.unpinned {}).run.conduct Inventory.honest
        pinnedInventory fates = some first
      ∧ first.state.stored (Pattern.unpinned.home {}) ≠ some (.obj pinnedMembers)
      ∧ ¬ ∀ fates second, (Attempt.syncApplication Pattern.unpinned {}).run.conduct
          Inventory.honest first.state fates = some second → Avoids Call.isWrite second.steps := by
  have hruns : ((Attempt.syncApplication Pattern.unpinned {}).run.conduct Inventory.honest
      pinnedInventory [.served .null "", .served .null "8"]).any (fun first =>
        first.state.stored (Pattern.unpinned.home {}) ≠ some (.obj pinnedMembers)) = true := by
    decide
  obtain ⟨first, hfirst, hchanged⟩ := (Option.any_eq_true _ _).1 hruns
  refine ⟨_, first, hfirst, of_decide_eq_true hchanged, ?_⟩
  have hspec : Keyed.get? pinnedMembers "spec" = some (.obj
      ((Json.orNull (Keyed.get? pinnedMembers "spec")).members)) := rfl
  rw [second_pass_calm_iff rfl hspec hfirst (of_decide_eq_true hchanged) ⟨rfl, rfl, rfl⟩]
  decide

end PatternSync
