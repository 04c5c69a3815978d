import PatternSync.Proofs.Convergence
import PatternSync.Proofs.UpdatedSources

/-!
# What the verdict is about

A pass says of an existing application whether it is in sync, and it decides on its own whether
something has to be written. The verdict compares value files and parameters; repository, path,
revision, chart and reference of the sources only count for the decision. Main statement: the
verdict holds exactly if the helm settings agree, nothing is written exactly if the application is
in line, and an application that deploys something else although the verdict holds is one that the
pass has written (`in_sync_iff_helm`).
-/

namespace PatternSync

open Pass

/-! ## Deployed content -/

namespace Application

/-- Both applications deploy the same content: a single source or a list, as many sources, and the
same origin at every place. -/
structure SameContent (goal live : Application) : Prop where
  single : goal.spec.source.isSome = live.spec.source.isSome
  origins : List.Forall₂ (fun g l => Source.sameOrigin g l = true) goal.allSources live.allSources

theorem sameContent_of_layout {goal live : Application} (h : goal.layout = live.layout) :
    SameContent goal live where
  single := congrArg (·.1) h
  origins := map_origin_eq_iff.1 (congrArg (·.2.1) h)

end Application

/-! ## Passes over an existing application -/

/-- A pass that succeeds over an existing application speaks of the stored document, and it leaves
that alone exactly if it is in line. -/
theorem outcome_of_conduct {p : Pattern} {settings : Settings} {s : Inventory} {stored : Json}
    {fates : List Fate} {r : Conduct Inventory (Except Failure SyncOutcome)}
    {outcome : SyncOutcome} (hstored : s.stored (p.home settings) = some stored)
    (hrun : (Attempt.syncApplication p settings).run.conduct Inventory.honest s fates = some r)
    (hok : r.value = .ok outcome) :
    ∃ action, outcome = outcomeOf p settings stored action
      ∧ (action = .unchanged ∧ Application.InLine (p.goal settings) (.ofJson stored)
        ∨ action = .updated ∧ ¬ Application.InLine (p.goal settings) (.ofJson stored)) := by
  obtain ⟨hcourse, htrail⟩ := conduct_iff.1 ⟨fates, hrun⟩
  have hsync := syncCourse_of_course hcourse
  rw [hok] at hsync
  generalize r.steps = steps at hsync htrail
  have hread : ∀ {j : Json} {rest : List Step}, Trail Inventory.honest s
      (.called (readCall p settings) (.ok j) :: rest) r.state → j = stored := by
    intro j rest htrail
    obtain ⟨hj, -⟩ := (trail_readCall htrail).2.1 _ rfl
    exact Option.some.inj (hj.symm.trans hstored)
  cases hsync with
  | created habsent =>
    cases hstored.symm.trans ((trail_readCall htrail).2.2 _ rfl habsent)
  | unchanged hupdate =>
    obtain rfl := hread htrail
    exact ⟨_, rfl, .inl ⟨rfl, Application.update_snd.1 hupdate⟩⟩
  | updated hupdate =>
    obtain rfl := hread htrail
    refine ⟨_, rfl, .inr ⟨rfl, fun hline => ?_⟩⟩
    cases hupdate.symm.trans (Application.update_snd.2 hline)

/-- The verdict on an existing application holds exactly if value files and parameters agree, and
nothing is written exactly if the application is in line. So the verdict can hold for an application
that deploys something else; the pass then has just written it. -/
theorem in_sync_iff_helm {p : Pattern} {settings : Settings} {s : Inventory} {stored : Json}
    {fates : List Fate} {r : Conduct Inventory (Except Failure SyncOutcome)}
    {outcome : SyncOutcome} (hstored : s.stored (p.home settings) = some stored)
    (hrun : (Attempt.syncApplication p settings).run.conduct Inventory.honest s fates = some r)
    (hok : r.value = .ok outcome) :
    let goal := p.goal settings
    let live := Application.ofJson stored
    (outcome.inSync = true ↔ goal.helmOrEmpty.valueFiles = live.helmOrEmpty.valueFiles
        ∧ goal.helmOrEmpty.parameters = live.helmOrEmpty.parameters)
      ∧ (outcome.action = .unchanged ↔ Application.InLine goal live)
      ∧ (outcome.inSync = true → ¬ Application.SameContent goal live →
        outcome.action = .updated ∧ outcome.message = "Helm source is in sync") := by
  intro goal live
  obtain ⟨action, rfl, haction⟩ := outcome_of_conduct hstored hrun hok
  refine ⟨HelmSettings.inSync_iff, ?_, fun hverdict hother => ?_⟩
  · rcases haction with ⟨rfl, hline⟩ | ⟨rfl, hline⟩
    · exact iff_of_true rfl hline
    · exact iff_of_false SyncAction.noConfusion hline
  · have hline : ¬ Application.InLine goal live := fun hline =>
      hother (Application.sameContent_of_layout hline.layout)
    obtain ⟨hupdated, -⟩ := haction.resolve_left fun h => hline h.2
    exact ⟨hupdated, HelmSettings.driftMessage_of_inSync hverdict⟩

/-- Where the application of the hub pattern is stored, and nothing else. -/
def hubInventory (document : Json) : Inventory where
  stored place :=
    if place = { ns := "openshift-gitops", name := "mcg-hub" } then some document else none

/-- An application that is stored as it was created is in sync, and the pass leaves it alone. -/
theorem in_sync_iff_helm_created :
    ∃ r outcome, (Attempt.syncApplication .hub {}).run.conduct Inventory.honest
        (hubInventory (Pattern.hub.goal {}).toJson) [.served .null ""] = some r
      ∧ r.value = .ok outcome ∧ outcome.inSync = true ∧ outcome.action = .unchanged := by
  have hruns : ((Attempt.syncApplication .hub {}).run.conduct Inventory.honest
      (hubInventory (Pattern.hub.goal {}).toJson) [.served .null ""]).any (·.value.isOk) = true := by
    decide
  obtain ⟨r, hrun, hok⟩ := (Option.any_eq_true _ _).1 hruns
  obtain ⟨outcome, houtcome⟩ := exists_ok_of_isOk hok
  obtain ⟨hverdict, haction, -⟩ := in_sync_iff_helm rfl hrun houtcome
  have hline : Application.InLine (Pattern.hub.goal {})
      (.ofJson (Pattern.hub.goal {}).toJson) := Application.update_snd.1 (by decide)
  exact ⟨r, outcome, hrun, houtcome, hverdict.2 (by decide), haction.2 hline⟩

/-- The application of the hub pattern as it was created, but from another repository. -/
def divertedMembers : Keyed Json :=
  let goal := Pattern.hub.goal {}
  let source := { Pattern.hub.singleSource {} with repoUrl := "https://example.com/fork" }
  ({ goal with spec := { goal.spec with source := some source } }).toJson.members

/-- An application from another repository is called in sync by the pass that writes it. -/
theorem in_sync_diverted :
    ∃ r outcome, (Attempt.syncApplication .hub {}).run.conduct Inventory.honest
        (hubInventory (.obj divertedMembers)) [.served .null "", .served .null "8"] = some r
      ∧ r.value = .ok outcome ∧ outcome.inSync = true ∧ outcome.action = .updated
      ∧ ¬ Application.SameContent (Pattern.hub.goal {}) (.ofJson (.obj divertedMembers)) := by
  have hruns : ((Attempt.syncApplication .hub {}).run.conduct Inventory.honest
      (hubInventory (.obj divertedMembers)) [.served .null "", .served .null "8"]).any
        (·.value.isOk) = true := by
    decide
  obtain ⟨r, hrun, hok⟩ := (Option.any_eq_true _ _).1 hruns
  obtain ⟨outcome, houtcome⟩ := exists_ok_of_isOk hok
  obtain ⟨action, rfl, haction⟩ := outcome_of_conduct rfl hrun houtcome
  have hother : ¬ Application.SameContent (Pattern.hub.goal {}) (.ofJson (.obj divertedMembers)) := by
    intro h
    have horigins := Application.map_origin_eq_iff.2 h.origins
    revert horigins
    decide
  have hinSync : HelmSettings.inSync (Pattern.hub.goal {}).helmOrEmpty
      (Application.ofJson (.obj divertedMembers)).helmOrEmpty = true := by
    decide
  obtain ⟨hupdated, -⟩ := haction.resolve_left fun h =>
    hother (Application.sameContent_of_layout h.2.layout)
  exact ⟨r, _, hrun, houtcome, hinSync, hupdated, hother⟩

end PatternSync
