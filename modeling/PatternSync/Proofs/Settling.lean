import PatternSync.Proofs.InLine
import PatternSync.Proofs.ReadBack

/-!
# Settling after one update

The generated application brings every application in line, and what is in line stays so when it is
written and read again (`InLine.normal`). So a second update of what the first one left has nothing
to do, and neither has an update of an application that was just created.
-/

namespace PatternSync

open Wire

/-! ## Writing and reading -/

namespace Source

theorem helm_normal (s : Source) : s.normal.helm = s.helm.map HelmSettings.normal := rfl

end Source

theorem findLast?_map {α β γ : Type} {find : β → Option γ} {find' : α → Option γ} {f : α → β}
    {g : γ → γ} (h : ∀ a, find (f a) = (find' a).map g) (items : List α) :
    findLast? find (items.map f) = (findLast? find' items).map g := by
  induction items with
  | nil => rfl
  | cons a rest ih =>
    rw [List.map_cons, findLast?_cons, findLast?_cons, ih, h]
    cases findLast? find' rest <;> rfl

namespace Application

theorem helm?_normal (a : Application) : a.normal.helm? = a.helm?.map HelmSettings.normal := by
  have hnormal : a.normal.spec.source = a.spec.source.map Source.normal := rfl
  unfold helm?
  rw [hnormal]
  cases a.spec.source with
  | some s => rfl
  | none => exact findLast?_map Source.helm_normal _

theorem layout_normal (a : Application) : a.normal.layout = a.layout := by
  have hsource : a.normal.spec.source = a.spec.source.map Source.normal := rfl
  have horigins : a.normal.allSources.map Source.origin = a.allSources.map Source.origin := by
    unfold allSources
    rw [hsource]
    cases a.spec.source with
    | some s => rfl
    | none => exact List.map_map
  rw [layout, layout, horigins, hsource, helm?_normal, Option.isSome_map, Option.isSome_map]

theorem automated?_normal (a : Application) :
    a.normal.automated? = a.automated?.map AutomatedSync.normal := by
  show (a.spec.syncPolicy.map SyncPolicy.normal).bind (·.automated) = _
  unfold automated?
  cases a.spec.syncPolicy <;> rfl

/-- The helm settings of an application are in sync with what is read back of it. -/
theorem inSync_normal (a : Application) :
    a.helmOrEmpty.inSync a.normal.helmOrEmpty = true := by
  rw [helmOrEmpty, helmOrEmpty, helm?_normal]
  cases a.helm? <;> simp [HelmSettings.inSync, HelmSettings.normal]

theorem InLine.normal {goal live : Application} (h : InLine goal live) :
    InLine goal live.normal where
  layout := h.layout.trans (layout_normal live).symm
  helm := by
    intro wanted hwanted current hcurrent
    rw [helm?_normal] at hcurrent
    obtain ⟨k, hk, rfl⟩ := Option.map_eq_some_iff.1 hcurrent
    exact congrArg HelmSettings.normal (h.helm wanted hwanted k hk)
  automated := by
    rw [h.automated, automated?_normal, Option.isSome_map]

end Application

/-! ## Updates keep applications tidy -/

theorem Source.Tidy.withHelm? {s t : Source} {k : HelmSettings} (h : s.Tidy)
    (hk : k.Tidy) (ht : s.withHelm? k = some t) : t.Tidy := by
  obtain ⟨-, rfl⟩ := withHelm?_eq_some_iff.1 ht
  exact ⟨h.apart, fun _ heq => Option.some.inj heq ▸ hk⟩

theorem tidy_withAutomated {policy : Option SyncPolicy} {wanted : Option AutomatedSync}
    (hpolicy : ∀ p ∈ policy, p.Tidy) (hwanted : ∀ a ∈ wanted, a.Tidy) :
    ∀ p ∈ Application.withAutomated policy wanted, p.Tidy := by
  intro p hp
  cases wanted with
  | some a =>
    cases hp
    cases policy with
    | none => exact ⟨apart_nil _, hwanted⟩
    | some q => exact ⟨(hpolicy q rfl).apart, hwanted⟩
  | none =>
    obtain ⟨q, hq, rfl⟩ := Option.map_eq_some_iff.1 hp
    exact ⟨(hpolicy q hq).apart, hwanted⟩

namespace Application

theorem Tidy.helm {a : Application} (h : a.Tidy) : ∀ k ∈ a.helm?, k.Tidy := by
  intro k hk
  unfold helm? at hk
  split at hk
  · rename_i s hs
    exact (h.spec.source s hs).helm k hk
  · obtain ⟨s, hs, hfound⟩ := exists_of_findLast? hk
    exact (h.spec.sources s hs).helm k hfound

theorem Tidy.automated {a : Application} (h : a.Tidy) : ∀ x ∈ a.automated?, x.Tidy := by
  intro x hx
  obtain ⟨p, hp, hx⟩ := Option.bind_eq_some_iff.1 hx
  exact (h.spec.syncPolicy p hp).automated x hx

theorem Tidy.setHelm? {a b : Application} {k : HelmSettings} (h : a.Tidy) (hk : k.Tidy)
    (hb : a.setHelm? k = some b) : b.Tidy := by
  unfold Application.setHelm? at hb
  split at hb
  · rename_i s hs
    obtain ⟨t, ht, rfl⟩ := Option.map_eq_some_iff.1 hb
    refine ⟨h.metadata, ?_, h.spec.sources, h.spec.syncPolicy⟩
    rintro x ⟨⟩
    exact (h.spec.source s hs).withHelm? hk ht
  · obtain ⟨sources, hsources, rfl⟩ := Option.map_eq_some_iff.1 hb
    refine ⟨h.metadata, h.spec.source, ?_, h.spec.syncPolicy⟩
    intro x hx
    rcases mem_changeLast? hsources hx with hbefore | ⟨s, hs, hchange⟩
    · exact h.spec.sources x hbefore
    · exact (h.spec.sources s hs).withHelm? hk hchange

section

variable {goal live changed : Application}

theorem tidy_updateSources? (hgoal : goal.Tidy) (hlive : live.Tidy)
    (h : updateSources? goal live = some changed) : changed.Tidy := by
  unfold updateSources? at h
  split at h
  · split at h
    · rename_i wanted current hwanted hcurrent
      dsimp only at h
      split at h
      · cases h
      · have hmerged : (wanted.merge current).Tidy := hlive.helm current hcurrent
        exact hlive.setHelm? hmerged h
    · cases h
  · cases h
    exact ⟨hlive.metadata, hgoal.spec.source, hgoal.spec.sources, hlive.spec.syncPolicy⟩

theorem tidy_updateSync? (hgoal : goal.Tidy) (hlive : live.Tidy)
    (h : updateSync? goal live = some changed) : changed.Tidy := by
  unfold updateSync? at h
  split at h
  · cases h
  · cases h
    refine ⟨hlive.metadata, hlive.spec.source, hlive.spec.sources, ?_⟩
    exact tidy_withAutomated hlive.spec.syncPolicy hgoal.automated

end

theorem tidy_update {goal live : Application} (hgoal : goal.Tidy) (hlive : live.Tidy) :
    (goal.update live).1.Tidy := by
  have hsourced : ((updateSources? goal live).getD live).Tidy := by
    cases h : updateSources? goal live with
    | none => exact hlive
    | some changed => exact tidy_updateSources? hgoal hlive h
  rw [Application.update]
  dsimp only
  cases h : updateSync? goal ((updateSources? goal live).getD live) with
  | none => exact hsourced
  | some changed => exact tidy_updateSync? hgoal hsourced h

end Application

/-! ## Generated applications -/

namespace Pattern

section

variable (p : Pattern) (settings : Settings)

theorem helm?_goal : ∃ root, (p.goal settings).helm? = some (p.helmGoal settings root) := by
  cases h : p.spec.multiSource.enabled with
  | false => exact ⟨"", by simp [Application.helm?, goal, h, singleSource]⟩
  | true =>
    refine ⟨repoRefRoot, ?_⟩
    simp only [Application.helm?, goal, h, if_true, findLast?_cons]
    rw [chartSource]
    split <;> rfl

theorem nodup_goal : ∀ k ∈ (p.goal settings).helm?, (Parameter.names k.parameters).Nodup := by
  intro k hk
  obtain ⟨root, hroot⟩ := p.helm?_goal settings
  rw [hroot] at hk
  cases hk
  exact p.nodup_parameters settings

theorem tidy_helmGoal (root : String) : (p.helmGoal settings root).Tidy :=
  apart_nil _

theorem tidy_singleSource : (p.singleSource settings).Tidy where
  apart := apart_nil _
  helm := by
    rintro k ⟨⟩
    exact p.tidy_helmGoal settings ""

theorem tidy_repoSource : p.repoSource.Tidy where
  apart := apart_nil _
  helm := by
    rintro k ⟨⟩

theorem tidy_chartSource : (p.chartSource settings).Tidy := by
  have hhelm : ∀ k ∈ some (p.helmGoal settings repoRefRoot), k.Tidy := by
    rintro k ⟨⟩
    exact p.tidy_helmGoal settings repoRefRoot
  unfold chartSource
  dsimp only
  split
  · exact ⟨apart_nil _, hhelm⟩
  · exact ⟨apart_nil _, hhelm⟩

theorem tidy_syncPolicyGoal : ∀ policy ∈ p.syncPolicyGoal settings, policy.Tidy := by
  intro policy hpolicy
  unfold syncPolicyGoal at hpolicy
  split at hpolicy
  · cases hpolicy
  · cases hpolicy
    refine ⟨apart_nil _, ?_⟩
    rintro a ⟨⟩
    exact apart_nil _

theorem tidy_goal : (p.goal settings).Tidy where
  metadata := ⟨by rintro t ⟨⟩, by rintro t ⟨⟩⟩
  spec := by
    refine ⟨?_, ?_, p.tidy_syncPolicyGoal settings⟩
    · intro s hs
      simp only [goal] at hs
      split at hs
      · cases hs
      · cases hs
        exact p.tidy_singleSource settings
    · intro s hs
      simp only [goal] at hs
      split at hs
      · rcases List.mem_cons.1 hs with rfl | hs
        · exact p.tidy_repoSource
        · exact List.mem_singleton.1 hs ▸ p.tidy_chartSource settings
      · cases hs

end

/-! ## Two updates in a row -/

/-- A second update right after the first changes nothing, nor does one after the application was
written and read again; and an application that was created from the goal needs no update. -/
theorem update_settles (p : Pattern) (settings : Settings) {j : Json} {live : Application}
    (hread : decode Application.shape Application.ofJson j = .ok live) :
    let goal := p.goal settings
    let first := (goal.update live).1
    goal.update first = (first, false)
      ∧ (∃ again, decode Application.shape Application.ofJson first.toJson = .ok again
          ∧ goal.update again = (again, false))
      ∧ ∃ created, decode Application.shape Application.ofJson goal.toJson = .ok created
          ∧ goal.update created = (created, false)
          ∧ goal.helmOrEmpty.inSync created.helmOrEmpty = true := by
  intro goal first
  have hlive : live.Tidy := by
    unfold decode at hread
    cases hcheck : Application.shape.check j with
    | error e =>
      rw [hcheck] at hread
      cases hread
    | ok u =>
      rw [hcheck] at hread
      cases hread
      exact Application.tidy_ofJson j
  have hgoal : goal.Tidy := p.tidy_goal settings
  have hfirst : first.Tidy := Application.tidy_update hgoal hlive
  have hinLine : Application.InLine goal first :=
    Application.inLine_update (p.nodup_goal settings) live
  have hself : Application.InLine goal goal := Application.inLine_self (p.nodup_goal settings)
  refine ⟨hinLine.update, ⟨first.normal, Application.decode_toJson hfirst, hinLine.normal.update⟩,
    goal.normal, Application.decode_toJson hgoal, hself.normal.update, ?_⟩
  exact Application.inSync_normal goal

def hub : Pattern where
  metadata := { name := some "mcg", namespaceName := some "default" }
  spec :=
    { clusterGroupName := "hub"
      git := { targetRepo := "https://example.com/mcg", targetRevision := "main" } }

/-- An application as it is stored for the pattern, with an outdated parameter. -/
def hubStored : Json :=
  .object
    [ ("metadata", .object
        [("creationTimestamp", .str "2024-03-01T12:00:00.5Z"), ("name", .str "mcg-hub")]),
      ("spec", .object
        [ ("destination", .object []),
          ("project", .str "default"),
          ("source", .object
            [ ("helm", .object
                [("parameters", .arr [.object
                  [("name", .str "global.pattern"), ("value", .str "old")]])]),
              ("path", .str "common/clustergroup"),
              ("repoURL", .str "https://example.com/mcg"),
              ("targetRevision", .str "main") ]) ]) ]

theorem update_settles_hub :
    let live := Application.ofJson hubStored
    let goal := hub.goal {}
    let first := (goal.update live).1
    decode Application.shape Application.ofJson hubStored = .ok live
      ∧ goal.update first = (first, false)
      ∧ (∃ again, decode Application.shape Application.ofJson first.toJson = .ok again
          ∧ goal.update again = (again, false))
      ∧ ∃ created, decode Application.shape Application.ofJson goal.toJson = .ok created
          ∧ goal.update created = (created, false)
          ∧ goal.helmOrEmpty.inSync created.helmOrEmpty = true := by
  have hread : decode Application.shape Application.ofJson hubStored
      = .ok (Application.ofJson hubStored) := rfl
  exact ⟨hread, hub.update_settles {} hread⟩

end Pattern

end PatternSync
