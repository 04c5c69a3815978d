import PatternSync.Proofs.MergedParameters
import PatternSync.Proofs.Spared

/-!
# What a merge repairs

A merge changes the first entry of a name, while the drift report looks at the last one. The live
parameters that bear a name again, behind the first one, stay as they are. So after a merge the
report speaks of no value files and of no missing parameter, but it calls a wanted parameter changed
as long as the last repetition of its name is another one (`drift_of_merge`).
-/

namespace PatternSync

namespace Parameter

/-- The parameters of a name, in their order. -/
def namesakes (parameters : List Parameter) (name : String) : List Parameter :=
  parameters.filter fun p => p.name == name

theorem mem_namesakes {parameters : List Parameter} {name : String} {p : Parameter} :
    p ∈ namesakes parameters name ↔ p ∈ parameters ∧ p.name = name := by
  rw [namesakes, List.mem_filter, beq_iff_eq]

theorem namesakes_cons_of_eq {p : Parameter} {name : String} (h : p.name = name)
    (rest : List Parameter) : namesakes (p :: rest) name = p :: namesakes rest name :=
  List.filter_cons_of_pos (beq_iff_eq.2 h)

theorem namesakes_cons_of_ne {p : Parameter} {name : String} (h : p.name ≠ name)
    (rest : List Parameter) : namesakes (p :: rest) name = namesakes rest name :=
  List.filter_cons_of_neg (mt beq_iff_eq.1 h)

theorem namesakes_append (a b : List Parameter) (name : String) :
    namesakes (a ++ b) name = namesakes a name ++ namesakes b name :=
  List.filter_append a b

theorem namesakes_eq_nil_iff {parameters : List Parameter} {name : String} :
    namesakes parameters name = [] ↔ name ∉ names parameters := by
  simp [namesakes, names]

/-- Choosing parameters by their names keeps all or none of a name. -/
theorem namesakes_filter (keep : String → Bool) (parameters : List Parameter) (name : String) :
    namesakes (parameters.filter fun p => keep p.name) name
      = if keep name then namesakes parameters name else [] := by
  unfold namesakes
  rw [List.filter_filter]
  split
  · rename_i hkeep
    refine List.filter_congr fun p _ => ?_
    by_cases hp : p.name = name <;> simp [hp, hkeep]
  · rename_i hkeep
    refine List.filter_eq_nil_iff.2 fun p _ hp => hkeep ?_
    obtain ⟨hname, hp⟩ := Bool.and_eq_true_iff.1 hp
    exact beq_iff_eq.1 hname ▸ hp

theorem namesakes_of_nodup {parameters : List Parameter} (hnodup : (names parameters).Nodup)
    {p : Parameter} (hp : p ∈ parameters) : namesakes parameters p.name = [p] := by
  induction parameters with
  | nil => cases hp
  | cons q rest ih =>
    obtain ⟨hq, hrest⟩ := List.nodup_cons.1 hnodup
    rcases List.mem_cons.1 hp with rfl | hp
    · rw [namesakes_cons_of_eq rfl, namesakes_eq_nil_iff.2 hq]
    · have hne : q.name ≠ p.name := fun heq => hq (List.mem_map.2 ⟨p, hp, heq.symm⟩)
      rw [namesakes_cons_of_ne hne, ih hrest hp]

/-- The entries of a name behind its first one. -/
def repeats (parameters : List Parameter) (name : String) : List Parameter :=
  (namesakes parameters name).tail

/-! ## Namesakes under a merge -/

/-- Of the entries of a name a revision changes at most the first. -/
theorem namesakes_revise (wanted parameters : List Parameter) (name : String) :
    namesakes (revise wanted parameters) name
      = (namesakes parameters name).modifyHead fun p => (firstNamed? wanted name).getD p := by
  induction parameters generalizing wanted with
  | nil => rfl
  | cons p rest ih =>
    rw [revise_cons]
    by_cases hp : p.name = name
    · have hgone : firstNamed? (wanted.filter fun w => w.name ≠ p.name) name = none := by
        simp [firstNamed?_eq_none_iff, names, hp]
      have hrest : (namesakes rest name).modifyHead (fun q => Option.none.getD q)
          = namesakes rest name := by
        cases namesakes rest name <;> rfl
      have hname : ((firstNamed? wanted p.name).getD p).name = name := by
        rw [name_getD_firstNamed?, hp]
      rw [namesakes_cons_of_eq hname, namesakes_cons_of_eq hp, ih, hgone, hrest, hp]
      rfl
    · have hname : ((firstNamed? wanted p.name).getD p).name ≠ name := by
        rwa [name_getD_firstNamed?]
      rw [namesakes_cons_of_ne hp, namesakes_cons_of_ne hname, ih,
        firstNamed?_filter_ne wanted (Ne.symm hp)]

/-- After updates with distinct names the first entry of a wanted name is the wanted one, and the
repetitions of before are behind it. -/
theorem namesakes_foldl_upsert {wanted : List Parameter} (hnodup : (names wanted).Nodup)
    (parameters : List Parameter) {w : Parameter} (hw : w ∈ wanted) :
    namesakes (wanted.foldl upsert parameters) w.name = w :: repeats parameters w.name := by
  have hnew := namesakes_filter (fun name => name ∉ names parameters) wanted w.name
  rw [foldl_upsert_eq hnodup, namesakes_append, namesakes_revise, hnew,
    firstNamed?_of_mem hnodup hw, namesakes_of_nodup hnodup hw, repeats]
  cases hfound : namesakes parameters w.name with
  | nil =>
    have habsent := namesakes_eq_nil_iff.1 hfound
    simp [habsent]
  | cons p rest =>
    have hpresent : w.name ∈ names parameters := by
      by_contra habsent
      rw [namesakes_eq_nil_iff.2 habsent] at hfound
      cases hfound
    simp [hpresent]

end Parameter

/-! ## Drift after a merge -/

namespace HelmSettings

open Parameter

theorem lastNamed?_eq (parameters : List Parameter) (name : String) :
    lastNamed? parameters name = (namesakes parameters name).getLast? := by
  rw [lastNamed?, namesakes, List.getLast?_eq_head?_reverse, ← List.filter_reverse,
    List.head?_filter]

/-- Unexpected are the parameters that bear none of the wanted names. -/
theorem filter_unexpected (goal live : List Parameter) :
    live.filter (fun p => !goal.any fun g => g.name == p.name) = others (names goal) live := by
  refine List.filter_congr fun p _ => ?_
  rw [Bool.eq_iff_iff]
  simp [names]

/-- The drift that a merge leaves: wanted parameters whose last repetition is another one, and live
parameters of other names. -/
def unrepaired (goal live : HelmSettings) : ParameterDrift where
  missing := []
  changed := names <| goal.parameters.filter fun g =>
    (repeats live.parameters g.name).getLast?.any (· ≠ g)
  unexpected := names (others (names goal.parameters) live.parameters)

section

variable {goal : HelmSettings} (hnodup : (names goal.parameters).Nodup) (live : HelmSettings)

include hnodup

/-- Of a wanted name the report finds the last repetition, or the wanted parameter itself. -/
theorem lastNamed?_merge {g : Parameter} (hg : g ∈ goal.parameters) :
    lastNamed? (goal.merge live).parameters g.name
      = some ((repeats live.parameters g.name).getLast?.getD g) := by
  rw [lastNamed?_eq, merge, namesakes_foldl_upsert hnodup _ hg, List.getLast?_cons]

/-- All parameters of wanted names are the wanted ones exactly if all repetitions are. -/
theorem repaired_iff :
    (∀ p ∈ (goal.merge live).parameters, ∀ g ∈ goal.parameters, p.name = g.name → p = g)
      ↔ ∀ g ∈ goal.parameters, ∀ p ∈ repeats live.parameters g.name, p = g := by
  have hmerged : ∀ g ∈ goal.parameters, ∀ p, p ∈ (goal.merge live).parameters ∧ p.name = g.name
      ↔ p = g ∨ p ∈ repeats live.parameters g.name := by
    intro g hg p
    rw [← mem_namesakes, merge, namesakes_foldl_upsert hnodup _ hg, List.mem_cons]
  constructor
  · intro h g hg p hp
    obtain ⟨hmem, hname⟩ := (hmerged g hg p).2 (.inr hp)
    exact h p hmem g hg hname
  · intro h p hp g hg hname
    exact ((hmerged g hg p).1 ⟨hp, hname⟩).elim id (h g hg p)

theorem parameterDrift_merge :
    parameterDrift goal.parameters (goal.merge live).parameters = goal.unrepaired live := by
  have hmissing : goal.parameters.filter (fun g =>
      (lastNamed? (goal.merge live).parameters g.name).isNone) = [] := by
    refine List.filter_eq_nil_iff.2 fun g hg => ?_
    rw [lastNamed?_merge hnodup live hg]
    exact Bool.noConfusion
  have hchanged : goal.parameters.filter (fun g =>
      (lastNamed? (goal.merge live).parameters g.name).any (· ≠ g))
      = goal.parameters.filter fun g => (repeats live.parameters g.name).getLast?.any (· ≠ g) := by
    refine List.filter_congr fun g hg => ?_
    rw [lastNamed?_merge hnodup live hg]
    cases (repeats live.parameters g.name).getLast? <;> simp
  have hunexpected := (spares_merge goal live).others
  rw [parameterDrift, hmissing, hchanged, filter_unexpected, hunexpected]
  rfl

end

/-- After a merge the report speaks of no value files and of no missing parameter. It calls a wanted
parameter changed exactly if the live list repeats its name and the last repetition is another one;
and all parameters of wanted names are the wanted ones exactly if all repetitions are. -/
theorem drift_of_merge {goal : HelmSettings} (hnodup : (names goal.parameters).Nodup)
    (live : HelmSettings) :
    let merged := goal.merge live
    ((∀ p ∈ merged.parameters, ∀ g ∈ goal.parameters, p.name = g.name → p = g)
        ↔ ∀ g ∈ goal.parameters, ∀ p ∈ repeats live.parameters g.name, p = g)
      ∧ parameterDrift goal.parameters merged.parameters = goal.unrepaired live
      ∧ goal.driftMessage merged = if goal.inSync merged then "Helm source is in sync"
        else "Helm source drifted: " ++ (goal.unrepaired live).message := by
  intro merged
  have hdrift := parameterDrift_merge hnodup live
  refine ⟨repaired_iff hnodup live, hdrift, ?_⟩
  unfold driftMessage
  split
  · rfl
  · rename_i hsync
    have hfiles : goal.valueFiles = merged.valueFiles := rfl
    have hdiffer : goal.parameters ≠ merged.parameters := fun h => hsync (inSync_iff.2 ⟨hfiles, h⟩)
    rw [if_pos (beq_iff_eq.2 hfiles), if_neg (mt beq_iff_eq.1 hdiffer), hdrift]
    rfl

/-- A parameter that the live list has twice is called changed even after the merge. -/
theorem drift_of_merge_repeated :
    let merged := wantedPair.merge liveRepeated
    (names wantedPair.parameters).Nodup
      ∧ ¬ (∀ p ∈ merged.parameters, ∀ g ∈ wantedPair.parameters, p.name = g.name → p = g)
      ∧ wantedPair.driftMessage merged
        = "Helm source drifted: parameters differ: changed [foo], unexpected [excess]" := by
  intro merged
  have hnodup : (names wantedPair.parameters).Nodup := by decide
  obtain ⟨hrepaired, -, hmessage⟩ := drift_of_merge hnodup liveRepeated
  refine ⟨hnodup, ?_, ?_⟩
  · rw [hrepaired]
    decide
  · rw [hmessage]
    decide

end HelmSettings

end PatternSync
