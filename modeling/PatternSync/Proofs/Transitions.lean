import Mathlib.Data.List.DropRight
import PatternSync.Pattern.Condition

/-!
# The time of the last transition

Comparisons are recorded one after the other, each over the conditions that the one before has
left. What is left at the end is one condition, and its fields are those of the last comparison but
for one: the time of the last transition belongs to the first comparison of the final block of
equal verdicts, or to a condition from before the run if the block is the whole run and that
condition already stood for its verdict (`transition_of_final_block`). Nothing is asked of the
conditions at the start, nor of the order of the times.

Within a block the transition time is the invariant (`track_of_agree`); where a block starts, the
verdict before it was the other one (`standing?_of_opposed`).
-/

namespace PatternSync

/-- A comparison as it is recorded. -/
structure Comparison where
  inSync : Bool
  message : String
  now : Instant
  deriving DecidableEq

namespace Condition

variable {conditions : List Condition} {steps before rest : List Comparison}
  {first step : Comparison}

/-! ## One comparison -/

/-- The condition that is already there for a verdict, if the first one is. -/
def standing? (conditions : List Condition) (inSync : Bool) : Option Condition :=
  conditions.head?.filter fun c => c.type = .ofVerdict inSync ∧ c.status = "True"

def after (conditions : List Condition) (step : Comparison) : Condition :=
  next conditions.head? step.inSync step.message step.now

theorem record_fst (conditions : List Condition) (step : Comparison) :
    (record conditions step.inSync step.message step.now).1 = [after conditions step] := rfl

theorem ofVerdict_inj {a b : Bool} : ConditionType.ofVerdict a = .ofVerdict b ↔ a = b := by
  cases a <;> cases b <;> decide

theorem after_transition (conditions : List Condition) (step : Comparison) :
    (after conditions step).lastTransitionTime
      = (standing? conditions step.inSync).elim (some step.now) (·.lastTransitionTime) := by
  unfold after standing? next
  cases conditions.head? with
  | none => rfl
  | some c =>
    simp only [Option.filter_some, decide_eq_true_eq]
    split <;> rfl

/-- The condition of one comparison stands for the next one exactly if the verdicts are equal. -/
theorem standing?_after (conditions : List Condition) (step : Comparison) (inSync : Bool) :
    standing? [after conditions step] inSync
      = if step.inSync = inSync then some (after conditions step) else none := by
  have htype : (after conditions step).type = .ofVerdict step.inSync := type_next ..
  have hstatus : (after conditions step).status = "True" := rfl
  simp only [standing?, List.head?_cons, Option.filter_some, htype, ofVerdict_inj, hstatus,
    and_true, decide_eq_true_eq]

theorem differs_iff {a b : Condition} :
    differs a b = true ↔ a.type ≠ b.type ∨ a.status ≠ b.status ∨ a.message ≠ b.message := by
  simp [differs, or_assoc]

theorem standing?_after_self (conditions : List Condition) (step : Comparison) :
    standing? [after conditions step] step.inSync = some (after conditions step) := by
  rw [standing?_after, if_pos rfl]

/-- A comparison counts as a change if there was no condition, or a different one. -/
theorem record_snd_iff (conditions : List Condition) (step : Comparison) :
    (record conditions step.inSync step.message step.now).2 = true
      ↔ conditions = [] ∨ ∃ c, conditions.head? = some c
        ∧ (c.type ≠ (after conditions step).type ∨ c.status ≠ (after conditions step).status
          ∨ c.message ≠ (after conditions step).message) := by
  cases conditions with
  | nil => exact iff_of_true rfl (.inl rfl)
  | cons c cs =>
    have hflag : (record (c :: cs) step.inSync step.message step.now).2
      = differs c (after (c :: cs) step) := rfl
    rw [hflag, differs_iff]
    simp only [reduceCtorEq, List.head?_cons, Option.some.injEq, exists_eq_left', false_or]

/-! ## Runs of comparisons -/

/-- Records one comparison after the other: the conditions at the end, and of each comparison
whether it changed the recorded condition. -/
def track (conditions : List Condition) : List Comparison → List Condition × List Bool
  | [] => (conditions, [])
  | step :: rest =>
    let recorded := record conditions step.inSync step.message step.now
    let tracked := track recorded.1 rest
    (tracked.1, recorded.2 :: tracked.2)

theorem track_append (conditions : List Condition) (before rest : List Comparison) :
    track conditions (before ++ rest)
      = ((track (track conditions before).1 rest).1,
        (track conditions before).2 ++ (track (track conditions before).1 rest).2) := by
  induction before generalizing conditions with
  | nil => rfl
  | cons step before ih => simp [track, ih]

theorem length_track (conditions : List Condition) (steps : List Comparison) :
    (track conditions steps).2.length = steps.length := by
  induction steps generalizing conditions with
  | nil => rfl
  | cons step steps ih => simp [track, ih]

theorem track_concat (conditions : List Condition) (earlier : List Comparison)
    (last : Comparison) :
    (track conditions (earlier ++ [last])).1 = [after (track conditions earlier).1 last] := by
  simp only [track_append, track, record_fst]

theorem track_of_agree {inSync : Bool} {c : Condition}
    (hstanding : standing? conditions inSync = some c) (hrest : ∀ s ∈ rest, s.inSync = inSync) :
    ∃ d, standing? (track conditions rest).1 inSync = some d
      ∧ d.lastTransitionTime = c.lastTransitionTime := by
  induction rest generalizing conditions c with
  | nil => exact ⟨c, hstanding, rfl⟩
  | cons step rest ih =>
    obtain ⟨rfl, hrest⟩ := List.forall_mem_cons.1 hrest
    have hkept : (after conditions step).lastTransitionTime = c.lastTransitionTime := by
      rw [after_transition, hstanding, Option.elim_some]
    obtain ⟨d, hd, htime⟩ := ih (standing?_after_self conditions step) hrest
    exact ⟨d, hd, htime.trans hkept⟩

/-- Nothing stands for the verdict that opposes the last one. -/
theorem standing?_of_opposed (hlast : before.getLast? = some step) {inSync : Bool}
    (hopposed : step.inSync ≠ inSync) : standing? (track conditions before).1 inSync = none := by
  obtain ⟨earlier, rfl⟩ := List.getLast?_eq_some_iff.1 hlast
  rw [track_concat, standing?_after, if_neg hopposed]

/-- A block of equal verdicts keeps the transition time of its first comparison. -/
theorem transition_of_block (conditions : List Condition) (before : List Comparison)
    (hrest : ∀ s ∈ rest, s.inSync = first.inSync) :
    ∃ c, standing? (track conditions (before ++ first :: rest)).1 first.inSync = some c
      ∧ c.lastTransitionTime = (standing? (track conditions before).1 first.inSync).elim
        (some first.now) (·.lastTransitionTime) := by
  rw [track_append]
  obtain ⟨c, hc, htime⟩ := track_of_agree (standing?_after_self _ first) hrest
  exact ⟨c, hc, htime.trans (after_transition _ first)⟩

/-! ## The final block of equal verdicts -/

/-- The comparisons at the end of a run that have the verdict of its last one. -/
def finalBlock (earlier : List Comparison) (last : Comparison) : List Comparison :=
  (earlier ++ [last]).rtakeWhile (·.inSync = last.inSync)

/-- In front of the final block is nothing, or a comparison with the other verdict. -/
theorem exists_finalBlock (earlier : List Comparison) (last : Comparison) :
    ∃ before first rest, earlier ++ [last] = before ++ first :: rest
      ∧ finalBlock earlier last = first :: rest
      ∧ first.inSync = last.inSync ∧ (∀ s ∈ rest, s.inSync = last.inSync)
      ∧ ∀ s ∈ before.getLast?, s.inSync ≠ last.inSync := by
  have hsplit : (earlier ++ [last]).rdropWhile (·.inSync = last.inSync) ++ finalBlock earlier last
      = earlier ++ [last] := List.rdropWhile_append_rtakeWhile
  have hverdicts : ∀ s ∈ finalBlock earlier last, s.inSync = last.inSync := by
    intro s hs
    simpa using List.mem_rtakeWhile_imp hs
  have hopposed : ∀ s ∈ ((earlier ++ [last]).rdropWhile (·.inSync = last.inSync)).getLast?,
      s.inSync ≠ last.inSync := by
    intro s hs
    obtain ⟨hne, rfl⟩ := List.mem_getLast?_eq_getLast hs
    simpa using List.rdropWhile_last_not _ _ hne
  have hblock : finalBlock earlier last ≠ [] := by
    have hconcat := List.rtakeWhile_concat_pos (fun s : Comparison => s.inSync = last.inSync)
      earlier last (decide_eq_true rfl)
    rw [finalBlock, hconcat]
    exact List.append_ne_nil_of_right_ne_nil _ (List.cons_ne_nil last [])
  obtain ⟨first, rest, hcons⟩ := List.exists_cons_of_ne_nil hblock
  rw [hcons] at hsplit hverdicts
  obtain ⟨hfirst, hrest⟩ := List.forall_mem_cons.1 hverdicts
  exact ⟨_, first, rest, hsplit.symm, hcons, hfirst, hrest, hopposed⟩

/-- Of the comparisons of a run, the one at `i` counts as a change by what the ones before it have
left. -/
theorem track_flag (conditions : List Condition) {i : Nat} (hi : i < steps.length) :
    (track conditions steps).2[i]?
      = some (record (track conditions (steps.take i)).1 steps[i].inSync steps[i].message
        steps[i].now).2 := by
  have hsteps : steps = steps.take i ++ steps[i] :: steps.drop (i + 1) := by
    rw [← List.drop_eq_getElem_cons hi, List.take_append_drop]
  have hlength : (track conditions (steps.take i)).2.length = i := by
    rw [length_track, List.length_take_of_le hi.le]
  conv_lhs => rw [hsteps, track_append]
  rw [List.getElem?_append_right hlength.le, hlength, Nat.sub_self]
  rfl

/-- The transition time at the end of a run is that of the first comparison of the final block. Only
a block that is the whole run can have it from a condition of before. -/
theorem transition_eq (conditions : List Condition) (earlier : List Comparison)
    (last : Comparison) :
    ∃ first rest, finalBlock earlier last = first :: rest
      ∧ (after (track conditions earlier).1 last).lastTransitionTime
        = if first :: rest = earlier ++ [last]
          then (standing? conditions last.inSync).elim (some first.now) (·.lastTransitionTime)
          else some first.now := by
  obtain ⟨before, first, rest, hsteps, hblock, hfirst, hrest, hopposed⟩ :=
    exists_finalBlock earlier last
  refine ⟨first, rest, hblock, ?_⟩
  have hagree : ∀ s ∈ rest, s.inSync = first.inSync :=
    fun s hs => (hrest s hs).trans hfirst.symm
  obtain ⟨c, hc, htime⟩ := transition_of_block conditions before hagree
  rw [← hsteps, track_concat, hfirst, standing?_after_self] at hc
  obtain rfl := Option.some.inj hc
  rw [htime, hfirst, hsteps]
  cases hlast : before.getLast? with
  | none =>
    obtain rfl := List.getLast?_eq_none_iff.1 hlast
    rw [List.nil_append, if_pos rfl, track]
  | some step =>
    have hne : before ≠ [] := by
      rintro rfl
      cases hlast
    rw [standing?_of_opposed hlast (hopposed step hlast), Option.elim_none,
      if_neg (mt List.self_eq_append_left.1 hne)]

/-- After a run of comparisons there is one condition, with the fields of the last comparison but
for the time of the last transition: that is when the final block of equal verdicts began, or it is
kept from the first condition of all if the block is the whole run and that condition already stood
for its verdict. Each comparison counts as a change exactly if there was no condition before it or
the first one differs from the new one in more than its times. -/
theorem transition_of_final_block (conditions : List Condition) (earlier : List Comparison)
    (last : Comparison) :
    let steps := earlier ++ [last]
    let tracked := track conditions steps
    (∃ c, tracked.1 = [c] ∧ c.status = "True" ∧ c.type = .ofVerdict last.inSync
        ∧ c.message = last.message ∧ c.lastUpdateTime = last.now
        ∧ ∃ first rest, finalBlock earlier last = first :: rest
          ∧ c.lastTransitionTime = if first :: rest = steps
            then (standing? conditions last.inSync).elim (some first.now) (·.lastTransitionTime)
            else some first.now)
      ∧ tracked.2.length = steps.length
      ∧ ∀ i < steps.length,
        let start := (track conditions (steps.take i)).1
        ∃ c, (track conditions (steps.take (i + 1))).1 = [c]
          ∧ (tracked.2[i]? = some true ↔ start = [] ∨ ∃ old, start.head? = some old
            ∧ (old.type ≠ c.type ∨ old.status ≠ c.status ∨ old.message ≠ c.message)) := by
  intro steps tracked
  refine ⟨⟨_, track_concat conditions earlier last, rfl, type_next .., rfl, rfl,
    transition_eq conditions earlier last⟩, length_track conditions steps, ?_⟩
  intro i hi start
  refine ⟨after start steps[i], ?_, ?_⟩
  · rw [← List.take_append_getElem hi, track_concat]
  · rw [track_flag conditions hi, Option.some.injEq]
    exact record_snd_iff start steps[i]

/-- A condition without a transition time stays so as long as its verdict does, under any message;
entries behind it go. -/
example :
    let day (year : Int) := Instant.midnight (Date.newYear year)
    let old : Condition := { type := .gitInSync, status := "True", lastUpdateTime := day 2020 }
    let tracked := track [old, { old with status := "False" }]
      [⟨true, "a", day 2021⟩, ⟨true, "a", day 2019⟩]
    tracked.1.map (·.lastTransitionTime) = [none] ∧ tracked.2 = [true, false] := by
  decide

end Condition

end PatternSync
