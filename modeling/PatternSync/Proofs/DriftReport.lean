import Mathlib.Data.List.Nodup
import PatternSync.Proofs.Repair

/-!
# What a drift report says

The report is text for people, who act on it. Where names are distinct on either side it is exact:
it speaks of value files and of parameters exactly if these differ, and it lists each name under the
heading where it belongs, in the order of the list it comes from. No name is listed exactly if both
lists have the same parameters in another order (`nameDrift_eq_nil_iff`), which the report then says
instead. Main statement: `drift_report_exact`.
-/

namespace PatternSync

namespace HelmSettings

open Parameter

/-! ## Names in a report -/

/-- The wanted parameters that the live list has with another value or of another kind. -/
def altered (goal live : List Parameter) : List Parameter :=
  goal.filter fun g =>
    ∃ p ∈ live, p.name = g.name ∧ (p.value ≠ g.value ∨ p.forceString ≠ g.forceString)

/-- The names by which two lists differ. -/
def nameDrift (goal live : List Parameter) : ParameterDrift where
  missing := names (others (names live) goal)
  changed := names (altered goal live)
  unexpected := names (others (names goal) live)

theorem lastNamed?_eq_none_iff {parameters : List Parameter} {name : String} :
    lastNamed? parameters name = none ↔ name ∉ names parameters := by
  simp [lastNamed?, names]

theorem lastNamed?_eq_some_iff {parameters : List Parameter} (hnodup : (names parameters).Nodup)
    {name : String} {p : Parameter} :
    lastNamed? parameters name = some p ↔ p ∈ parameters ∧ p.name = name := by
  constructor
  · intro h
    exact ⟨List.mem_reverse.1 (List.mem_of_find?_eq_some h), firstNamed?_name h⟩
  · rintro ⟨hp, rfl⟩
    rw [lastNamed?_eq, namesakes_of_nodup hnodup hp]
    rfl

theorem eq_iff_of_name_eq {p q : Parameter} (h : p.name = q.name) :
    p = q ↔ p.value = q.value ∧ p.forceString = q.forceString := by
  obtain ⟨⟩ := p
  obtain ⟨⟩ := q
  cases h
  simp

/-- Where the live names are distinct, the report compares the only parameter of a name. -/
theorem lastNamed?_any_ne {live : List Parameter} (hnodup : (names live).Nodup) (g : Parameter) :
    (lastNamed? live g.name).any (· ≠ g) = true
      ↔ ∃ p ∈ live, p.name = g.name ∧ (p.value ≠ g.value ∨ p.forceString ≠ g.forceString) := by
  rw [Option.any_eq_true]
  refine exists_congr fun p => ?_
  rw [lastNamed?_eq_some_iff hnodup, and_assoc, decide_eq_true_iff]
  refine and_congr_right fun _ => and_congr_right fun hname => ?_
  rw [Ne, eq_iff_of_name_eq hname, not_and_or]

theorem parameterDrift_eq {live : List Parameter} (hnodup : (names live).Nodup)
    (goal : List Parameter) : parameterDrift goal live = nameDrift goal live := by
  have hmissing : goal.filter (fun g => (lastNamed? live g.name).isNone)
      = others (names live) goal := by
    refine List.filter_congr fun g _ => ?_
    rw [Bool.eq_iff_iff, Option.isNone_iff_eq_none, lastNamed?_eq_none_iff, decide_eq_true_iff]
  have hchanged : goal.filter (fun g => (lastNamed? live g.name).any (· ≠ g))
      = altered goal live := by
    refine List.filter_congr fun g _ => ?_
    rw [Bool.eq_iff_iff, lastNamed?_any_ne hnodup, decide_eq_true_iff]
  rw [parameterDrift, hmissing, hchanged, filter_unexpected]
  rfl

theorem names_eq_nil_iff {parameters : List Parameter} : names parameters = [] ↔ parameters = [] :=
  List.map_eq_nil_iff

theorem others_eq_nil_iff {known parameters : List Parameter} :
    others (names known) parameters = [] ↔ ∀ p ∈ parameters, ∃ q ∈ known, q.name = p.name := by
  rw [others, List.filter_eq_nil_iff]
  refine forall₂_congr fun p _ => ?_
  rw [decide_eq_true_iff, not_not, names, List.mem_map]

theorem altered_eq_nil_iff {goal live : List Parameter} :
    altered goal live = [] ↔ ∀ g ∈ goal, ∀ p ∈ live, p.name = g.name → p = g := by
  rw [altered, List.filter_eq_nil_iff]
  refine forall₂_congr fun g _ => ?_
  rw [decide_eq_true_iff]
  push Not
  refine forall₂_congr fun p _ => forall_congr' fun hname => ?_
  exact (eq_iff_of_name_eq hname).symm

/-- No name is listed exactly if the parameters are the same ones, in whatever order. -/
theorem nameDrift_eq_nil_iff {goal live : List Parameter} (hgoal : (names goal).Nodup)
    (hlive : (names live).Nodup) : nameDrift goal live = ⟨[], [], []⟩ ↔ goal.Perm live := by
  rw [nameDrift, ParameterDrift.mk.injEq, names_eq_nil_iff, names_eq_nil_iff, names_eq_nil_iff,
    others_eq_nil_iff, altered_eq_nil_iff, others_eq_nil_iff,
    List.perm_ext_iff_of_nodup (.of_map _ hgoal) (.of_map _ hlive)]
  constructor
  · rintro ⟨hmissing, hchanged, hunexpected⟩ p
    constructor
    · intro hp
      obtain ⟨q, hq, hname⟩ := hmissing p hp
      exact hchanged p hp q hq hname ▸ hq
    · intro hp
      obtain ⟨g, hg, hname⟩ := hunexpected p hp
      exact (hchanged g hg p hp hname.symm).symm ▸ hg
  · intro hsame
    refine ⟨fun p hp => ⟨p, (hsame p).1 hp, rfl⟩, fun g hg p hp hname => ?_,
      fun p hp => ⟨p, (hsame p).2 hp, rfl⟩⟩
    exact List.inj_on_of_nodup_map hlive hp ((hsame g).1 hg) hname

/-! ## Parts of a report -/

def ParameterDrift.listings (d : ParameterDrift) : List String :=
  named "missing" d.missing ++ named "changed" d.changed ++ named "unexpected" d.unexpected

def fileParts (goal live : List String) : List String :=
  if goal = live then [] else [valueFileMessage goal live]

def parameterParts (goal live : List Parameter) : List String :=
  if goal = live then []
  else if goal.Perm live then ["parameters differ in order"]
  else ["parameters differ: " ++ ", ".intercalate (nameDrift goal live).listings]

def reportText (parts : List String) : String :=
  "Helm source drifted: " ++ "; ".intercalate parts

theorem named_eq_nil_iff {heading : String} {names : List String} :
    named heading names = [] ↔ names = [] := by
  cases names <;> simp [named]

theorem listings_eq_nil_iff {d : ParameterDrift} : d.listings = [] ↔ d = ⟨[], [], []⟩ := by
  obtain ⟨missing, changed, unexpected⟩ := d
  simp [ParameterDrift.listings, named_eq_nil_iff]

theorem message_eq (d : ParameterDrift) :
    d.message = if d = ⟨[], [], []⟩ then "parameters differ in order"
      else "parameters differ: " ++ ", ".intercalate d.listings := by
  rw [ParameterDrift.message]
  simp only [List.isEmpty_iff, ← listings_eq_nil_iff]
  rfl

theorem message_parameterDrift {goal live : List Parameter} (hgoal : (names goal).Nodup)
    (hlive : (names live).Nodup) (hdiffer : goal ≠ live) :
    [(parameterDrift goal live).message] = parameterParts goal live := by
  rw [parameterDrift_eq hlive, message_eq, parameterParts, if_neg hdiffer]
  simp only [nameDrift_eq_nil_iff hgoal hlive]
  split <;> rfl

theorem driftMessage_of_drift {goal live : HelmSettings} (hgoal : (names goal.parameters).Nodup)
    (hlive : (names live.parameters).Nodup) (h : goal.inSync live = false) :
    goal.driftMessage live = reportText (fileParts goal.valueFiles live.valueFiles
      ++ parameterParts goal.parameters live.parameters) := by
  have hparameters : (if goal.parameters = live.parameters then []
      else [(parameterDrift goal.parameters live.parameters).message])
      = parameterParts goal.parameters live.parameters := by
    by_cases heq : goal.parameters = live.parameters
    · rw [if_pos heq, parameterParts, if_pos heq]
    · rw [if_neg heq, message_parameterDrift hgoal hlive heq]
  unfold driftMessage reportText
  rw [if_neg (Bool.not_eq_true _ ▸ h)]
  simp only [beq_iff_eq, hparameters, fileParts]

/-! ## Where a report begins and ends -/

theorem reportText_ne_inSync (parts : List String) : reportText parts ≠ "Helm source is in sync" := by
  intro h
  have hprefix : "Helm source drifted: ".toList <+: (reportText parts).toList := by
    unfold reportText
    rw [String.toList_append]
    exact List.prefix_append _ _
  rw [h] at hprefix
  revert hprefix
  decide

theorem parameterParts_cases (goal live : List Parameter) :
    parameterParts goal live = []
      ∨ ∃ more, parameterParts goal live = ["parameters differ" ++ more] := by
  unfold parameterParts
  split
  · exact .inl rfl
  · split
    · exact .inr ⟨" in order", rfl⟩
    · refine .inr ⟨": " ++ ", ".intercalate (nameDrift goal live).listings, ?_⟩
      rw [← String.append_assoc]
      rfl

/-- A report begins with the value files exactly if they differ. -/
theorem files_prefix_iff (files liveFiles : List String) (goal live : List Parameter) :
    "Helm source drifted: value files differ (".toList
        <+: (reportText (fileParts files liveFiles ++ parameterParts goal live)).toList
      ↔ files ≠ liveFiles := by
  have hsplit : "Helm source drifted: value files differ (".toList
      = "Helm source drifted: ".toList ++ "value files differ (".toList := by decide
  unfold reportText
  rw [String.toList_append, hsplit, List.prefix_append_right_inj]
  by_cases h : files = liveFiles
  · rw [fileParts, if_pos h, List.nil_append]
    refine iff_of_false ?_ (not_not_intro h)
    rcases parameterParts_cases goal live with hnone | ⟨more, hmore⟩
    · rw [hnone]
      decide
    · rw [hmore, String.intercalate_singleton, String.toList_append]
      exact fun hprefix => absurd (List.cons_prefix_cons.1 hprefix).1 (by decide)
  · rw [fileParts, if_neg h]
    refine iff_of_true ?_ h
    unfold valueFileMessage
    rw [String.append_assoc, String.append_assoc, String.append_assoc, List.singleton_append,
      String.intercalate_cons_append, String.toList_append]
    exact List.prefix_append _ _

theorem getLast?_of_mem_named {heading part : String} {names : List String}
    (h : part ∈ named heading names) : part.toList.getLast? = some ']' := by
  unfold named at h
  split at h
  · cases h
  · rw [List.mem_singleton.1 h]
    exact getLast?_toList_append rfl

theorem getLast?_listings {d : ParameterDrift} (h : d.listings ≠ []) :
    (", ".intercalate d.listings).toList.getLast? = some ']' := by
  refine getLast?_intercalate ", " h fun part hpart => ?_
  rcases List.mem_append.1 hpart with hpart | hpart
  · exact (List.mem_append.1 hpart).elim getLast?_of_mem_named getLast?_of_mem_named
  · exact getLast?_of_mem_named hpart

theorem getLast?_of_mem_fileParts {goal live : List String} {part : String}
    (h : part ∈ fileParts goal live) : part.toList.getLast? = some ')' := by
  unfold fileParts at h
  split at h
  · cases h
  · rw [List.mem_singleton.1 h]
    unfold valueFileMessage
    exact getLast?_toList_append rfl

theorem exists_reportText_concat (parts : List String) (part : String) :
    ∃ before, reportText (parts ++ [part]) = before ++ part := by
  unfold reportText
  by_cases h : parts = []
  · refine ⟨"Helm source drifted: ", ?_⟩
    rw [h, List.nil_append, String.intercalate_singleton]
  · refine ⟨"Helm source drifted: " ++ ("; ".intercalate parts ++ "; "), ?_⟩
    rw [String.intercalate_append_of_ne_nil h (List.cons_ne_nil _ _),
      String.intercalate_singleton, ← String.append_assoc]

/-- A report ends with the word on the order exactly if nothing but that differs between the
parameters. Other reports end with a bracket, whatever the names in them. -/
theorem order_suffix_iff {goal live : List Parameter} (hgoal : (names goal).Nodup)
    (hlive : (names live).Nodup) (files liveFiles : List String) :
    "parameters differ in order".toList
        <:+ (reportText (fileParts files liveFiles ++ parameterParts goal live)).toList
      ↔ goal ≠ live ∧ goal.Perm live := by
  by_cases heq : goal = live
  · refine iff_of_false ?_ fun h => h.1 heq
    rw [parameterParts, if_pos heq, List.append_nil]
    by_cases hnone : fileParts files liveFiles = []
    · rw [hnone]
      decide
    · have hend := getLast?_intercalate "; " hnone fun _ => getLast?_of_mem_fileParts
      exact not_suffix_of_getLast? rfl (getLast?_toList_append hend) (by decide : 'r' ≠ ')')
  · rw [parameterParts, if_neg heq]
    by_cases hperm : goal.Perm live
    · rw [if_pos hperm]
      obtain ⟨before, hbefore⟩ :=
        exists_reportText_concat (fileParts files liveFiles) "parameters differ in order"
      refine iff_of_true ?_ ⟨heq, hperm⟩
      rw [hbefore, String.toList_append]
      exact List.suffix_append _ _
    · rw [if_neg hperm]
      obtain ⟨before, hbefore⟩ := exists_reportText_concat (fileParts files liveFiles)
        ("parameters differ: " ++ ", ".intercalate (nameDrift goal live).listings)
      have hlisted : (nameDrift goal live).listings ≠ [] := fun h =>
        hperm ((nameDrift_eq_nil_iff hgoal hlive).1 (listings_eq_nil_iff.1 h))
      refine iff_of_false ?_ fun h => hperm h.2
      rw [hbefore]
      refine not_suffix_of_getLast? rfl ?_ (by decide : 'r' ≠ ']')
      exact getLast?_toList_append (getLast?_toList_append (getLast?_listings hlisted))

/-- The wanted parameters in another order, without value files. -/
def liveReordered : HelmSettings where
  parameters := wantedPair.parameters.reverse

example : wantedPair.driftMessage
    { valueFiles := wantedPair.valueFiles
      parameters := [{ name := "excess", value := "x" }, { name := "added", value := "1" }] }
    = "Helm source drifted: parameters differ: missing [foo], changed [added], unexpected [excess]" :=
  by decide

end HelmSettings

end PatternSync
