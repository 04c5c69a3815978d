import PatternSync.Proofs.HelmMerge
import PatternSync.Proofs.Lists

/-!
# Merged parameters

What a merge makes of a list of parameters, place by place. Nothing moves: the first entry of a
wanted name becomes the wanted one, entries behind it that bear the same name stay, and the wanted
parameters of new names stand behind the others, in the order of the goal (`foldl_upsert_eq`). So
one merge brings helm settings in sync exactly if the live names begin the wanted ones
(`merge_eq_revise`).
-/

namespace PatternSync

namespace Parameter

/-- The list in which the first entry of each wanted name is the wanted one. -/
def revise (wanted parameters : List Parameter) : List Parameter :=
  parameters.mapIdx fun i p =>
    if p.name ∈ names (parameters.take i) then p else (firstNamed? wanted p.name).getD p

theorem getElem?_revise (wanted parameters : List Parameter) (i : Nat) :
    (revise wanted parameters)[i]? = parameters[i]?.map fun p =>
      if p.name ∈ names (parameters.take i) then p else (firstNamed? wanted p.name).getD p :=
  List.getElem?_mapIdx

theorem firstNamed?_name {parameters : List Parameter} {name : String} {p : Parameter}
    (h : firstNamed? parameters name = some p) : p.name = name := by
  have hfound := List.find?_some h
  exact beq_iff_eq.1 hfound

theorem name_getD_firstNamed? (wanted : List Parameter) (p : Parameter) :
    ((firstNamed? wanted p.name).getD p).name = p.name := by
  cases h : firstNamed? wanted p.name with
  | none => rfl
  | some w => exact firstNamed?_name h

theorem names_take (parameters : List Parameter) (i : Nat) :
    names (parameters.take i) = (names parameters).take i :=
  List.map_take

theorem names_revise (wanted parameters : List Parameter) :
    names (revise wanted parameters) = names parameters := by
  apply List.ext_getElem?
  intro i
  rw [names, names, List.getElem?_map, List.getElem?_map, getElem?_revise, Option.map_map]
  congr 1
  funext p
  rw [Function.comp_apply]
  split
  · rfl
  · exact name_getD_firstNamed? wanted p

/-- Only the first wanted parameter of each name in the list counts. -/
theorem revise_congr {a b parameters : List Parameter}
    (h : ∀ name ∈ names parameters, firstNamed? a name = firstNamed? b name) :
    revise a parameters = revise b parameters := by
  apply List.ext_getElem?
  intro i
  rw [getElem?_revise, getElem?_revise]
  cases hp : parameters[i]? with
  | none => rfl
  | some p =>
    have hname := h p.name (List.mem_map_of_mem (List.mem_of_getElem? hp))
    rw [Option.map_some, Option.map_some, hname]

theorem revise_of_not_mem {w : Parameter} {wanted parameters : List Parameter}
    (h : w.name ∉ names parameters) : revise (w :: wanted) parameters = revise wanted parameters := by
  refine revise_congr fun name hname => ?_
  have hne : w.name ≠ name := fun heq => h (heq ▸ hname)
  rw [firstNamed?_cons, if_neg hne]

theorem revise_nil (parameters : List Parameter) : revise [] parameters = parameters := by
  apply List.ext_getElem?
  intro i
  rw [getElem?_revise]
  cases parameters[i]? with
  | none => rfl
  | some p => exact congrArg some (ite_self p)

theorem revise_revise (later earlier parameters : List Parameter) :
    revise later (revise earlier parameters) = revise (later ++ earlier) parameters := by
  apply List.ext_getElem?
  intro i
  rw [getElem?_revise, getElem?_revise, getElem?_revise, Option.map_map, names_take, names_revise,
    ← names_take]
  congr 1
  funext p
  rw [Function.comp_apply]
  by_cases hrepeated : p.name ∈ names (parameters.take i)
  · rw [if_pos hrepeated, if_pos hrepeated, if_pos hrepeated]
  · rw [if_neg hrepeated, if_neg hrepeated, name_getD_firstNamed?, if_neg hrepeated,
      firstNamed?_append]
    cases firstNamed? later p.name <;> rfl

theorem revise_concat (wanted parameters : List Parameter) (p : Parameter) :
    revise wanted (parameters ++ [p]) = revise wanted parameters
      ++ [if p.name ∈ names parameters then p else (firstNamed? wanted p.name).getD p] := by
  rw [revise, List.mapIdx_concat, List.take_left]
  congr 1
  apply List.ext_getElem?
  intro i
  rw [getElem?_revise, List.getElem?_mapIdx]
  cases hq : parameters[i]? with
  | none => rfl
  | some q =>
    obtain ⟨hi, -⟩ := List.getElem?_eq_some_iff.1 hq
    rw [Option.map_some, Option.map_some, List.take_append_of_le_length (Nat.le_of_lt hi)]

theorem firstNamed?_filter_ne (parameters : List Parameter) {name other : String}
    (h : name ≠ other) :
    firstNamed? (parameters.filter fun p => p.name ≠ other) name = firstNamed? parameters name := by
  induction parameters with
  | nil => rfl
  | cons p rest ih =>
    by_cases hp : p.name = other
    · have hne : p.name ≠ name := fun heq => h (heq.symm.trans hp)
      rw [List.filter_cons_of_neg (by simpa using hp), ih, firstNamed?_cons, if_neg hne]
    · rw [List.filter_cons_of_pos (by simpa using hp), firstNamed?_cons, firstNamed?_cons, ih]

/-- The first entry takes the wanted parameter of its name from the entries behind it. -/
theorem revise_cons (wanted : List Parameter) (p : Parameter) (rest : List Parameter) :
    revise wanted (p :: rest) = (firstNamed? wanted p.name).getD p
      :: revise (wanted.filter fun w => w.name ≠ p.name) rest := by
  rw [revise, List.mapIdx_cons, revise]
  congr 1
  apply List.ext_getElem?
  intro i
  rw [List.getElem?_mapIdx, List.getElem?_mapIdx]
  congr 1
  funext q
  have hbefore : q.name ∈ names ((p :: rest).take (i + 1))
      ↔ q.name = p.name ∨ q.name ∈ names (rest.take i) := List.mem_cons
  by_cases hq : q.name = p.name
  · have hgone : firstNamed? (wanted.filter fun w => w.name ≠ p.name) q.name = none := by
      simp [firstNamed?_eq_none_iff, names, hq]
    rw [if_pos (hbefore.2 (.inl hq)), hgone]
    exact (ite_self q).symm
  · simp only [hbefore, hq, false_or, firstNamed?_filter_ne wanted hq]

/-! ## Updates as revisions -/

/-- An update that finds its entry revises the list by one parameter. -/
theorem overwrite?_eq_some {wanted : Parameter} {before after : List Parameter}
    (h : overwrite? wanted before = some after) : after = revise [wanted] before := by
  induction before generalizing after with
  | nil => cases h
  | cons p rest ih =>
    unfold overwrite? at h
    split at h
    · rename_i hname
      cases h
      have hfirst : firstNamed? [wanted] p.name = some wanted := by
        rw [firstNamed?_cons, if_pos hname.symm]
      have hused : [wanted].filter (fun w => w.name ≠ p.name) = [] := by simp [hname]
      rw [revise_cons, hfirst, hused, revise_nil, hname]
      rfl
    · rename_i hname
      obtain ⟨changed, hchanged, rfl⟩ := Option.map_eq_some_iff.1 h
      have hnone : firstNamed? [wanted] p.name = none := by
        rw [firstNamed?_cons, if_neg (Ne.symm hname)]
        rfl
      have hkept : [wanted].filter (fun w => w.name ≠ p.name) = [wanted] := by
        simp [Ne.symm hname]
      rw [revise_cons, hnone, hkept, ← ih hchanged]
      rfl

theorem upsert_of_mem {wanted : Parameter} {parameters : List Parameter}
    (h : wanted.name ∈ names parameters) : upsert parameters wanted = revise [wanted] parameters := by
  unfold upsert
  cases hfound : overwrite? wanted parameters with
  | none => exact absurd h (overwrite?_eq_none_iff.1 hfound)
  | some after => exact overwrite?_eq_some hfound

theorem upsert_of_not_mem {wanted : Parameter} {parameters : List Parameter}
    (h : wanted.name ∉ names parameters) : upsert parameters wanted = parameters ++ [wanted] := by
  rw [upsert, overwrite?_eq_none_iff.2 h, Option.getD_none]

/-- Updates with distinct names revise the list, and those of new names stand behind it. -/
theorem foldl_upsert_eq {wanted : List Parameter} (hnodup : (names wanted).Nodup)
    (parameters : List Parameter) :
    wanted.foldl upsert parameters
      = revise wanted parameters ++ wanted.filter fun w => w.name ∉ names parameters := by
  induction wanted generalizing parameters with
  | nil => rw [List.foldl_nil, revise_nil, List.filter_nil, List.append_nil]
  | cons w rest ih =>
    obtain ⟨hw, hrest⟩ := List.nodup_cons.1 hnodup
    have hlater : firstNamed? rest w.name = none := firstNamed?_eq_none_iff.2 hw
    rw [List.foldl_cons, ih hrest]
    by_cases hfound : w.name ∈ names parameters
    · -- the later names are others, so it does not matter which revision comes first
      have hcongr : revise (rest ++ [w]) parameters = revise (w :: rest) parameters := by
        refine revise_congr fun name _ => ?_
        rw [firstNamed?_append, firstNamed?_cons, firstNamed?_cons]
        by_cases hname : w.name = name
        · rw [if_pos hname, if_pos hname, ← hname, hlater, Option.none_or]
        · rw [if_neg hname, if_neg hname]
          exact Option.or_none
      rw [upsert_of_mem hfound, revise_revise, hcongr, names_revise,
        List.filter_cons_of_neg (by simpa using hfound)]
    · have hfilter : rest.filter (fun v => v.name ∉ names (parameters ++ [w]))
          = rest.filter fun v => v.name ∉ names parameters := by
        refine List.filter_congr fun v hv => ?_
        have hne : v.name ≠ w.name := fun heq => hw (List.mem_map.2 ⟨v, hv, heq⟩)
        simp [names, hne]
      rw [upsert_of_not_mem hfound, revise_concat, if_neg hfound, hlater, Option.getD_none, hfilter,
        revise_of_not_mem hfound, List.filter_cons_of_pos (by simpa using hfound),
        List.append_assoc]
      rfl

theorem names_foldl_upsert_of_nodup {wanted : List Parameter} (hnodup : (names wanted).Nodup)
    (parameters : List Parameter) :
    names (wanted.foldl upsert parameters)
      = names parameters ++ (names wanted).filter (· ∉ names parameters) := by
  rw [names_foldl_upsert, eraseDups_of_nodup (hnodup.filter _)]

/-- Lists of the same distinct names are the same if one finds the entries of the other. -/
theorem eq_of_names_eq {a b : List Parameter} (hnames : names a = names b)
    (hnodup : (names b).Nodup) (hfound : ∀ w ∈ b, firstNamed? a w.name = some w) : a = b := by
  induction b generalizing a with
  | nil => exact List.map_eq_nil_iff.1 hnames
  | cons w rest ih =>
    obtain ⟨hw, hrest⟩ := List.nodup_cons.1 hnodup
    cases a with
    | nil => cases hnames
    | cons p others =>
      obtain ⟨hp, hothers⟩ := List.cons.inj hnames
      obtain ⟨hfirst, hlater⟩ := List.forall_mem_cons.1 hfound
      rw [firstNamed?_cons, if_pos hp] at hfirst
      have htail : others = rest := by
        refine ih hothers hrest fun v hv => ?_
        have hne : p.name ≠ v.name := fun heq => hw (List.mem_map.2 ⟨v, hv, heq.symm.trans hp⟩)
        have hv := hlater v hv
        rwa [firstNamed?_cons, if_neg hne] at hv
      rw [Option.some.inj hfirst, htail]

/-- A list becomes the wanted one exactly if its names begin the wanted names. -/
theorem foldl_upsert_eq_self_iff {wanted : List Parameter} (hnodup : (names wanted).Nodup)
    (parameters : List Parameter) :
    wanted.foldl upsert parameters = wanted ↔ names parameters <+: names wanted := by
  have hnames := names_foldl_upsert_of_nodup hnodup parameters
  constructor
  · intro h
    rw [h] at hnames
    exact hnames ▸ List.prefix_append _ _
  · rintro ⟨more, hmore⟩
    refine eq_of_names_eq ?_ hnodup fun w hw => firstNamed?_foldl_upsert_of_mem hnodup _ hw
    have hnew : ∀ name ∈ more, name ∉ names parameters := by
      rw [← hmore, List.nodup_append] at hnodup
      exact fun name hname hold => hnodup.2.2 name hold name hname rfl
    rw [hnames, ← hmore, List.filter_append, List.filter_eq_nil_iff.2, List.filter_eq_self.2,
      List.nil_append]
    · simpa using hnew
    · simp

end Parameter

/-! ## Merged helm settings -/

namespace HelmSettings

open Parameter

/-- A merge keeps every live parameter in its place, but for the first entry of each wanted name,
which becomes the wanted one, and adds the parameters of new names behind them, in the order of the
goal. Value files are the wanted ones, members that are not known are the live ones. So the merged
settings are in sync exactly if the live names begin the wanted names. -/
theorem merge_eq_revise {goal : HelmSettings} (hnodup : (names goal.parameters).Nodup)
    (live : HelmSettings) :
    goal.merge live
        = { valueFiles := goal.valueFiles
            parameters := revise goal.parameters live.parameters
              ++ goal.parameters.filter fun g => g.name ∉ names live.parameters
            ignoreMissingValueFiles :=
              goal.ignoreMissingValueFiles.or live.ignoreMissingValueFiles
            extra := live.extra }
      ∧ (goal.inSync (goal.merge live) = true
        ↔ names live.parameters <+: names goal.parameters) := by
  constructor
  · rw [merge, foldl_upsert_eq hnodup, Option.or_eq_orElse]
  · rw [inSync_iff, ← foldl_upsert_eq_self_iff hnodup]
    exact ⟨fun h => h.2.symm, fun h => ⟨rfl, h.symm⟩⟩

def wantedPair : HelmSettings where
  valueFiles := ["/values-global.yaml"]
  parameters :=
    [{ name := "foo", value := "new" }, { name := "added", value := "1", forceString := true }]
  ignoreMissingValueFiles := some true

/-- Live settings with a parameter of their own, and with one name twice. -/
def liveRepeated : HelmSettings where
  valueFiles := ["/values-stale.yaml"]
  parameters :=
    [ { name := "excess", value := "x" }, { name := "foo", value := "old" },
      { name := "foo", value := "stale" } ]

theorem merge_eq_revise_repeated :
    (names wantedPair.parameters).Nodup
      ∧ (wantedPair.merge liveRepeated).parameters
        = [ { name := "excess", value := "x" }, { name := "foo", value := "new" },
            { name := "foo", value := "stale" },
            { name := "added", value := "1", forceString := true } ]
      ∧ wantedPair.inSync (wantedPair.merge liveRepeated) = false := by
  have hnodup : (names wantedPair.parameters).Nodup := by decide
  obtain ⟨hmerge, hsync⟩ := merge_eq_revise hnodup liveRepeated
  refine ⟨hnodup, ?_, ?_⟩
  · rw [hmerge]
    decide
  · rw [← Bool.not_eq_true, hsync]
    decide

end HelmSettings

end PatternSync
