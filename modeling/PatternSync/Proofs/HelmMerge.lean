import PatternSync.Goal.Application
import PatternSync.Helm.Drift

/-!
# Merging helm settings

What is found under a name after parameters were updated, and when an update changes nothing. If
the wanted names are distinct, merging the same settings twice is merging them once
(`merge_merge`). The names of the generated parameters are distinct (`nodup_parameters`).
-/

namespace PatternSync

namespace Parameter

/-- The first parameter of a name. -/
def firstNamed? (parameters : List Parameter) (name : String) : Option Parameter :=
  parameters.find? fun p => p.name == name

theorem firstNamed?_cons (p : Parameter) (rest : List Parameter) (name : String) :
    firstNamed? (p :: rest) name = if p.name = name then some p else firstNamed? rest name := by
  by_cases h : p.name = name <;> simp [firstNamed?, h]

theorem firstNamed?_append (a b : List Parameter) (name : String) :
    firstNamed? (a ++ b) name = (firstNamed? a name).or (firstNamed? b name) :=
  List.find?_append

theorem firstNamed?_eq_none_iff {parameters : List Parameter} {name : String} :
    firstNamed? parameters name = none ↔ name ∉ names parameters := by
  simp [firstNamed?, names]

/-! ## Single updates -/

theorem firstNamed?_overwrite? {wanted : Parameter} {before after : List Parameter}
    (h : overwrite? wanted before = some after) (name : String) :
    firstNamed? after name
      = if name = wanted.name then some wanted else firstNamed? before name := by
  induction before generalizing after with
  | nil => cases h
  | cons p rest ih =>
    unfold overwrite? at h
    split at h
    · rename_i hname
      cases h
      rw [firstNamed?_cons, firstNamed?_cons, hname]
      by_cases heq : name = wanted.name
      · rw [if_pos heq.symm, if_pos heq]
      · rw [if_neg (Ne.symm heq), if_neg heq, if_neg (Ne.symm heq)]
    · rename_i hname
      obtain ⟨changed, hchanged, rfl⟩ := Option.map_eq_some_iff.1 h
      rw [firstNamed?_cons, firstNamed?_cons, ih hchanged]
      by_cases hp : p.name = name
      · have heq : name ≠ wanted.name := fun heq => hname (hp.trans heq)
        rw [if_pos hp, if_pos hp, if_neg heq]
      · rw [if_neg hp, if_neg hp]

theorem firstNamed?_upsert (parameters : List Parameter) (wanted : Parameter) (name : String) :
    firstNamed? (upsert parameters wanted) name
      = if name = wanted.name then some wanted else firstNamed? parameters name := by
  unfold upsert
  cases h : overwrite? wanted parameters with
  | some after => exact firstNamed?_overwrite? h name
  | none =>
    have habsent := overwrite?_eq_none_iff.1 h
    rw [Option.getD_none, firstNamed?_append, firstNamed?_cons]
    by_cases heq : name = wanted.name
    · subst heq
      rw [firstNamed?_eq_none_iff.2 habsent, Option.none_or, if_pos rfl, if_pos rfl]
    · rw [if_neg (Ne.symm heq), if_neg heq]
      exact Option.or_none

/-- An update changes nothing where the entry of that name is the wanted one already. -/
theorem upsert_of_firstNamed? {parameters : List Parameter} {wanted : Parameter}
    (h : firstNamed? parameters wanted.name = some wanted) :
    upsert parameters wanted = parameters := by
  suffices hover : overwrite? wanted parameters = some parameters by
    rw [upsert, hover, Option.getD_some]
  induction parameters with
  | nil => cases h
  | cons p rest ih =>
    rw [firstNamed?_cons] at h
    unfold overwrite?
    split
    · rename_i hname
      rw [if_pos hname] at h
      cases h
      rfl
    · rename_i hname
      rw [if_neg hname] at h
      rw [ih h, Option.map_some]

theorem nodup_names_upsert {parameters : List Parameter} (h : (names parameters).Nodup)
    (wanted : Parameter) : (names (upsert parameters wanted)).Nodup := by
  rw [names_upsert]
  split
  · exact h
  · rename_i hnew
    rw [List.nodup_append]
    refine ⟨h, List.pairwise_singleton .., ?_⟩
    rintro name hname other hother rfl
    exact hnew (List.mem_singleton.1 hother ▸ hname)

/-! ## Sequences of updates -/

theorem firstNamed?_foldl_upsert (wanted parameters : List Parameter) (name : String) :
    firstNamed? (wanted.foldl upsert parameters) name
      = (firstNamed? wanted.reverse name).or (firstNamed? parameters name) := by
  induction wanted generalizing parameters with
  | nil => rfl
  | cons w rest ih =>
    rw [List.foldl_cons, ih, firstNamed?_upsert, List.reverse_cons, firstNamed?_append,
      firstNamed?_cons]
    by_cases h : name = w.name
    · rw [if_pos h, if_pos h.symm, Option.or_assoc, Option.some_or]
    · rw [if_neg h, if_neg (Ne.symm h)]
      exact congrArg (Option.or · _) Option.or_none.symm

theorem firstNamed?_of_mem {parameters : List Parameter} (hnodup : (names parameters).Nodup)
    {p : Parameter} (hp : p ∈ parameters) : firstNamed? parameters p.name = some p := by
  induction parameters with
  | nil => cases hp
  | cons q rest ih =>
    obtain ⟨hq, hrest⟩ := List.nodup_cons.1 hnodup
    rw [firstNamed?_cons]
    rcases List.mem_cons.1 hp with rfl | hp
    · rw [if_pos rfl]
    · have hne : q.name ≠ p.name := fun heq => hq (List.mem_map.2 ⟨p, hp, heq.symm⟩)
      rw [if_neg hne, ih hrest hp]

theorem foldl_upsert_of_settled {wanted parameters : List Parameter}
    (h : ∀ w ∈ wanted, firstNamed? parameters w.name = some w) :
    wanted.foldl upsert parameters = parameters := by
  induction wanted with
  | nil => rfl
  | cons w rest ih =>
    obtain ⟨hw, hrest⟩ := List.forall_mem_cons.1 h
    rw [List.foldl_cons, upsert_of_firstNamed? hw, ih hrest]

/-- After updates with distinct names each of them is found. -/
theorem firstNamed?_foldl_upsert_of_mem {wanted : List Parameter} (hnodup : (names wanted).Nodup)
    (parameters : List Parameter) {w : Parameter} (hw : w ∈ wanted) :
    firstNamed? (wanted.foldl upsert parameters) w.name = some w := by
  have hreverse : (names wanted.reverse).Nodup := by
    rw [names, List.map_reverse, List.Nodup, List.pairwise_reverse]
    exact hnodup.imp Ne.symm
  rw [firstNamed?_foldl_upsert, firstNamed?_of_mem hreverse (List.mem_reverse.2 hw), Option.some_or]

theorem foldl_upsert_ne_nil {wanted parameters : List Parameter}
    (h : wanted ≠ [] ∨ parameters ≠ []) : wanted.foldl upsert parameters ≠ [] := by
  induction wanted generalizing parameters with
  | nil => exact h.resolve_left (· rfl)
  | cons w rest ih =>
    refine ih (.inr fun hnil => ?_)
    have hfound := firstNamed?_upsert parameters w w.name
    rw [hnil, if_pos rfl] at hfound
    cases hfound

/-- Updates move nothing. The names that are new stand behind the others, in the order in which they
first appear. -/
theorem names_foldl_upsert (wanted parameters : List Parameter) :
    names (wanted.foldl upsert parameters)
      = names parameters ++ ((names wanted).filter (· ∉ names parameters)).eraseDups := by
  induction wanted generalizing parameters with
  | nil => exact (List.append_nil _).symm
  | cons w rest ih =>
    have hcons : names (w :: rest) = w.name :: names rest := rfl
    rw [List.foldl_cons, ih, names_upsert, hcons]
    by_cases h : w.name ∈ names parameters
    · rw [if_pos h, List.filter_cons_of_neg (by simpa using h)]
    · have hlater : (names rest).filter (· ∉ names parameters ++ [w.name])
          = ((names rest).filter (· ∉ names parameters)).filter fun name => !name == w.name := by
        rw [List.filter_filter]
        refine List.filter_congr fun name _ => ?_
        by_cases hname : name = w.name <;> simp [hname]
      rw [if_neg h, List.filter_cons_of_pos (by simpa using h), List.eraseDups_cons, hlater,
        List.append_assoc]
      rfl

theorem nodup_names_foldl_upsert (wanted : List Parameter) {parameters : List Parameter}
    (h : (names parameters).Nodup) : (names (wanted.foldl upsert parameters)).Nodup := by
  induction wanted generalizing parameters with
  | nil => exact h
  | cons w rest ih => exact ih (nodup_names_upsert h w)

end Parameter

/-! ## Helm settings -/

namespace HelmSettings

open Parameter

theorem merge_merge {goal : HelmSettings} (hnodup : (names goal.parameters).Nodup)
    (live : HelmSettings) : goal.merge (goal.merge live) = goal.merge live := by
  have hparameters : goal.parameters.foldl upsert (goal.parameters.foldl upsert live.parameters)
      = goal.parameters.foldl upsert live.parameters :=
    foldl_upsert_of_settled fun w hw => firstNamed?_foldl_upsert_of_mem hnodup _ hw
  have hignore : (goal.ignoreMissingValueFiles.orElse fun _ =>
      goal.ignoreMissingValueFiles.orElse fun _ => live.ignoreMissingValueFiles)
      = goal.ignoreMissingValueFiles.orElse fun _ => live.ignoreMissingValueFiles := by
    cases goal.ignoreMissingValueFiles <;> rfl
  simp only [merge, hparameters, hignore]

/-- Settings are not changed by merging themselves into them. -/
theorem merge_self {goal : HelmSettings} (hnodup : (names goal.parameters).Nodup) :
    goal.merge goal = goal := by
  have hparameters : goal.parameters.foldl upsert goal.parameters = goal.parameters :=
    foldl_upsert_of_settled fun w hw => firstNamed?_of_mem hnodup hw
  have hignore : (goal.ignoreMissingValueFiles.orElse fun _ => goal.ignoreMissingValueFiles)
      = goal.ignoreMissingValueFiles := by
    cases goal.ignoreMissingValueFiles <;> rfl
  simp only [merge, hparameters, hignore]

end HelmSettings

/-! ## Generated parameters -/

namespace Pattern

open Parameter

def fixedNames : List String :=
  [ "global.pattern", "global.namespace", "global.repoURL", "global.targetRevision",
    "global.hubClusterDomain", "global.localClusterDomain", "global.clusterDomain",
    "global.clusterVersion", "global.clusterPlatform", "global.localClusterName" ]

theorem names_fixedParameters (p : Pattern) (settings : Settings) :
    names (p.fixedParameters settings) = fixedNames := rfl

theorem nodup_parameters (p : Pattern) (settings : Settings) :
    (names (p.parameters settings)).Nodup := by
  refine nodup_names_foldl_upsert _ ?_
  rw [names_fixedParameters]
  decide

end Pattern

end PatternSync
