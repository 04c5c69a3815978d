import PatternSync.Proofs.MergedParameters

/-!
# Sequences of updates

Parameters are updated one after another. An update neither moves nor renames an entry, so the names
that the list has at the start decide which updates find one, and all updates together revise the
list by the updates in reverse order (`overwriteAll_eq`). What becomes of an entry therefore depends
on the last update of its name alone (`overwriteAll_congr`), and only if no entry in front of it
bears that name (`overwriteAll_last_counts`).
-/

namespace PatternSync.Parameter

open HelmSettings (lastNamed?)

/-! ## The last of a name -/

theorem lastNamed?_append (a b : List Parameter) (name : String) :
    lastNamed? (a ++ b) name = (lastNamed? b name).or (lastNamed? a name) := by
  show firstNamed? (a ++ b).reverse name = _
  rw [List.reverse_append, firstNamed?_append]
  rfl

theorem lastNamed?_singleton (w : Parameter) (name : String) :
    lastNamed? [w] name = if w.name = name then some w else none :=
  firstNamed?_cons w [] name

theorem lastNamed?_swap {v w : Parameter} (h : v.name ≠ w.name) (front back : List Parameter)
    (name : String) :
    lastNamed? (front ++ v :: w :: back) name = lastNamed? (front ++ w :: v :: back) name := by
  have hpair : lastNamed? ([v] ++ [w]) name = lastNamed? ([w] ++ [v]) name := by
    rw [lastNamed?_append, lastNamed?_append, lastNamed?_singleton, lastNamed?_singleton]
    by_cases hv : v.name = name
    · have hw : w.name ≠ name := fun hw => h (hv.trans hw.symm)
      rw [if_pos hv, if_neg hw]
      rfl
    · rw [if_neg hv, Option.none_or]
      exact Option.or_none
  show lastNamed? (front ++ (([v] ++ [w]) ++ back)) name
    = lastNamed? (front ++ (([w] ++ [v]) ++ back)) name
  rw [lastNamed?_append, lastNamed?_append front, lastNamed?_append _ back, hpair,
    ← lastNamed?_append]

/-- An entry in front of another one of its name is never the last. -/
theorem lastNamed?_drop {v w : Parameter} (h : v.name = w.name)
    (front middle back : List Parameter) (name : String) :
    lastNamed? (front ++ v :: (middle ++ w :: back)) name
      = lastNamed? (front ++ (middle ++ w :: back)) name := by
  have hlater : lastNamed? ([v] ++ (middle ++ w :: back)) name
      = lastNamed? (middle ++ w :: back) name := by
    rw [lastNamed?_append, lastNamed?_singleton]
    by_cases hv : v.name = name
    · have hfound : ∃ u, lastNamed? (middle ++ w :: back) name = some u := by
        refine Option.ne_none_iff_exists'.1 fun hnone => ?_
        have hnames := firstNamed?_eq_none_iff.1 hnone
        exact hnames (List.mem_map.2 ⟨w, by simp, h.symm.trans hv⟩)
      obtain ⟨u, hu⟩ := hfound
      rw [hu, Option.some_or]
    · rw [if_neg hv]
      exact Option.or_none
  show lastNamed? (front ++ ([v] ++ (middle ++ w :: back))) name = _
  rw [lastNamed?_append, hlater, ← lastNamed?_append]

/-! ## Updates one after another -/

/-- The parameters after an update, and whether one of them bore the name. -/
def overwrite (parameters : List Parameter) (wanted : Parameter) : List Parameter × Bool :=
  match overwrite? wanted parameters with
  | some after => (after, true)
  | none => (parameters, false)

/-- The parameters after a sequence of updates, and which of these found an entry. -/
def overwriteAll (parameters : List Parameter) : List Parameter → List Parameter × List Bool
  | [] => (parameters, [])
  | wanted :: later =>
    let first := overwrite parameters wanted
    let rest := overwriteAll first.1 later
    (rest.1, first.2 :: rest.2)

theorem overwrite_eq (parameters : List Parameter) (wanted : Parameter) :
    overwrite parameters wanted
      = (revise [wanted] parameters, decide (wanted.name ∈ names parameters)) := by
  unfold overwrite
  cases hfound : overwrite? wanted parameters with
  | some after =>
    have hmem : wanted.name ∈ names parameters := by
      refine Decidable.byContradiction fun habsent => ?_
      rw [overwrite?_eq_none_iff.2 habsent] at hfound
      cases hfound
    rw [overwrite?_eq_some hfound, decide_eq_true hmem]
  | none =>
    have habsent := overwrite?_eq_none_iff.1 hfound
    rw [revise_of_not_mem habsent, revise_nil, decide_eq_false habsent]

/-- A sequence of updates revises the list by all of them, the latest first. -/
theorem overwriteAll_eq (parameters updates : List Parameter) :
    overwriteAll parameters updates
      = (revise updates.reverse parameters,
        updates.map fun w => decide (w.name ∈ names parameters)) := by
  induction updates generalizing parameters with
  | nil =>
    rw [List.reverse_nil, revise_nil]
    rfl
  | cons w later ih =>
    have hcons : overwriteAll parameters (w :: later)
        = ((overwriteAll (overwrite parameters w).1 later).1,
          (overwrite parameters w).2 :: (overwriteAll (overwrite parameters w).1 later).2) := rfl
    rw [hcons, overwrite_eq, ih, names_revise, revise_revise, List.reverse_cons, List.map_cons]

theorem names_overwriteAll (parameters updates : List Parameter) :
    names (overwriteAll parameters updates).1 = names parameters := by
  rw [overwriteAll_eq, names_revise]

theorem length_overwriteAll (parameters updates : List Parameter) :
    (overwriteAll parameters updates).1.length = parameters.length := by
  have hnames := congrArg List.length (names_overwriteAll parameters updates)
  rwa [names, names, List.length_map, List.length_map] at hnames

theorem getElem?_overwriteAll (parameters updates : List Parameter) (i : Nat) :
    (overwriteAll parameters updates).1[i]? = parameters[i]?.map fun p =>
      if p.name ∈ names (parameters.take i) then p else (lastNamed? updates p.name).getD p := by
  rw [overwriteAll_eq, getElem?_revise]
  rfl

/-- Sequences with the same last update of every name lead to the same list. -/
theorem overwriteAll_congr {a b parameters : List Parameter}
    (h : ∀ name ∈ names parameters, lastNamed? a name = lastNamed? b name) :
    (overwriteAll parameters a).1 = (overwriteAll parameters b).1 := by
  rw [overwriteAll_eq, overwriteAll_eq]
  exact revise_congr h

/-! ## What counts -/

/-- However often parameters are updated, their number and the name in each place stay. An update
finds an entry exactly if the list has had one of that name from the start, and otherwise it changes
nothing. In the end the first entry of a name is the last update of that name, if there was one, and
every other entry is the one of the start. So updates of different names commute, and an update in
front of another one of the same name does not count. -/
theorem overwriteAll_last_counts (parameters updates : List Parameter) :
    let after := (overwriteAll parameters updates).1
    after.length = parameters.length
      ∧ names after = names parameters
      ∧ (overwriteAll parameters updates).2
        = updates.map (fun w => decide (w.name ∈ names parameters))
      ∧ (∀ w, ((overwrite after w).2 = true ↔ w.name ∈ names parameters)
        ∧ ((overwrite after w).2 = false → (overwrite after w).1 = after))
      ∧ (∀ i p, parameters[i]? = some p →
        after[i]? = some (if p.name ∈ names (parameters.take i) then p
          else (lastNamed? updates p.name).getD p))
      ∧ (∀ front v w back, updates = front ++ v :: w :: back → v.name ≠ w.name →
        (overwriteAll parameters (front ++ w :: v :: back)).1 = after)
      ∧ (∀ front v middle w back, updates = front ++ v :: (middle ++ w :: back) →
        v.name = w.name →
          (overwriteAll parameters (front ++ (middle ++ w :: back))).1 = after) := by
  intro after
  have hnames : names after = names parameters := names_overwriteAll parameters updates
  refine ⟨length_overwriteAll parameters updates, hnames, ?_, fun w => ⟨?_, ?_⟩, ?_, ?_, ?_⟩
  · rw [overwriteAll_eq]
  · rw [overwrite_eq, hnames, decide_eq_true_iff]
  · intro hnone
    unfold overwrite at hnone ⊢
    split at hnone
    · cases hnone
    · rfl
  · intro i p hp
    rw [getElem?_overwriteAll, hp, Option.map_some]
  · rintro front v w back rfl hne
    exact overwriteAll_congr fun name _ => lastNamed?_swap (Ne.symm hne) front back name
  · rintro front v middle w back rfl heq
    exact overwriteAll_congr fun name _ => (lastNamed?_drop heq front middle back name).symm

def namedTwice : List Parameter :=
  [ { name := "foo", value := "1" }, { name := "bar", value := "2" },
    { name := "foo", value := "3" } ]

/-- Updates of which two have one name and one has a name that the list does not know. -/
def mixedUpdates : List Parameter :=
  [ { name := "foo", value := "early" }, { name := "baz", value := "unheard" },
    { name := "foo", value := "late", forceString := true }, { name := "bar", value := "new" } ]

theorem overwriteAll_last_counts_repeated :
    (overwriteAll namedTwice mixedUpdates).2 = [true, false, true, true]
      ∧ (overwriteAll namedTwice mixedUpdates).1[0]?
        = some { name := "foo", value := "late", forceString := true }
      ∧ (overwriteAll namedTwice mixedUpdates).1[2]? = some { name := "foo", value := "3" }
      ∧ (overwriteAll namedTwice (mixedUpdates.take 2
          ++ [{ name := "bar", value := "new" }, ⟨"foo", "late", true⟩])).1
        = (overwriteAll namedTwice mixedUpdates).1
      ∧ (overwriteAll namedTwice (mixedUpdates.drop 1)).1
        = (overwriteAll namedTwice mixedUpdates).1 := by
  obtain ⟨-, -, hanswers, -, hplaces, hswap, hdrop⟩ :=
    overwriteAll_last_counts namedTwice mixedUpdates
  refine ⟨hanswers.trans (by decide), ?_, ?_, ?_, ?_⟩
  · exact (hplaces 0 _ rfl).trans (by decide)
  · exact (hplaces 2 _ rfl).trans (by decide)
  · exact hswap (mixedUpdates.take 2) _ _ [] rfl (by decide)
  · exact hdrop [] _ [{ name := "baz", value := "unheard" }] _ _ rfl (by decide)

end PatternSync.Parameter
