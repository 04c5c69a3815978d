import PatternSync.Application.Update
import PatternSync.Proofs.HelmMerge

/-!
# Applications in line with their goal

`InLine goal live` says that an update has nothing to do: the layouts agree, merging the wanted
helm settings changes none of the live ones, and the automated part of the sync policy is there or
not as wanted. Main statements: an update reports no change exactly then (`update_snd`), and an
update brings every application in line as long as the wanted parameters have distinct names
(`inLine_update`).
-/

namespace PatternSync

/-! ## Origins -/

namespace Source

/-- What a source brings, without its helm settings and the members that are not known. -/
def origin (s : Source) : Source :=
  { s with helm := none, extra := [] }

theorem sameOrigin_iff {a b : Source} : a.sameOrigin b = true ↔ a.origin = b.origin := by
  obtain ⟨⟩ := a
  obtain ⟨⟩ := b
  simp [sameOrigin, origin, and_assoc]

theorem withHelm?_eq_some_iff {h : HelmSettings} {s t : Source} :
    s.withHelm? h = some t ↔ s.helm.isSome = true ∧ t = { s with helm := some h } := by
  cases hs : s.helm <;> simp [withHelm?, hs, eq_comm]

theorem origin_withHelm? {h : HelmSettings} {s t : Source} (ht : s.withHelm? h = some t) :
    t.origin = s.origin := by
  obtain ⟨-, rfl⟩ := withHelm?_eq_some_iff.1 ht
  rfl

theorem helm_withHelm? {h : HelmSettings} {s t : Source} (ht : s.withHelm? h = some t) :
    t.helm = some h := by
  obtain ⟨-, rfl⟩ := withHelm?_eq_some_iff.1 ht
  rfl

theorem withHelm?_eq_none_iff {h : HelmSettings} {s : Source} :
    s.withHelm? h = none ↔ s.helm = none := by
  cases hs : s.helm <;> simp [withHelm?, hs]

end Source

/-! ## The last entry of a list -/

section

variable {α β : Type} {change : α → Option α}

theorem changeLast?_cons (a : α) (rest : List α) :
    changeLast? change (a :: rest)
      = ((changeLast? change rest).map (a :: ·)).or ((change a).map (· :: rest)) := by
  cases h : changeLast? change rest <;> simp [changeLast?, h]

theorem findLast?_cons (find : α → Option β) (a : α) (rest : List α) :
    findLast? find (a :: rest) = (findLast? find rest).or (find a) := by
  cases h : findLast? find rest <;> simp [findLast?, h]

theorem changeLast?_eq_none_iff {items : List α} :
    changeLast? change items = none ↔ ∀ a ∈ items, change a = none := by
  induction items with
  | nil => simp [changeLast?]
  | cons a rest ih => simp [changeLast?_cons, ih, and_comm]

theorem findLast?_eq_none_iff {find : α → Option β} {items : List α} :
    findLast? find items = none ↔ ∀ a ∈ items, find a = none := by
  induction items with
  | nil => simp [findLast?]
  | cons a rest ih => simp [findLast?_cons, ih, and_comm]

/-- A change divides the list at the last entry that can be changed. -/
theorem changeLast?_eq_some_iff {before after : List α} :
    changeLast? change before = some after
      ↔ ∃ front a b back, before = front ++ a :: back ∧ after = front ++ b :: back
        ∧ change a = some b ∧ ∀ x ∈ back, change x = none := by
  constructor
  · intro h
    induction before generalizing after with
    | nil => cases h
    | cons a rest ih =>
      rw [changeLast?_cons] at h
      rcases Option.or_eq_some_iff.1 h with hrest | ⟨hrest, hfirst⟩
      · obtain ⟨changed, hchanged, rfl⟩ := Option.map_eq_some_iff.1 hrest
        obtain ⟨front, x, y, back, rfl, rfl, hxy, hback⟩ := ih hchanged
        exact ⟨a :: front, x, y, back, rfl, rfl, hxy, hback⟩
      · obtain ⟨b, hb, rfl⟩ := Option.map_eq_some_iff.1 hfirst
        have hback := changeLast?_eq_none_iff.1 (Option.map_eq_none_iff.1 hrest)
        exact ⟨[], a, b, rest, rfl, rfl, hb, hback⟩
  · rintro ⟨front, a, b, back, rfl, rfl, hab, hback⟩
    induction front with
    | nil =>
      rw [List.nil_append, changeLast?_cons, changeLast?_eq_none_iff.2 hback, hab]
      rfl
    | cons x front ih =>
      rw [List.cons_append, changeLast?_cons, ih]
      rfl

/-- What is found stands in the last entry in which something is found. -/
theorem findLast?_eq_some_iff {find : α → Option β} {items : List α} {b : β} :
    findLast? find items = some b
      ↔ ∃ front a back, items = front ++ a :: back ∧ find a = some b
        ∧ ∀ x ∈ back, find x = none := by
  constructor
  · intro h
    induction items with
    | nil => cases h
    | cons a rest ih =>
      rw [findLast?_cons] at h
      rcases Option.or_eq_some_iff.1 h with hrest | ⟨hrest, hfirst⟩
      · obtain ⟨front, x, back, rfl, hx, hback⟩ := ih hrest
        exact ⟨a :: front, x, back, rfl, hx, hback⟩
      · exact ⟨[], a, rest, rfl, hfirst, findLast?_eq_none_iff.1 hrest⟩
  · rintro ⟨front, a, back, rfl, ha, hback⟩
    induction front with
    | nil => rw [List.nil_append, findLast?_cons, findLast?_eq_none_iff.2 hback, Option.none_or, ha]
    | cons x front ih => rw [List.cons_append, findLast?_cons, ih, Option.some_or]

/-- Changing the last entry keeps whatever a single change keeps. -/
theorem map_changeLast? {view : α → β} (hview : ∀ a b, change a = some b → view b = view a)
    {before after : List α} (h : changeLast? change before = some after) :
    after.map view = before.map view := by
  obtain ⟨front, a, b, back, rfl, rfl, hab, -⟩ := changeLast?_eq_some_iff.1 h
  rw [List.map_append, List.map_append, List.map_cons, List.map_cons, hview a b hab]

theorem exists_of_findLast? {find : α → Option β} {items : List α} {b : β}
    (h : findLast? find items = some b) : ∃ a ∈ items, find a = some b := by
  obtain ⟨front, a, back, rfl, ha, -⟩ := findLast?_eq_some_iff.1 h
  exact ⟨a, List.mem_append_right _ List.mem_cons_self, ha⟩

theorem mem_changeLast? {before after : List α} (h : changeLast? change before = some after)
    {b : α} (hb : b ∈ after) : b ∈ before ∨ ∃ a ∈ before, change a = some b := by
  obtain ⟨front, a, c, back, rfl, rfl, hac, -⟩ := changeLast?_eq_some_iff.1 h
  rcases List.mem_append.1 hb with hfront | hb
  · exact .inl (List.mem_append_left _ hfront)
  · rcases List.mem_cons.1 hb with rfl | hback
    · exact .inr ⟨a, List.mem_append_right _ List.mem_cons_self, hac⟩
    · exact .inl (List.mem_append_right _ (List.mem_cons_of_mem _ hback))

/-- What is found last is what the last entry was changed to. -/
theorem findLast?_changeLast? {find : α → Option β} {b : β}
    (hfind : ∀ x y, change x = some y → find y = some b)
    (hsame : ∀ a, change a = none ↔ find a = none) {before after : List α}
    (h : changeLast? change before = some after) : findLast? find after = some b := by
  obtain ⟨front, a, c, back, rfl, rfl, hac, hback⟩ := changeLast?_eq_some_iff.1 h
  exact findLast?_eq_some_iff.2
    ⟨front, c, back, rfl, hfind a c hac, fun x hx => (hsame x).1 (hback x hx)⟩

end

/-! ## Layouts -/

namespace Application

/-- Everything that a layout says: whether there is a single source, the origins of the sources in
their order, and whether there are helm settings. -/
def layout (a : Application) : Bool × List Source × Bool :=
  (a.spec.source.isSome, a.allSources.map Source.origin, a.helm?.isSome)

theorem helm?_of_source {a : Application} {s : Source} (h : a.spec.source = some s) :
    a.helm? = s.helm := by
  simp only [helm?, h]

theorem helm?_congr {a b : Application} (hsource : b.spec.source = a.spec.source)
    (hsources : b.spec.sources = a.spec.sources) : b.helm? = a.helm? := by
  simp only [helm?, hsource, hsources]

theorem layout_congr {a b : Application} (hsource : b.spec.source = a.spec.source)
    (hsources : b.spec.sources = a.spec.sources) : b.layout = a.layout := by
  simp only [layout, allSources, hsource, hsources, helm?_congr hsource hsources]

theorem allSources_of_source {a : Application} {s : Source} (h : a.spec.source = some s) :
    a.allSources = [s] := by
  simp only [allSources, h]

theorem sameLayout_iff {goal live : Application} :
    sameLayout goal live = true ↔ goal.layout = live.layout := by
  have hzip : ∀ as bs : List Source,
      ((as.length == bs.length) = true
        ∧ (as.zip bs).all (fun pair => pair.1.sameOrigin pair.2) = true)
        ↔ as.map Source.origin = bs.map Source.origin := by
    intro as
    induction as with
    | nil =>
      intro bs
      cases bs <;> simp
    | cons a rest ih =>
      intro bs
      cases bs with
      | nil => simp
      | cons b more =>
        have hrest := ih more
        simp only [beq_iff_eq] at hrest
        simp only [List.length_cons, beq_iff_eq, Nat.add_right_cancel_iff, List.zip_cons_cons,
          List.all_cons, Bool.and_eq_true, List.map_cons, List.cons.injEq, ← hrest,
          Source.sameOrigin_iff]
        exact and_left_comm
  rw [layout, layout, Prod.mk.injEq, Prod.mk.injEq, ← hzip]
  simp [sameLayout, and_assoc]

/-! ## Places of the helm settings -/

theorem setHelm?_eq_none_iff {a : Application} {h : HelmSettings} :
    a.setHelm? h = none ↔ a.helm? = none := by
  unfold setHelm? helm?
  split
  · rw [Option.map_eq_none_iff, Source.withHelm?_eq_none_iff]
  · rw [Option.map_eq_none_iff, changeLast?_eq_none_iff, findLast?_eq_none_iff]
    exact forall₂_congr fun _ _ => Source.withHelm?_eq_none_iff

theorem helm?_setHelm? {a b : Application} {h : HelmSettings} (hb : a.setHelm? h = some b) :
    b.helm? = some h := by
  unfold setHelm? at hb
  split at hb
  · obtain ⟨t, ht, rfl⟩ := Option.map_eq_some_iff.1 hb
    exact Source.helm_withHelm? ht
  · rename_i hsource
    obtain ⟨sources, hsources, rfl⟩ := Option.map_eq_some_iff.1 hb
    simp only [helm?, hsource]
    exact findLast?_changeLast? (fun _ _ => Source.helm_withHelm?)
      (fun _ => Source.withHelm?_eq_none_iff) hsources

theorem layout_setHelm? {a b : Application} {h : HelmSettings} (hb : a.setHelm? h = some b) :
    b.layout = a.layout := by
  have hhelm : b.helm?.isSome = a.helm?.isSome := by
    cases ha : a.helm? with
    | none =>
      rw [setHelm?_eq_none_iff.2 ha] at hb
      cases hb
    | some k =>
      rw [helm?_setHelm? hb]
      rfl
  unfold setHelm? at hb
  split at hb
  · rename_i s hs
    obtain ⟨t, ht, rfl⟩ := Option.map_eq_some_iff.1 hb
    simp only [layout, hhelm]
    simp [allSources, hs, Source.origin_withHelm? ht]
  · rename_i hs
    obtain ⟨sources, hsources, rfl⟩ := Option.map_eq_some_iff.1 hb
    have horigins : sources.map Source.origin = a.spec.sources.map Source.origin :=
      map_changeLast? (fun _ _ => Source.origin_withHelm?) hsources
    simp only [layout, hhelm]
    simp [allSources, hs, horigins]

theorem setHelm?_frame {a b : Application} {h : HelmSettings} (hb : a.setHelm? h = some b) :
    b = { a with spec := { a.spec with source := b.spec.source, sources := b.spec.sources } } := by
  unfold setHelm? at hb
  split at hb
  all_goals
    obtain ⟨-, -, rfl⟩ := Option.map_eq_some_iff.1 hb
    rfl

/-! ## Nothing to do -/

/-- An update of the live application has nothing to do. -/
structure InLine (goal live : Application) : Prop where
  layout : goal.layout = live.layout
  helm : ∀ wanted ∈ goal.helm?, ∀ current ∈ live.helm?, wanted.merge current = current
  automated : goal.automated?.isSome = live.automated?.isSome

/-- Only the sources and the presence of the automated part count. -/
theorem InLine.congr {goal a b : Application} (h : InLine goal a)
    (hsource : b.spec.source = a.spec.source) (hsources : b.spec.sources = a.spec.sources)
    (hautomated : b.automated?.isSome = a.automated?.isSome) : InLine goal b where
  layout := h.layout.trans (layout_congr hsource hsources).symm
  helm := by
    rw [helm?_congr hsource hsources]
    exact h.helm
  automated := h.automated.trans hautomated.symm

theorem inLine_self {goal : Application}
    (hnodup : ∀ k ∈ goal.helm?, (Parameter.names k.parameters).Nodup) : InLine goal goal where
  layout := rfl
  helm := by
    intro wanted hwanted current hcurrent
    rw [Option.mem_def.1 hwanted] at hcurrent
    cases hcurrent
    exact HelmSettings.merge_self (hnodup wanted hwanted)
  automated := rfl

theorem updateSources?_eq_none_iff {goal live : Application} :
    updateSources? goal live = none ↔ goal.layout = live.layout
      ∧ ∀ wanted ∈ goal.helm?, ∀ current ∈ live.helm?, wanted.merge current = current := by
  unfold updateSources?
  rw [← sameLayout_iff]
  by_cases hsame : sameLayout goal live
  · rw [if_pos hsame]
    cases hgoal : goal.helm? with
    | none => simp [hsame]
    | some wanted =>
      cases hlive : live.helm? with
      | none => simp [hsame]
      | some current =>
        by_cases hmerge : wanted.merge current = current
        · simp [hsame, hmerge]
        · have hset : live.setHelm? (wanted.merge current) ≠ none := fun hnone => by
            rw [setHelm?_eq_none_iff.1 hnone] at hlive
            cases hlive
          simp [hmerge, hset]
  · simp [hsame]

theorem updateSync?_eq_none_iff {goal live : Application} :
    updateSync? goal live = none ↔ goal.automated?.isSome = live.automated?.isSome := by
  simp [updateSync?]

/-- An update that is done has the automated part of the goal, there or not. -/
theorem automated?_withAutomated (policy : Option SyncPolicy) (wanted : Option AutomatedSync) :
    (withAutomated policy wanted).bind (·.automated) = wanted := by
  cases wanted <;> cases policy <;> rfl

theorem updateSources?_frame {goal live changed : Application}
    (h : updateSources? goal live = some changed) :
    changed = { live with
      spec := { live.spec with source := changed.spec.source, sources := changed.spec.sources } } := by
  unfold updateSources? at h
  split at h
  · split at h
    · dsimp only at h
      split at h
      · cases h
      · exact setHelm?_frame h
    · cases h
  · cases h
    rfl

theorem updateSync?_frame {goal live changed : Application}
    (h : updateSync? goal live = some changed) :
    changed = { live with spec := { live.spec with syncPolicy := changed.spec.syncPolicy } } := by
  unfold updateSync? at h
  split at h
  · cases h
  · cases h
    rfl

theorem sources_update (goal live : Application) :
    (goal.update live).1.spec.source = ((updateSources? goal live).getD live).spec.source
      ∧ (goal.update live).1.spec.sources = ((updateSources? goal live).getD live).spec.sources := by
  rw [Application.update]
  dsimp only
  cases h : updateSync? goal ((updateSources? goal live).getD live) with
  | none => exact ⟨rfl, rfl⟩
  | some changed =>
    rw [Option.getD_some, updateSync?_frame h]
    exact ⟨rfl, rfl⟩

/-- An update touches nothing but the sources and the sync policy. -/
theorem update_frame (goal live : Application) :
    let spec := (goal.update live).1.spec
    (goal.update live).1 = { live with
      spec := { live.spec with
        source := spec.source, sources := spec.sources, syncPolicy := spec.syncPolicy } } := by
  obtain ⟨sourced, hsourced⟩ : ∃ a, (updateSources? goal live).getD live = a := ⟨_, rfl⟩
  have hframe : sourced = { live with
      spec := { live.spec with
        source := sourced.spec.source, sources := sourced.spec.sources } } := by
    rw [← hsourced]
    cases h : updateSources? goal live with
    | none => rfl
    | some changed => exact updateSources?_frame h
  rw [Application.update]
  simp only [hsourced]
  cases h : updateSync? goal sourced with
  | none => rw [Option.getD_none, hframe]
  | some changed => rw [Option.getD_some, updateSync?_frame h, hframe]

theorem automated?_updateSources? {goal live changed : Application}
    (h : updateSources? goal live = some changed) : changed.automated? = live.automated? := by
  rw [updateSources?_frame h]
  rfl

theorem updateSync?_updateSources? (goal live : Application) :
    updateSync? goal ((updateSources? goal live).getD live) = none
      ↔ updateSync? goal live = none := by
  rw [updateSync?_eq_none_iff, updateSync?_eq_none_iff]
  cases h : updateSources? goal live with
  | none => rfl
  | some changed => rw [Option.getD_some, automated?_updateSources? h]

/-- An update reports a change exactly when there is something to do. -/
theorem update_snd {goal live : Application} :
    (goal.update live).2 = false ↔ InLine goal live := by
  have hsync := updateSync?_updateSources? goal live
  simp only [Application.update, Bool.or_eq_false_iff, Option.isSome_eq_false_iff,
    Option.isNone_iff_eq_none, hsync, updateSources?_eq_none_iff, updateSync?_eq_none_iff]
  exact ⟨fun ⟨⟨hlayout, hhelm⟩, hautomated⟩ => ⟨hlayout, hhelm, hautomated⟩,
    fun ⟨hlayout, hhelm, hautomated⟩ => ⟨⟨hlayout, hhelm⟩, hautomated⟩⟩

theorem InLine.update {goal live : Application} (h : InLine goal live) :
    goal.update live = (live, false) := by
  have hsources := updateSources?_eq_none_iff.2 ⟨h.layout, h.helm⟩
  have hsync := updateSync?_eq_none_iff.2 h.automated
  simp [Application.update, hsources, hsync]

/-! ## What an update achieves -/

section

variable {goal live changed : Application}

/-- Changed sources are the wanted ones, or keep their layout and have the wanted settings. -/
theorem layout_updateSources? (h : updateSources? goal live = some changed) :
    goal.layout = changed.layout := by
  unfold updateSources? at h
  split at h
  · rename_i hsame
    rw [sameLayout_iff.1 hsame]
    split at h
    · dsimp only at h
      split at h
      · cases h
      · exact (layout_setHelm? h).symm
    · cases h
  · cases h
    rfl

theorem merge_updateSources? (hnodup : ∀ k ∈ goal.helm?, (Parameter.names k.parameters).Nodup)
    (h : updateSources? goal live = some changed) :
    ∀ wanted ∈ goal.helm?, ∀ current ∈ changed.helm?, wanted.merge current = current := by
  intro wanted hwanted current hcurrent
  unfold updateSources? at h
  split at h
  · split at h
    · rename_i wanted' earlier hgoal hlive
      dsimp only at h
      split at h
      · cases h
      · rw [helm?_setHelm? h] at hcurrent
        rw [hgoal] at hwanted
        cases hwanted
        cases hcurrent
        exact HelmSettings.merge_merge (hnodup wanted hgoal) earlier
    · cases h
  · cases h
    have hsame : goal.helm? = some current := hcurrent
    rw [Option.mem_def.1 hwanted] at hsame
    cases hsame
    exact HelmSettings.merge_self (hnodup wanted hwanted)

end

/-- An update brings an application in line. -/
theorem inLine_update {goal : Application}
    (hnodup : ∀ k ∈ goal.helm?, (Parameter.names k.parameters).Nodup) (live : Application) :
    InLine goal (goal.update live).1 := by
  obtain ⟨sourced, hsourced⟩ : ∃ a, (updateSources? goal live).getD live = a := ⟨_, rfl⟩
  have hsources : goal.layout = sourced.layout
      ∧ ∀ wanted ∈ goal.helm?, ∀ current ∈ sourced.helm?, wanted.merge current = current := by
    cases h : updateSources? goal live with
    | none =>
      rw [h] at hsourced
      cases hsourced
      exact updateSources?_eq_none_iff.1 h
    | some changed =>
      rw [h] at hsourced
      cases hsourced
      exact ⟨layout_updateSources? h, merge_updateSources? hnodup h⟩
  obtain ⟨hlayout, hhelm⟩ := hsources
  rw [Application.update]
  simp only [hsourced]
  cases hsync : updateSync? goal sourced with
  | none => exact ⟨hlayout, hhelm, updateSync?_eq_none_iff.1 hsync⟩
  | some changed =>
    unfold updateSync? at hsync
    split at hsync
    · cases hsync
    · cases hsync
      refine ⟨hlayout, hhelm, ?_⟩
      exact congrArg Option.isSome (automated?_withAutomated _ _).symm

end Application

end PatternSync
