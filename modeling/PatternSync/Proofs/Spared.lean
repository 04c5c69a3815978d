import PatternSync.Proofs.Lists
import PatternSync.Proofs.Settling

/-!
# What an update leaves alone

An update that meets the layout of its goal only merges helm settings into one source. Every source
keeps the members it does not know, and of the parameters those that the goal does not name, in
their order (`spares_update`). Whatever the layout, a sync policy keeps what it does not know, and
its automated part is only ever added or removed, never changed (`syncPolicy_update`).
-/

namespace PatternSync

/-! ## Parameters -/

namespace Parameter

/-- The parameters that bear none of the names, in their order. -/
def others (names : List String) (parameters : List Parameter) : List Parameter :=
  parameters.filter fun p => p.name ∉ names

section

variable {managed : List String} {wanted : Parameter}

theorem others_overwrite? (hwanted : wanted.name ∈ managed) {before after : List Parameter}
    (h : overwrite? wanted before = some after) : others managed after = others managed before := by
  induction before generalizing after with
  | nil => cases h
  | cons p rest ih =>
    unfold overwrite? at h
    split at h
    · rename_i hname
      cases h
      have hp : p.name ∈ managed := hname ▸ hwanted
      simp [others, hp]
    · obtain ⟨changed, hchanged, rfl⟩ := Option.map_eq_some_iff.1 h
      have hrest := ih hchanged
      by_cases hp : p.name ∈ managed
      · simpa [others, hp] using hrest
      · simpa [others, hp] using hrest

theorem others_upsert (hwanted : wanted.name ∈ managed) (parameters : List Parameter) :
    others managed (upsert parameters wanted) = others managed parameters := by
  unfold upsert
  cases h : overwrite? wanted parameters with
  | some after => exact others_overwrite? hwanted h
  | none => simp [others, hwanted]

/-- Parameters that no update names stay as they are, in their order. -/
theorem others_foldl_upsert {wanted : List Parameter} (hwanted : ∀ w ∈ wanted, w.name ∈ managed)
    (parameters : List Parameter) :
    others managed (wanted.foldl upsert parameters) = others managed parameters := by
  induction wanted generalizing parameters with
  | nil => rfl
  | cons w rest ih =>
    obtain ⟨hw, hrest⟩ := List.forall_mem_cons.1 hwanted
    rw [List.foldl_cons, ih hrest, others_upsert hw]

end

theorem names_prefix_upsert (parameters : List Parameter) (wanted : Parameter) :
    names parameters <+: names (upsert parameters wanted) := by
  rw [names_upsert]
  split
  · exact List.prefix_refl _
  · exact List.prefix_append _ _

/-- Updates move no parameter; new ones stand behind the others. -/
theorem names_prefix_foldl_upsert (wanted parameters : List Parameter) :
    names parameters <+: names (wanted.foldl upsert parameters) := by
  induction wanted generalizing parameters with
  | nil => exact List.prefix_refl _
  | cons w rest ih => exact (names_prefix_upsert parameters w).trans (ih _)

end Parameter

/-! ## Helm settings and sources -/

/-- Of the settings `before` everything stays that is not managed: members they do not know, and
the parameters that bear none of the names. -/
structure HelmSettings.Spares (managed : List String) (before after : HelmSettings) : Prop where
  extra : after.extra = before.extra
  others : Parameter.others managed after.parameters = Parameter.others managed before.parameters
  order : Parameter.names before.parameters <+: Parameter.names after.parameters

theorem HelmSettings.spares_refl (managed : List String) (h : HelmSettings) :
    Spares managed h h where
  extra := rfl
  others := rfl
  order := List.prefix_refl _

theorem HelmSettings.spares_merge (wanted current : HelmSettings) :
    Spares (Parameter.names wanted.parameters) current (wanted.merge current) where
  extra := rfl
  others := Parameter.others_foldl_upsert (fun _ hw => List.mem_map_of_mem hw) _
  order := Parameter.names_prefix_foldl_upsert _ _

/-- Of the source `before` everything stays that is not managed. -/
structure Source.Spares (managed : List String) (before after : Source) : Prop where
  extra : after.extra = before.extra
  helm : Option.Rel (HelmSettings.Spares managed) before.helm after.helm

theorem Source.spares_refl (managed : List String) (s : Source) : Spares managed s s where
  extra := rfl
  helm := optionRel_refl (HelmSettings.spares_refl managed) _

/-- A source with other helm settings keeps what these keep. -/
theorem Source.spares_withHelm? {managed : List String} {h k : HelmSettings} {s t : Source}
    (ht : s.withHelm? h = some t) (hk : s.helm = some k) (hspares : k.Spares managed h) :
    Spares managed s t where
  extra := by
    obtain ⟨-, rfl⟩ := withHelm?_eq_some_iff.1 ht
    rfl
  helm := by
    rw [hk, helm_withHelm? ht]
    exact .some hspares

/-- Changing the last entry relates each entry to itself, and the changed one to what became of
it. -/
theorem forall₂_changeLast? {α β : Type} {change : α → Option α} {find : α → Option β}
    {R : α → α → Prop} (hrefl : ∀ a, R a a) {b : β}
    (hchange : ∀ x y, change x = some y → find x = some b → R x y)
    (hsame : ∀ a, change a = none ↔ find a = none) {before after : List α}
    (h : changeLast? change before = some after) (hfind : findLast? find before = some b) :
    List.Forall₂ R before after := by
  obtain ⟨front, a, y, back, rfl, rfl, hay, hback⟩ := changeLast?_eq_some_iff.1 h
  have hfound : find a = some b := by
    cases hc : find a with
    | none =>
      rw [(hsame a).2 hc] at hay
      cases hay
    | some c =>
      have hlast : findLast? find (front ++ a :: back) = some c :=
        findLast?_eq_some_iff.2 ⟨front, a, back, rfl, hc, fun x hx => (hsame x).1 (hback x hx)⟩
      exact hlast.symm.trans hfind
  have hkept : ∀ items : List α, List.Forall₂ R items items := fun items =>
    List.forall₂_same.2 fun x _ => hrefl x
  exact List.rel_append (hkept front) (.cons (hchange a y hay hfound) (hkept back))

/-! ## Applications -/

namespace Application

/-- Of the sources of `before` everything stays that is not managed. -/
structure Spares (managed : List String) (before after : Application) : Prop where
  source : Option.Rel (Source.Spares managed) before.spec.source after.spec.source
  sources : List.Forall₂ (Source.Spares managed) before.spec.sources after.spec.sources

theorem spares_refl (managed : List String) (a : Application) : Spares managed a a where
  source := optionRel_refl (Source.spares_refl managed) _
  sources := List.forall₂_same.2 fun s _ => Source.spares_refl managed s

def managedNames (goal : Application) : List String :=
  Parameter.names goal.helmOrEmpty.parameters

theorem spares_setHelm? {managed : List String} {a b : Application} {h k : HelmSettings}
    (hb : a.setHelm? h = some b) (hk : a.helm? = some k) (hspares : k.Spares managed h) :
    Spares managed a b := by
  unfold setHelm? at hb
  split at hb
  · rename_i s hs
    obtain ⟨t, ht, rfl⟩ := Option.map_eq_some_iff.1 hb
    rw [helm?_of_source hs] at hk
    refine ⟨?_, (spares_refl managed a).sources⟩
    rw [hs]
    exact .some (Source.spares_withHelm? ht hk hspares)
  · rename_i hs
    obtain ⟨sources, hsources, rfl⟩ := Option.map_eq_some_iff.1 hb
    simp only [helm?, hs] at hk
    refine ⟨(spares_refl managed a).source, ?_⟩
    exact forall₂_changeLast? (Source.spares_refl managed)
      (fun _ _ hy hx => Source.spares_withHelm? hy hx hspares)
      (fun _ => Source.withHelm?_eq_none_iff) hsources hk

section

variable {goal live changed : Application}

theorem spares_updateSources? (hsame : sameLayout goal live = true)
    (h : updateSources? goal live = some changed) : Spares goal.managedNames live changed := by
  unfold updateSources? at h
  rw [if_pos hsame] at h
  split at h
  · rename_i wanted current hwanted hcurrent
    dsimp only at h
    split at h
    · cases h
    · refine spares_setHelm? h hcurrent ?_
      rw [managedNames, helmOrEmpty, hwanted, Option.getD_some]
      exact HelmSettings.spares_merge wanted current
  · cases h

end

/-- An update of an application that has the layout of its goal keeps what is not managed. -/
theorem spares_update {goal live : Application} (hsame : sameLayout goal live = true) :
    Spares goal.managedNames live (goal.update live).1 := by
  have hsources : Spares goal.managedNames live ((updateSources? goal live).getD live) := by
    cases h : updateSources? goal live with
    | none => exact spares_refl _ live
    | some changed => exact spares_updateSources? hsame h
  obtain ⟨hsource, hlist⟩ := sources_update goal live
  exact ⟨hsource ▸ hsources.source, hlist ▸ hsources.sources⟩

theorem syncPolicy_update (goal live : Application) :
    (goal.update live).1.spec.syncPolicy
      = if goal.automated?.isSome = live.automated?.isSome then live.spec.syncPolicy
        else withAutomated live.spec.syncPolicy goal.automated? := by
  obtain ⟨sourced, hsourced⟩ : ∃ a, (updateSources? goal live).getD live = a := ⟨_, rfl⟩
  have hpolicy : sourced.spec.syncPolicy = live.spec.syncPolicy := by
    cases h : updateSources? goal live with
    | none =>
      rw [h] at hsourced
      cases hsourced
      rfl
    | some changed =>
      rw [h] at hsourced
      cases hsourced
      rw [updateSources?_frame h]
      rfl
  have hautomated : sourced.automated? = live.automated? := by
    rw [automated?, automated?, hpolicy]
  rw [Application.update]
  simp only [hsourced, updateSync?, hautomated, hpolicy]
  split
  · exact hpolicy
  · rfl

end Application

/-! ## Sync policies -/

/-- The sync policy `before` keeps what it does not know, and an automated part that it had. -/
structure SyncPolicy.Spares (before after : Option SyncPolicy) : Prop where
  gone : after = none → before = none
  extra : ∀ p ∈ after, p.extra = (before.getD {}).extra
  automated : ∀ old ∈ before.bind (·.automated), ∀ new ∈ after.bind (·.automated), new = old

theorem SyncPolicy.spares_refl (policy : Option SyncPolicy) : Spares policy policy where
  gone := id
  extra := by
    rintro p hp
    rw [Option.mem_def.1 hp, Option.getD_some]
  automated := fun _ hold _ hnew => Option.some.inj (hnew.symm.trans hold)

theorem SyncPolicy.spares_withAutomated {policy : Option SyncPolicy}
    {wanted : Option AutomatedSync} (h : wanted.isSome ≠ (policy.bind (·.automated)).isSome) :
    Spares policy (Application.withAutomated policy wanted) := by
  cases wanted with
  | none =>
    refine ⟨Option.map_eq_none_iff.1, ?_, ?_⟩
    · intro p hp
      obtain ⟨q, rfl, rfl⟩ := Option.map_eq_some_iff.1 hp
      rfl
    · intro old hold new hnew
      cases (Application.automated?_withAutomated policy none).symm.trans hnew
  | some a =>
    refine ⟨by rintro ⟨⟩, ?_, ?_⟩
    · rintro p ⟨⟩
      rfl
    · intro old hold new hnew
      rw [Option.mem_def.1 hold] at h
      exact absurd rfl h

theorem SyncPolicy.spares_update (goal live : Application) :
    Spares live.spec.syncPolicy (goal.update live).1.spec.syncPolicy := by
  rw [Application.syncPolicy_update]
  split
  · exact spares_refl _
  · rename_i hdiffers
    exact spares_withAutomated hdiffers

end PatternSync
