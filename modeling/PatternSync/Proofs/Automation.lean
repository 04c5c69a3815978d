import PatternSync.Proofs.Unmanaged

/-!
# Automatic deployment on and off

A pattern and the settings can each ask that a person agrees to new content. A run is a sequence of
passes over any patterns under any settings, so that the two flags change as they like. Main
statement: after a pass that succeeds the stored application deploys automatically exactly if
neither flag is set, and over the whole run no other setting of any sync policy is lost
(`automation_follows_flags`).

The induction is on the passes. What it carries: every stored application can be read, and there is
no null in its sync policy (`Application.Tended`).
-/

namespace PatternSync

open Json Pass Wire

/-! ## Stored sync policies -/

namespace Application

/-- The sync policy of a stored application, null if it has none. -/
def policyOf (stored : Json) : Json :=
  (stored.child "spec").child "syncPolicy"

/-- A stored application in the ordinary form without nulls in its sync policy. -/
structure Tended (stored : Json) : Prop extends Ordinary stored where
  policy : ∀ j ∈ (stored.child "spec").member? "syncPolicy", j.isNullFree = true

def isAutomated (stored : Json) : Bool :=
  ((policyOf stored).member? "automated").isSome

theorem member?_withVersion (stored : Json) (version : String) {key : String}
    (hkey : key ≠ "metadata") : (stored.withVersion version).member? key = stored.member? key := by
  rw [member?_eq stored]
  exact Keyed.get?_put_of_ne hkey _ _

theorem spec_withVersion (stored : Json) (version : String) :
    (stored.withVersion version).child "spec" = stored.child "spec" := by
  rw [child_eq, child_eq, member?_withVersion stored version (by decide)]

theorem Tended.syncPolicy_ofJson {stored : Json} (h : Tended stored) :
    (ofJson stored).spec.syncPolicy
      = ((stored.child "spec").member? "syncPolicy").map SyncPolicy.ofJson := by
  obtain ⟨spec, hspec⟩ := h.spec
  have hpolicy := h.policy
  rw [h.spec_ofJson]
  rw [hspec] at hpolicy ⊢
  exact optional_of_ne_null fun j hj => ne_null_of_isNullFree (hpolicy j hj)

theorem Tended.object_policy {stored : Json} (h : Tended stored) :
    ∀ j ∈ (stored.child "spec").member? "syncPolicy", ∃ members, j = .obj members := by
  intro j hj
  have hfield : ("syncPolicy", .optional, .nullable SyncPolicy.shape)
      ∈ ApplicationSpec.shape.fields := by
    simp [ApplicationSpec.shape, Shape.fields]
  have hshape := (suits_of_check h.check_spec).member? (by decide) hfield j hj
  exact object_of_keeping (check_of_nullable (ne_null_of_isNullFree (h.policy j hj)) hshape)

theorem Tended.automated_ofJson {stored : Json} (h : Tended stored) :
    (ofJson stored).automated?.isSome = isAutomated stored := by
  rw [automated?, h.syncPolicy_ofJson, isAutomated, policyOf, child_eq (stored.child "spec")]
  cases hmember : (stored.child "spec").member? "syncPolicy" with
  | none => rfl
  | some j =>
    obtain ⟨members, rfl⟩ := h.object_policy j hmember
    have hread := SyncPolicy.automated_ofJson (h.policy _ hmember)
    show (SyncPolicy.ofJson (.obj members)).automated.isSome = _
    rw [hread, Option.isSome_map]
    rfl

theorem policyOf_patchedDocument (stored : Json) (a : Application) (version : String) :
    policyOf (patchedDocument stored a version)
      = ((stored.child "spec").merge a.specChange).child "syncPolicy" := by
  rw [policyOf, patchedDocument, spec_withVersion, spec_merge]

end Application

/-! ## Nulls in policies -/

theorem AutomatedSync.isNullFree_toJson {a : AutomatedSync}
    (h : ∀ e ∈ a.extra, e.2.isNullFree = true) : a.toJson.isNullFree = true := by
  refine isNullFree_withExtra ?_ h
  simp [Json.isNullFree]

/-- Nothing that the policy does not know has a null. -/
structure SyncPolicy.NullFree (p : SyncPolicy) : Prop where
  extra : ∀ e ∈ p.extra, e.2.isNullFree = true
  automated : ∀ a ∈ p.automated, ∀ e ∈ a.extra, e.2.isNullFree = true

namespace SyncPolicy

theorem nullFree_ofJson {members : Keyed Json} (h : (Json.obj members).isNullFree = true) :
    (ofJson (.obj members)).NullFree where
  extra := fun _ he => isNullFree_of_mem h (List.mem_of_mem_filter he)
  automated := by
    intro a ha e he
    obtain ⟨k, hk, rfl⟩ := mem_optional ha
    have hfree : k.isNullFree = true := isNullFree_of_mem h (Keyed.mem_of_get? hk)
    exact isNullFree_of_mem hfree (List.mem_of_mem_filter he)

section

variable {p : SyncPolicy} (h : p.NullFree)

include h

theorem NullFree.fields : ∀ e ∈ [("automated", p.automated.map AutomatedSync.toJson)],
    ∀ j ∈ e.2, j.isNullFree = true := by
  intro e he j hj
  rw [List.mem_singleton.1 he] at hj
  obtain ⟨a, ha, rfl⟩ := Option.map_eq_some_iff.1 hj
  exact AutomatedSync.isNullFree_toJson (h.automated a ha)

theorem NullFree.toJson : p.toJson.isNullFree = true :=
  isNullFree_withExtra h.fields h.extra

/-- The null for an absent automated part removes it and does not stay. -/
theorem NullFree.merge {target : Json} (htarget : (Json.obj target.members).isNullFree = true) :
    (target.merge (Application.syncPolicyChange p)).isNullFree = true := by
  have hpolicy := h.toJson
  rw [SyncPolicy.toJson, withExtra_eq] at hpolicy
  rw [Application.syncPolicyChange_eq]
  refine isNullFree_mergeMembers _ (fun e he => ?_) _ htarget
  rcases Keyed.eq_or_mem_of_mem_put he with rfl | he
  · cases hautomated : p.automated with
    | none => exact .inl rfl
    | some a => exact .inr (AutomatedSync.isNullFree_toJson (h.automated a hautomated))
  · exact .inr ((isNullFree_obj.1 hpolicy).2 e he)

end

theorem nullFree_withAutomated {policy : Option SyncPolicy} {wanted : Option AutomatedSync}
    (hpolicy : ∀ p ∈ policy, p.NullFree)
    (hwanted : ∀ a ∈ wanted, ∀ e ∈ a.extra, e.2.isNullFree = true) :
    ∀ p ∈ Application.withAutomated policy wanted, p.NullFree := by
  intro p hp
  cases wanted with
  | some a =>
    cases hp
    cases policy with
    | none => exact ⟨fun _ he => absurd he List.not_mem_nil, hwanted⟩
    | some q => exact ⟨(hpolicy q rfl).extra, hwanted⟩
  | none =>
    obtain ⟨q, hq, rfl⟩ := Option.map_eq_some_iff.1 hp
    exact ⟨(hpolicy q hq).extra, by rintro a ⟨⟩⟩

theorem nullFree_update {goal live : Application}
    (hgoal : ∀ a ∈ goal.automated?, ∀ e ∈ a.extra, e.2.isNullFree = true)
    (hlive : ∀ p ∈ live.spec.syncPolicy, p.NullFree) :
    ∀ p ∈ (goal.update live).1.spec.syncPolicy, p.NullFree := by
  rw [Application.syncPolicy_update]
  split
  · exact hlive
  · exact nullFree_withAutomated hlive hgoal

end SyncPolicy

/-! ## Documents that are written -/

namespace Application

section

variable {a : Application} {version : String}

/-! ### A created application -/

theorem spec_toJson (a : Application) (version : String) :
    (a.toJson.withVersion version).child "spec" = a.spec.toJson := by
  rw [spec_withVersion, child_eq, toJson_eq, a.fills.member? (by decide)]
  rfl

theorem syncPolicy_toJson (s : ApplicationSpec) :
    s.toJson.member? "syncPolicy" = s.syncPolicy.map SyncPolicy.toJson := by
  rw [ApplicationSpec.toJson, objectOf_eq_withExtra, s.fills.member? (by decide)]
  simp [Keyed.get?]

theorem tended_toJson (htidy : a.Tidy) (hpolicy : ∀ p ∈ a.spec.syncPolicy, p.NullFree) :
    Tended (a.toJson.withVersion version) where
  readable := by
    obtain ⟨members, hmembers⟩ : ∃ members, a.toJson = .obj members := ⟨_, rfl⟩
    rw [hmembers]
    exact check_withVersion (hmembers ▸ check_toJson htidy) version
  document := ⟨_, rfl⟩
  spec := by
    rw [spec_toJson]
    exact ⟨_, objectOf_eq _⟩
  policy := by
    intro j hj
    rw [spec_toJson, syncPolicy_toJson] at hj
    obtain ⟨p, hp, rfl⟩ := Option.map_eq_some_iff.1 hj
    exact (hpolicy p hp).toJson

theorem isAutomated_toJson (htidy : a.Tidy) :
    isAutomated (a.toJson.withVersion version) = a.automated?.isSome := by
  rw [isAutomated, policyOf, spec_toJson, child_eq, syncPolicy_toJson, automated?]
  cases hpolicy : a.spec.syncPolicy with
  | none => rfl
  | some p =>
    have hmember : p.toJson.member? "automated" = p.automated.map AutomatedSync.toJson := by
      rw [SyncPolicy.toJson, (htidy.spec.syncPolicy p hpolicy).fills.member? (by decide)]
      simp [Keyed.get?]
    show (p.toJson.member? "automated").isSome = p.automated.isSome
    rw [hmember, Option.isSome_map]

/-! ### A patched application -/

variable {stored : Json}

theorem policy_of_null {o : Option Json} (h : ∀ j ∈ o, j.isNullFree = true) :
    (Json.obj (o.getD .null).members).isNullFree = true := by
  cases o with
  | none => rfl
  | some j => exact isNullFree_members (h j rfl)

theorem Tended.patched (h : Tended stored) (htidy : a.Tidy)
    (hpolicy : ∀ p ∈ a.spec.syncPolicy, p.NullFree) :
    Tended (patchedDocument stored a version) where
  readable := by
    obtain ⟨members, rfl⟩ := h.document
    obtain ⟨spec, hspec⟩ := h.spec
    exact check_patchedDocument htidy (member?_of_child hspec) h.readable version
  document := ⟨_, rfl⟩
  spec := by
    rw [patchedDocument, spec_withVersion, spec_merge]
    exact ⟨_, rfl⟩
  policy := by
    intro j hj
    rw [patchedDocument, spec_withVersion, spec_merge, syncPolicy_merge] at hj
    obtain ⟨p, hp, rfl⟩ := Option.map_eq_some_iff.1 hj
    rw [child_eq]
    exact (hpolicy p hp).merge (policy_of_null h.policy)

theorem isAutomated_patchedDocument (htidy : a.Tidy) :
    isAutomated (patchedDocument stored a version) = a.automated?.isSome := by
  rw [isAutomated, policyOf_patchedDocument, child_eq, syncPolicy_merge, automated?]
  cases hpolicy : a.spec.syncPolicy with
  | none => rfl
  | some p =>
    rw [Option.map_some, Option.getD_some,
      SyncPolicy.automated_merge (htidy.spec.syncPolicy p hpolicy), Option.isSome_map]
    rfl

end

/-- The patch of an update keeps what the sync policy has beside the presence of an automated
part. -/
theorem Tended.kept_policy {goal : Application} {stored : Json} (h : Tended stored)
    (hgoal : goal.Tidy) (version : String) :
    SyncPolicy.Kept (policyOf stored)
      (policyOf (patchedDocument stored (goal.update (.ofJson stored)).1 version)) := by
  have htidy := tidy_update hgoal (tidy_ofJson stored)
  have hspares := SyncPolicy.spares_update goal (.ofJson stored)
  obtain ⟨spec, hspec⟩ := h.spec
  have hpolicy := h.policy
  rw [h.spec_ofJson] at hspares
  rw [policyOf_patchedDocument, policyOf]
  rw [hspec] at hpolicy hspares ⊢
  exact kept_syncPolicy hpolicy htidy hspares

end Application

/-! ## Goals -/

namespace Pattern

variable (p : Pattern) (settings : Settings)

theorem automated_goal :
    (p.goal settings).automated?.isSome = !(p.manualSync || settings.manualSync) := by
  show ((p.syncPolicyGoal settings).bind (·.automated)).isSome = _
  unfold syncPolicyGoal
  cases p.manualSync || settings.manualSync <;> rfl

theorem nullFree_goal : ∀ policy ∈ (p.goal settings).spec.syncPolicy, policy.NullFree := by
  intro policy hpolicy
  have hwanted : policy ∈ p.syncPolicyGoal settings := hpolicy
  unfold syncPolicyGoal at hwanted
  split at hwanted
  · cases hwanted
  · cases hwanted
    refine ⟨fun e he => absurd he List.not_mem_nil, ?_⟩
    rintro a ⟨⟩ e he
    exact absurd he List.not_mem_nil

end Pattern

/-! ## Passes -/

/-- A pass over a pattern under some settings, with what becomes of its calls. -/
structure Visit where
  pattern : Pattern
  settings : Settings
  fates : List Fate

namespace Inventory

def Tended (s : Inventory) : Prop :=
  ∀ place j, s.stored place = some j → Application.Tended j

/-- Every stored application stays, and its sync policy is related to the one that it had. -/
def Keeps (related : Json → Json → Prop) (s after : Inventory) : Prop :=
  ∀ place before, s.stored place = some before → ∃ j, after.stored place = some j
    ∧ related (Application.policyOf before) (Application.policyOf j)

def visit? (s : Inventory) (v : Visit) : Option (Conduct Inventory (Except Failure SyncOutcome)) :=
  (Attempt.syncApplication v.pattern v.settings).run.conduct honest s v.fates

/-- The stored applications after some passes. -/
def tour? (s : Inventory) : List Visit → Option Inventory
  | [] => some s
  | v :: visits => (s.visit? v).bind fun r => tour? r.state visits

theorem keeps_refl {related : Json → Json → Prop} (hrefl : ∀ j, related j j) (s : Inventory) :
    s.Keeps related s :=
  fun _ before h => ⟨before, h, hrefl _⟩

theorem Tended.store {s : Inventory} (h : s.Tended) {place : Place} {document : Json}
    {version : String} (hdocument : Application.Tended (document.withVersion version)) :
    (s.store place document version).Tended := by
  intro q j hj
  simp only [Inventory.store] at hj
  split at hj
  · cases hj
    exact hdocument
  · exact h q j hj

theorem keeps_store {related : Json → Json → Prop} (hrefl : ∀ j, related j j) {s : Inventory}
    {place : Place} {document : Json} {version : String}
    (h : ∀ before ∈ s.stored place, related (Application.policyOf before)
      (Application.policyOf (document.withVersion version))) :
    s.Keeps related (s.store place document version) := by
  intro q before hbefore
  by_cases hq : q = place
  · exact ⟨_, if_pos hq, h before (hq ▸ hbefore)⟩
  · exact ⟨before, (if_neg hq).trans hbefore, hrefl _⟩

end Inventory

theorem AutomatedSync.kept_refl (j : Json) : Kept j j where
  members := fun _ _ => rfl
  prune := rfl
  selfHeal := rfl

theorem SyncPolicy.kept_refl (j : Json) : Kept j j where
  members := fun _ _ => rfl
  automated := fun _ hold _ hnew =>
    Option.some.inj (hold.symm.trans hnew) ▸ AutomatedSync.kept_refl _

section

variable {p : Pattern} {settings : Settings} {s after : Inventory}

theorem Application.Tended.nullFree_update {stored : Json} (h : Tended stored)
    (p : Pattern) (settings : Settings) :
    ∀ policy ∈ ((p.goal settings).update (.ofJson stored)).1.spec.syncPolicy, policy.NullFree := by
  refine SyncPolicy.nullFree_update ?_ ?_
  · intro a ha
    obtain ⟨policy, hpolicy, ha⟩ := Option.bind_eq_some_iff.1 ha
    exact (p.nullFree_goal settings policy hpolicy).automated a ha
  · intro policy hpolicy
    rw [h.syncPolicy_ofJson] at hpolicy
    obtain ⟨j, hj, rfl⟩ := Option.map_eq_some_iff.1 hpolicy
    obtain ⟨members, rfl⟩ := h.object_policy j hj
    exact SyncPolicy.nullFree_ofJson (h.policy _ hj)

namespace SyncEffect

theorem tended {v : Except Failure SyncOutcome} (h : SyncEffect p settings s after v)
    (hs : s.Tended) : after.Tended := by
  cases h with
  | failed => exact hs
  | inLine hstored hline => exact hs
  | created hnone =>
    exact hs.store (Application.tended_toJson (p.tidy_goal settings) (p.nullFree_goal settings))
  | patched hstored hcheck =>
    have hbefore := hs _ _ hstored
    exact hs.store (hbefore.patched (Application.tidy_update (p.tidy_goal settings)
      (Application.tidy_ofJson _)) (hbefore.nullFree_update p settings))

theorem keeps {v : Except Failure SyncOutcome} (h : SyncEffect p settings s after v)
    (hs : s.Tended) : s.Keeps SyncPolicy.Kept after := by
  cases h with
  | failed => exact Inventory.keeps_refl SyncPolicy.kept_refl s
  | inLine hstored hline => exact Inventory.keeps_refl SyncPolicy.kept_refl s
  | created hnone =>
    refine Inventory.keeps_store SyncPolicy.kept_refl fun before hbefore => ?_
    cases hnone.symm.trans hbefore
  | patched hstored hcheck =>
    refine Inventory.keeps_store SyncPolicy.kept_refl fun before hbefore => ?_
    obtain rfl := Option.some.inj (hstored.symm.trans hbefore)
    exact (hs _ _ hstored).kept_policy (p.tidy_goal settings) _

/-- After success the application is there, and it deploys automatically as the goal has it. -/
theorem isAutomated {outcome : SyncOutcome} (h : SyncEffect p settings s after (.ok outcome))
    (hs : s.Tended) : ∃ j, after.stored (p.home settings) = some j
      ∧ Application.isAutomated j = (p.goal settings).automated?.isSome := by
  cases h with
  | inLine hstored hline =>
    refine ⟨_, hstored, ?_⟩
    rw [← (hs _ _ hstored).automated_ofJson, hline.automated]
  | created hnone =>
    exact ⟨_, if_pos rfl, Application.isAutomated_toJson (p.tidy_goal settings)⟩
  | @patched stored version _ hstored hcheck =>
    have htidy := Application.tidy_update (p.tidy_goal settings) (Application.tidy_ofJson stored)
    have hline := Application.inLine_update (p.nodup_goal settings) (.ofJson stored)
    exact ⟨_, if_pos rfl,
      (Application.isAutomated_patchedDocument htidy).trans hline.automated.symm⟩

end SyncEffect

end

/-! ## Runs -/

namespace Inventory

theorem syncEffect_of_visit {s : Inventory} {visit : Visit}
    {r : Conduct Inventory (Except Failure SyncOutcome)} (h : s.visit? visit = some r) :
    SyncEffect visit.pattern visit.settings s r.state r.value := by
  obtain ⟨hcourse, htrail⟩ := conduct_iff.1 ⟨visit.fates, h⟩
  exact (syncCourse_of_course hcourse).effect htrail

theorem keeps_agreeBut_trans {names : List String} {s mid after : Inventory}
    (h₁ : s.Keeps (AgreeBut names) mid) (h₂ : mid.Keeps (AgreeBut names) after) :
    s.Keeps (AgreeBut names) after := by
  intro place before hbefore
  obtain ⟨j, hj, hfirst⟩ := h₁ place before hbefore
  obtain ⟨k, hk, hsecond⟩ := h₂ place j hj
  exact ⟨k, hk, fun key hkey => (hsecond key hkey).trans (hfirst key hkey)⟩

theorem keeps_members {s after : Inventory} (h : s.Keeps SyncPolicy.Kept after) :
    s.Keeps (AgreeBut SyncPolicy.shape.fieldNames) after := by
  intro place before hbefore
  obtain ⟨j, hj, hkept⟩ := h place before hbefore
  exact ⟨j, hj, hkept.members⟩

theorem Tended.tour {s mid : Inventory} (hs : s.Tended) {visits : List Visit}
    (h : s.tour? visits = some mid) :
    mid.Tended ∧ s.Keeps (AgreeBut SyncPolicy.shape.fieldNames) mid := by
  induction visits generalizing s with
  | nil =>
    cases h
    exact ⟨hs, keeps_refl (fun _ _ _ => rfl) _⟩
  | cons visit visits ih =>
    obtain ⟨r, hvisit, hrest⟩ := Option.bind_eq_some_iff.1 h
    have heffect := syncEffect_of_visit hvisit
    obtain ⟨hmid, hkeeps⟩ := ih (heffect.tended hs) hrest
    exact ⟨hmid, keeps_agreeBut_trans (keeps_members (heffect.keeps hs)) hkeeps⟩

end Inventory

/-- After any run, a pass that succeeds leaves an application that deploys automatically exactly if
neither flag asks for a person. The pass keeps every sync policy but for the presence of its
automated part, and so does the whole run for the other settings. -/
theorem automation_follows_flags {s mid : Inventory} {visits : List Visit} {visit : Visit}
    {last : Conduct Inventory (Except Failure SyncOutcome)} (hs : s.Tended)
    (htour : s.tour? visits = some mid) (hlast : mid.visit? visit = some last) :
    (∀ outcome, last.value = .ok outcome →
        ∃ j, last.state.stored (visit.pattern.home visit.settings) = some j
          ∧ (Application.isAutomated j = true
            ↔ visit.pattern.manualSync = false ∧ visit.settings.manualSync = false))
      ∧ mid.Keeps SyncPolicy.Kept last.state
      ∧ s.Keeps (AgreeBut SyncPolicy.shape.fieldNames) last.state := by
  obtain ⟨hmid, hkeeps⟩ := hs.tour htour
  have heffect := Inventory.syncEffect_of_visit hlast
  refine ⟨fun outcome houtcome => ?_, heffect.keeps hmid, ?_⟩
  · rw [houtcome] at heffect
    obtain ⟨j, hj, hautomated⟩ := heffect.isAutomated hmid
    refine ⟨j, hj, ?_⟩
    rw [hautomated, Pattern.automated_goal]
    simp
  · exact Inventory.keeps_agreeBut_trans hkeeps (Inventory.keeps_members (heffect.keeps hmid))

def hubVisit (manual : Bool) (version : String) : Visit where
  pattern :=
    { Pattern.hub with
      spec := { Pattern.hub.spec with gitOps := some { manualSync := manual } } }
  settings := {}
  fates := [.served .null "", .served .null version]

def tendedInventory : Inventory where
  stored place :=
    if place = { ns := "openshift-gitops", name := "mcg-hub" } then some Pattern.tendedStored
    else none

/-- The flag is set and taken back, and the other settings of the policy are still there. -/
theorem automation_follows_flags_toggled :
    ∃ mid last, tendedInventory.tour? [hubVisit true "8"] = some mid
      ∧ mid.visit? (hubVisit false "9") = some last
      ∧ (mid.stored (Pattern.hub.home {})).map Application.isAutomated = some false
      ∧ (last.state.stored (Pattern.hub.home {})).map Application.isAutomated = some true
      ∧ tendedInventory.Keeps (AgreeBut ["automated"]) last.state := by
  have hs : tendedInventory.Tended := by
    intro place j hj
    simp only [tendedInventory] at hj
    split at hj
    · cases hj
      refine ⟨⟨by decide, ⟨_, rfl⟩, ?_⟩, by decide⟩
      exact ⟨(Pattern.tendedStored.child "spec").members, by decide⟩
    · cases hj
  have hruns : (tendedInventory.tour? [hubVisit true "8"]).any (fun mid =>
      (mid.stored (Pattern.hub.home {})).map Application.isAutomated = some false
        && (mid.visit? (hubVisit false "9")).any fun last => last.value.isOk) = true := by
    decide +kernel
  obtain ⟨mid, htour, hmid⟩ := (Option.any_eq_true _ _).1 hruns
  obtain ⟨hmanual, hvisit⟩ := Bool.and_eq_true_iff.1 hmid
  obtain ⟨last, hlast, hok⟩ := (Option.any_eq_true _ _).1 hvisit
  obtain ⟨hautomated, -, hkeeps⟩ := automation_follows_flags hs htour hlast
  refine ⟨mid, last, htour, hlast, of_decide_eq_true hmanual, ?_, hkeeps⟩
  obtain ⟨outcome, hvalue⟩ := exists_ok_of_isOk hok
  obtain ⟨j, hj, hiff⟩ := hautomated outcome hvalue
  have hhome : (hubVisit false "9").pattern.home (hubVisit false "9").settings
      = Pattern.hub.home {} := rfl
  rw [hhome] at hj
  rw [hj, Option.map_some, hiff.2 ⟨rfl, rfl⟩]

end PatternSync
