import PatternSync.Proofs.Conduct
import PatternSync.Proofs.Writes

/-!
# What is left when a pattern is gone

The life of one pattern: passes over it, in which any call may fail, and in any order with them
edits of the pattern and of the settings. Where the application is looked for is computed anew by
each pass, from the pattern and the settings that it finds. Main statement: when the finalizer is
removed, the applications that still exist are those that earlier passes left at other places, so
that there is none exactly if all that was left is where the last pass looks (`orphan_free_iff`).

The induction is on the events. What it carries: the stored applications are those that passes
have created and not deleted, by the places that held at the time (`Life.Accounted`).
-/

namespace PatternSync

open Json Pass

/-! ## Lives -/

/-- A pattern and what has come of it. -/
structure Life where
  /-- The members of the stored pattern. -/
  members : Keyed Json
  /-- The stored map of settings. -/
  data : Option Json := none
  inventory : Inventory := {}
  /-- Where passes have created applications that no pass has deleted. No pass sees this. -/
  left : List Place := []

namespace Life

def pattern (l : Life) : Pattern :=
  .ofJson (.obj l.members)

/-- The settings as a pass finds them, if they are valid. -/
def settings? (l : Life) : Option Settings :=
  match l.data with
  | none => some {}
  | some map => (Settings.ofData (settingsMapData map)).toOption

def home? (l : Life) : Option Place :=
  l.settings?.map l.pattern.home

def isHeld (l : Life) : Bool :=
  l.pattern.finalizerIndex?.isSome

/-- The life after a change of the pattern, if the server accepts it. -/
def patch? (l : Life) (c : Call) : Option Life :=
  match Server.patched (.obj l.members) c.verb with
  | .ok (.obj members) => some { l with members }
  | _ => none

/-- The places after a call was carried out. -/
def leftAfter (l : Life) : Call → List Place
  | .createApplication _ _ => l.home?.toList ++ l.left
  | .deleteApplication _ _ => l.left.filter fun place => l.home? ≠ some place
  | _ => l.left

/-- What comes of reading the settings. Settings that exist are not denied. -/
def settingsAnswer? (l : Life) : Fate → Option (Except ApiFailure Json)
  | .served _ _ => l.data.map .ok
  | .refused f | .lost f _ => if f.isAbsence && l.data.isSome then none else some (.error f)

/-- Serves a call that changes the pattern. -/
def servePatch : Handler Life :=
  Handler.plain fun l _ c => l.patch? c

/-- Serves a call about applications, or one that changes nothing. -/
def serveApplication : Handler Life := fun l c fate =>
  (l.inventory.honest c fate).map fun (result, inventory) =>
    (result, { l with inventory, left := if fate.isRefused then l.left else l.leftAfter c })

def serve : Handler Life := fun l c fate =>
  match c with
  | .readSettings _ => (l.settingsAnswer? fate).map fun result => (result, l)
  | .patchPattern _ _ _ | .recordStatus _ _ _ => l.servePatch c fate
  | _ => l.serveApplication c fate

end Life

/-- What can happen in the life of a pattern. -/
inductive Event where
  /-- Somebody edits the pattern, or asks for its deletion. -/
  | edit (members : Keyed Json)
  /-- Somebody edits or removes the settings. -/
  | configure (data : Option Json)
  /-- A pass, with the fates of its calls. -/
  | pass (around : Surroundings) (fates : List Fate)

namespace Life

/-- The life after an event; nothing if there is no such pass. -/
def step? (l : Life) : Event → Option Life
  | .edit members => some { l with members }
  | .configure data => some { l with data }
  | .pass around fates =>
    ((l.pattern.reconcile around).conduct serve l fates).map fun conduct => conduct.state

def run (l : Life) : List Event → Option Life
  | [] => some l
  | event :: events => (l.step? event).bind fun next => run next events

end Life

/-! ## What a call does -/

namespace Life

variable {l after : Life} {c : Call} {fate : Fate} {result : Except ApiFailure Json}

theorem serve_readSettings {ns : String}
    (h : l.serve (.readSettings ns) fate = some (result, after)) :
    after = l ∧ (∀ map, result = .ok map → l.data = some map)
      ∧ ∀ f, result = .error f → f.isAbsence = true → l.data = none := by
  obtain ⟨answer, hanswer, heq⟩ := Option.map_eq_some_iff.1 h
  cases heq
  have hfailed : ∀ {f : ApiFailure},
      (if f.isAbsence && l.data.isSome then none else some (.error f)) = some result →
        (∀ map, result = .ok map → l.data = some map)
          ∧ ∀ g, result = .error g → g.isAbsence = true → l.data = none := by
    intro f hf
    split at hf
    · cases hf
    · rename_i hhonest
      cases hf
      refine ⟨nofun, ?_⟩
      rintro g ⟨⟩ habsent
      simpa [habsent] using hhonest
  refine ⟨rfl, ?_⟩
  cases fate with
  | served given version =>
    obtain ⟨map, hdata, rfl⟩ := Option.map_eq_some_iff.1 hanswer
    exact ⟨fun map' hmap => Except.ok.inj hmap ▸ hdata, nofun⟩
  | refused f => exact hfailed hanswer
  | lost f version => exact hfailed hanswer

theorem serve_application (hc : c.changesApplications = true)
    (h : l.serve c fate = some (result, after)) :
    ∃ inventory, l.inventory.honest c fate = some (result, inventory) ∧ after =
      { l with inventory, left := if fate.isRefused then l.left else l.leftAfter c } := by
  have hserve : l.serveApplication c fate = some (result, after) := by
    cases c with
    | createApplication ns a => exact h
    | mergeApplication ns name change => exact h
    | deleteApplication ns name => exact h
    | _ => cases hc
  obtain ⟨⟨answer, inventory⟩, hhonest, heq⟩ := Option.map_eq_some_iff.1 hserve
  cases heq
  exact ⟨inventory, hhonest, rfl⟩

theorem patch?_eq_some (h : l.patch? c = some after) :
    ∃ members, Server.patched (.obj l.members) c.verb = .ok (.obj members)
      ∧ after = { l with members } := by
  unfold patch? at h
  split at h
  · rename_i members hpatched
    exact ⟨members, hpatched, (Option.some.inj h).symm⟩
  · cases h

/-- A call that does not change applications leaves everything alone, or changes the pattern. -/
theorem serve_other (hc : c.changesApplications = false)
    (h : l.serve c fate = some (result, after)) :
    after = l ∨ c.acts = true ∧ l.patch? c = some after := by
  have happlication : l.serveApplication c fate = some (result, after) → l.leftAfter c = l.left →
      after = l := by
    intro hserve hleft
    obtain ⟨⟨answer, inventory⟩, hhonest, heq⟩ := Option.map_eq_some_iff.1 hserve
    cases heq
    obtain rfl := Inventory.serve_other hc (Inventory.serve_of_honest hhonest)
    rw [hleft, ite_self]
  have hpattern : l.servePatch c fate = some (result, after) → c.acts = true →
      after = l ∨ c.acts = true ∧ l.patch? c = some after := by
    intro hserve hacts
    obtain ⟨_, -, -, rfl⟩ | ⟨-, _, hpatch⟩ := Handler.refused_or_performed hserve
    · exact .inl rfl
    · exact .inr ⟨hacts, hpatch⟩
  cases c with
  | readSettings ns => exact .inl (serve_readSettings h).1
  | patchPattern ns name ops => exact hpattern h rfl
  | recordStatus ns name status => exact hpattern h rfl
  | createApplication ns a => cases hc
  | mergeApplication ns name change => cases hc
  | deleteApplication ns name => cases hc
  | _ => exact .inl (happlication h rfl)

theorem serve_passive (hc : c.acts = false) (h : l.serve c fate = some (result, after)) :
    after = l := by
  obtain rfl | ⟨hacts, -⟩ := serve_other (Call.changesApplications_of_acts hc) h
  · rfl
  · cases hc.symm.trans hacts

/-- Steps that only look leave everything alone, so that what they see is what there is. -/
theorem trail_passive {steps : List Step} (h : Avoids Call.acts steps)
    (htrail : Trail Life.serve l steps after) :
    after = l ∧ ∀ c result, .called c result ∈ steps →
      ∃ fate, l.serve c fate = some (result, l) := by
  have hkeep : ∀ {s mid : Life} {c : Call} {result : Except ApiFailure Json} {fate : Fate},
      .called c result ∈ steps → s.serve c fate = some (result, mid) → mid = s :=
    fun hmem => serve_passive (h _ _ hmem)
  exact ⟨htrail.eq_start hkeep, fun c result hmem => htrail.served hkeep hmem⟩

/-- Calls that do not change applications leave them and what is known of them alone. -/
theorem serve_harmless (hc : c.changesApplications = false)
    (h : l.serve c fate = some (result, after)) :
    after.inventory = l.inventory ∧ after.left = l.left := by
  obtain rfl | ⟨-, hpatch⟩ := serve_other hc h
  · exact ⟨rfl, rfl⟩
  · obtain ⟨members, -, rfl⟩ := patch?_eq_some hpatch
    exact ⟨rfl, rfl⟩

theorem isHeld_recordStatus {ns name : String} {status : PatternStatus}
    (h : l.patch? (.recordStatus ns name status) = some after) : after.isHeld = l.isHeld := by
  obtain ⟨members, hpatched, rfl⟩ := patch?_eq_some h
  cases hpatched
  have hmetadata : ∀ value, Pattern.shape.field? (.obj (Keyed.put "status" value l.members))
      "metadata" = Pattern.shape.field? (.obj l.members) "metadata" := fun value =>
    Keyed.get?_put_of_ne (by decide) _ _
  simp only [isHeld, pattern, Pattern.ofJson, Json.members, Pattern.finalizerIndex?, hmetadata]

/-- Only a patch of the pattern can take its finalizer away. -/
theorem serve_unpatched (hc : c.patchesPattern = false)
    (h : l.serve c fate = some (result, after)) : after.isHeld = l.isHeld := by
  cases happ : c.changesApplications with
  | true =>
    obtain ⟨inventory, -, rfl⟩ := serve_application happ h
    rfl
  | false =>
    obtain rfl | ⟨hacts, hpatch⟩ := serve_other happ h
    · rfl
    · cases c with
      | recordStatus ns name status => exact isHeld_recordStatus hpatch
      | publish ns event =>
        cases hpatch
        rfl
      | createApplication ns a => cases happ
      | mergeApplication ns name change => cases happ
      | deleteApplication ns name => cases happ
      | patchPattern ns name ops => cases hc
      | _ => cases hacts

/-! ## What is left -/

/-- The stored applications are those that are known to be left. -/
def Accounted (l : Life) : Prop :=
  ∀ place, (l.inventory.stored place).isSome = true ↔ place ∈ l.left

theorem Accounted.serve (hl : l.Accounted) (hc : c.changesApplications = true)
    (hhome : c.place? = l.home?) (h : l.serve c fate = some (result, after)) :
    after.Accounted := by
  obtain ⟨inventory, hhonest, rfl⟩ := serve_application hc h
  obtain ⟨_, rfl, -, rfl⟩ | ⟨hfate, version, hperform⟩ :=
    Handler.refused_or_performed (Inventory.serve_of_honest hhonest)
  · exact hl
  -- the call was carried out where the pass looks, and that is the place that `leftAfter` names
  have hleft : (if fate.isRefused = true then l.left else l.leftAfter c) = l.leftAfter c :=
    if_neg (hfate ▸ Bool.false_ne_true)
  rw [hleft]
  intro place
  have hplace := hl place
  cases c with
  | createApplication ns a =>
    obtain ⟨-, -, rfl⟩ := Inventory.perform?_create hperform
    simp only [leftAfter, ← hhome, Call.place?, Option.toList_some, List.cons_append,
      List.nil_append, List.mem_cons, Inventory.store, ← hplace]
    split
    · rename_i hsame
      exact iff_of_true rfl (.inl hsame)
    · rename_i hother
      exact (or_iff_right hother).symm
  | mergeApplication ns name change =>
    obtain ⟨document, hstored, -, -, rfl⟩ := Inventory.perform?_merge hperform
    simp only [leftAfter, Inventory.store, ← hplace]
    split
    · rename_i hsame
      exact iff_of_true rfl (by rw [hsame, hstored]; rfl)
    · exact Iff.rfl
  | deleteApplication ns name =>
    obtain ⟨-, rfl⟩ := Inventory.perform?_delete hperform
    simp only [leftAfter, ← hhome, Call.place?, List.mem_filter, Inventory.remove, ← hplace,
      Option.some.injEq, ne_eq, decide_not, Bool.not_eq_true', decide_eq_false_iff_not]
    split
    · rename_i hsame
      exact iff_of_false Bool.false_ne_true fun h => h.2 hsame.symm
    · rename_i hother
      exact (and_iff_left fun h => hother h.symm).symm
  | _ => cases hc

theorem Accounted.harmless (hl : l.Accounted) {steps : List Step}
    (hsteps : Avoids Call.changesApplications steps) (htrail : Trail Life.serve l steps after) :
    after.Accounted := by
  refine htrail.invariant Accounted ?_ hl
  intro s mid c result fate hmem hserve hs place
  obtain ⟨hinventory, hleft⟩ := serve_harmless (hsteps c result hmem) hserve
  rw [hinventory, hleft]
  exact hs place

/-! ## Where a pass looks -/

theorem settings?_of_course {ns : String} {opening : List Step} {settings : Settings}
    (h : SettingsCourse ns opening (.ok settings))
    (hserved : ∀ c result, .called c result ∈ opening →
      ∃ fate, l.serve c fate = some (result, l)) : l.settings? = some settings := by
  cases h with
  | stored hdata =>
    obtain ⟨fate, hserve⟩ := hserved _ _ List.mem_cons_self
    rw [settings?, (serve_readSettings hserve).2.1 _ rfl]
    dsimp only
    rw [hdata]
    rfl
  | absent habsent =>
    obtain ⟨fate, hserve⟩ := hserved _ _ List.mem_cons_self
    rw [settings?, (serve_readSettings hserve).2.2 _ rfl habsent]

/-- A change of applications is about the place where the pass looks. -/
theorem place?_of_change {around : Surroundings} {first : List Step}
    (h : Change l.pattern around first c)
    (hserved : ∀ c result, .called c result ∈ first → ∃ fate, l.serve c fate = some (result, l)) :
    c.place? = l.home? := by
  have hhome : ∀ {opening : List Step} {settings : Settings},
      SettingsCourse around.operatorNamespace opening (.ok settings) → opening ⊆ first →
        l.home? = some (l.pattern.home settings) := by
    intro opening settings hsettings hopening
    rw [home?, settings?_of_course hsettings fun c result hmem => hserved c result (hopening hmem)]
    rfl
  cases h with
  | sync hsettings hopening hsync =>
    rw [hhome hsettings hopening]
    cases hsync with
    | create => rfl
    | merge hread => rfl
  | delete hsettings hopening =>
    rw [hhome hsettings hopening]
    rfl

/-! ## Passes and lives -/

theorem Accounted.pass (hl : l.Accounted) {around : Surroundings} {steps : List Step}
    {v : Except Failure Requeue} (hcourse : ReconcileCourse l.pattern around steps v)
    (htrail : Trail Life.serve l steps after) : after.Accounted := by
  cases hcourse.oneChange with
  | none hsteps => exact hl.harmless hsteps htrail
  | @one first last c result hsteps hfirst hlast hchange =>
    rw [hsteps] at htrail
    obtain ⟨mid, hbefore, hrest⟩ := trail_append.1 htrail
    obtain ⟨fate, next, hserve, hafter⟩ := trail_call hrest
    obtain ⟨rfl, hserved⟩ := trail_passive hfirst hbefore
    have hhome := place?_of_change hchange hserved
    exact (hl.serve hchange.changesApplications hhome hserve).harmless hlast hafter

theorem isHeld_of_unpatched {steps : List Step} (h : Avoids Call.patchesPattern steps)
    (htrail : Trail Life.serve l steps after) : after.isHeld = l.isHeld := by
  refine htrail.invariant (fun s => s.isHeld = l.isHeld) ?_ rfl
  intro s mid c result fate hmem hserve hs
  exact (serve_unpatched (h c result hmem) hserve).trans hs

/-- A deletion that went through, or that had nothing to delete, leaves everything else. -/
theorem stored_of_deletion {s after : Inventory} {ns name : String} {fate : Fate}
    {result : Except ApiFailure Json} (hgone : ∀ f, result = .error f → f.isGone = true)
    (h : s.honest (.deleteApplication ns name) fate = some (result, after)) (place : Place) :
    after.stored place = if place = { ns, name } then none else s.stored place := by
  obtain ⟨f, -, rfl, rfl⟩ | ⟨-, version, hperform⟩ :=
    Handler.refused_or_performed (Inventory.serve_of_honest h)
  · have hdenies : (Call.deleteApplication ns name).denies f = true := hgone f rfl
    have hnone := Inventory.stored_of_denies hdenies rfl h
    split
    · rename_i hplace
      rw [hplace, hnone]
    · rfl
  · obtain ⟨-, rfl⟩ := Inventory.perform?_delete hperform
    rfl

/-- Tearing down deletes what is stored where the pass looks, and nothing else. -/
theorem stored_of_teardown {ns : String} {around : Surroundings} {steps : List Step}
    {requeue : Requeue} (hcourse : TeardownCourse l.pattern ns around steps (.ok requeue))
    (htrail : Trail Life.serve l steps after) :
    ∃ home, l.home? = some home ∧ ∀ place, after.inventory.stored place
      = if place = home then none else l.inventory.stored place := by
  cases hcourse with
  | @published first settings result line j hsettings hgone =>
    obtain ⟨mid, hfirst, hrest⟩ := trail_append.1 htrail
    obtain ⟨rfl, hserved⟩ := trail_passive hsettings.plain.passive hfirst
    have hhome : mid.home? = some (mid.pattern.home settings) := by
      rw [home?, settings?_of_course hsettings hserved]
      rfl
    refine ⟨_, hhome, fun place => ?_⟩
    obtain ⟨fate, mid, hdelete, hnoted⟩ := trail_call hrest
    obtain ⟨inventory, hhonest, rfl⟩ := serve_application rfl hdelete
    have hlast : after.inventory = inventory := by
      obtain ⟨_, last, hpublish, hend⟩ := trail_call (trail_note hnoted)
      obtain rfl := trail_nil hend
      exact (serve_harmless rfl hpublish).1
    rw [hlast]
    exact stored_of_deletion hgone hhonest place

/-- A pass that takes the finalizer away has deleted what was stored where it looks, and nothing
else. -/
theorem stored_of_release {around : Surroundings} {steps : List Step}
    {v : Except Failure Requeue} (hcourse : ReconcileCourse l.pattern around steps v)
    (htrail : Trail Life.serve l steps after) (hheld : l.isHeld = true)
    (hfree : after.isHeld = false) :
    ∃ home, l.home? = some home ∧ ∀ place, after.inventory.stored place
      = if place = home then none else l.inventory.stored place := by
  have hheldStays : ∀ {s : List Step}, Avoids Call.patchesPattern s →
      ∀ {mid : Life}, Trail Life.serve l s mid → mid.isHeld = false → False := by
    intro s hs mid htrail hfree
    rw [isHeld_of_unpatched hs htrail, hheld] at hfree
    cases hfree
  have hreleased : ∀ {ns : String} {first : List Step} {requeue : Requeue} {c : Call}
      {result : Except ApiFailure Json} {mid : Life},
      TeardownCourse l.pattern ns around first (.ok requeue) → c.changesApplications = false →
      Trail Life.serve l (first ++ [.called c result]) mid →
      ∃ home, l.home? = some home ∧ ∀ place, mid.inventory.stored place
        = if place = home then none else l.inventory.stored place := by
    intro ns first requeue c result mid hteardown hc htrail
    obtain ⟨torn, hfirst, hlast⟩ := trail_append.1 htrail
    obtain ⟨home, hhome, hstored⟩ := stored_of_teardown hteardown hfirst
    obtain ⟨fate, next, hserve, hend⟩ := trail_call hlast
    obtain rfl := trail_nil hend
    exact ⟨home, hhome, (serve_harmless hc hserve).1 ▸ hstored⟩
  cases hcourse with
  | homeless hns =>
    exact (hheldStays ((avoids_note _).append (avoids_note _)) htrail hfree).elim
  | finalized hns hfinalize =>
    obtain ⟨mid, hbody, hlast⟩ := trail_append.1 htrail
    obtain rfl := trail_nil (trail_note hlast)
    have hinner := trail_note (trail_note hbody)
    cases hfinalize with
    | converged hindex hstays hconverge =>
      exact (hheldStays hconverge.unpatched hinner hfree).elim
    | unnamed hname => exact (hheldStays avoids_nil hinner hfree).elim
    | notTornDown hindex hdeleting hteardown =>
      exact (hheldStays hteardown.unpatched hinner hfree).elim
    | notRemoved hindex hdeleting hname hteardown => exact hreleased hteardown rfl hinner
    | removed hindex hdeleting hname hteardown => exact hreleased hteardown rfl hinner
    | notAdded hindex hstays hname =>
      rw [isHeld, hindex] at hheld
      cases hheld
    | added hindex hstays hname =>
      rw [isHeld, hindex] at hheld
      cases hheld
    | idle hindex hdeleting =>
      rw [isHeld, hindex] at hheld
      cases hheld

theorem Accounted.step? (hl : l.Accounted) {event : Event} (h : l.step? event = some after) :
    after.Accounted := by
  cases event with
  | edit members =>
    cases h
    exact hl
  | configure data =>
    cases h
    exact hl
  | pass around fates =>
    obtain ⟨r, hconduct, rfl⟩ := Option.map_eq_some_iff.1 h
    obtain ⟨hcourse, htrail⟩ := conduct_iff.1 ⟨fates, hconduct⟩
    exact hl.pass (reconcileCourse_of_course hcourse) htrail

theorem Accounted.run (hl : l.Accounted) {events : List Event} (h : l.run events = some after) :
    after.Accounted := by
  induction events generalizing l with
  | nil =>
    cases h
    exact hl
  | cons event events ih =>
    obtain ⟨next, hstep, hrest⟩ := Option.bind_eq_some_iff.1 h
    exact ih (hl.step? hstep) hrest

end Life

/-! ## Orphans -/

/-- When a pass takes the finalizer of a pattern away, no application is left exactly if all those
that were left before it are where that pass looks. -/
theorem orphan_free_iff {members : Keyed Json} {data : Option Json} {events : List Event}
    {around : Surroundings} {fates : List Fate} {before after : Life}
    (hrun : ({ members, data } : Life).run events = some before)
    (hpass : before.step? (.pass around fates) = some after)
    (hheld : before.isHeld = true) (hfree : after.isHeld = false) :
    (∀ place, after.inventory.stored place = none) ↔
      ∀ place ∈ before.left, before.home? = some place := by
  have hnothing : ({ members, data } : Life).Accounted := fun place =>
    iff_of_false Bool.false_ne_true List.not_mem_nil
  have hbefore := hnothing.run hrun
  obtain ⟨r, hconduct, rfl⟩ := Option.map_eq_some_iff.1 hpass
  obtain ⟨hcourse, htrail⟩ := conduct_iff.1 ⟨fates, hconduct⟩
  obtain ⟨home, hhome, hstored⟩ :=
    Life.stored_of_release (reconcileCourse_of_course hcourse) htrail hheld hfree
  rw [hhome]
  constructor
  · intro hfreed place hplace
    refine Classical.byContradiction fun hother => ?_
    have hsame := hstored place
    rw [hfreed place, if_neg fun heq => hother (congrArg some heq.symm)] at hsame
    have hsome := (hbefore place).2 hplace
    rw [← hsame] at hsome
    cases hsome
  · intro hall place
    rw [hstored place]
    split
    · rfl
    · rename_i hother
      cases hsome : before.inventory.stored place with
      | none => rfl
      | some j =>
        have hleft : place ∈ before.left := (hbefore place).1 (by rw [hsome]; rfl)
        exact absurd (Option.some.inj (hall place hleft)).symm hother

def renamedMembers (group : String) (times : Keyed Json) : Keyed Json :=
  [ ("metadata", .object
      ([ ("finalizers", .arr [.str Pattern.finalizer]), ("name", .str "mcg"),
        ("namespace", .str "default") ] ++ times)),
    ("spec", .object
      [ ("clusterGroupName", .str group),
        ("gitSpec", .object [("targetRepo", .str "https://example.com/mcg")]) ]) ]

/-- Passes over a pattern that is deployed, moved to another cluster group, deployed again, and
then deleted. -/
def renamed : List Event :=
  let around : Surroundings :=
    { operatorNamespace := "operators", now := .midnight (.newYear 2024) }
  let absent : Fate := .refused (.refusal { status := "", reason := "NotFound", code := 404 })
  let silent : Fate := .refused (.service "")
  let deployed : Event := .pass around [absent, silent, absent, .served .null "1", silent]
  [ deployed, .edit (renamedMembers "edge" []), deployed,
    .edit (renamedMembers "edge" [("deletionTimestamp", .str "2024-01-01T00:00:00Z")]) ]

/-- The application of the first cluster group is left when the pattern is gone. -/
theorem orphan_renamed :
    ∃ around fates before after,
      ({ members := renamedMembers "hub" [] } : Life).run renamed = some before
        ∧ before.step? (.pass around fates) = some after
        ∧ before.isHeld = true ∧ after.isHeld = false
        ∧ ¬ ∀ place, after.inventory.stored place = none := by
  have hruns : (({ members := renamedMembers "hub" [] } : Life).run renamed).any (fun before =>
      (before.step? (.pass
        { operatorNamespace := "operators", now := .midnight (.newYear 2024) }
        [ .refused (.refusal { status := "", reason := "NotFound", code := 404 }),
          .served .null "", .served .null "", .served .null "" ])).any fun after =>
        before.isHeld && !after.isHeld
          && before.left.any fun place => before.home? ≠ some place) = true := by
    decide +kernel
  obtain ⟨before, hrun, hlast⟩ := (Option.any_eq_true _ _).1 hruns
  obtain ⟨after, hpass, hfacts⟩ := (Option.any_eq_true _ _).1 hlast
  simp only [Bool.and_eq_true, Bool.not_eq_true'] at hfacts
  obtain ⟨⟨hheld, hfree⟩, hleft⟩ := hfacts
  refine ⟨_, _, before, after, hrun, hpass, hheld, hfree, ?_⟩
  rw [orphan_free_iff hrun hpass hheld hfree]
  intro hall
  obtain ⟨place, hplace, hother⟩ := List.any_eq_true.1 hleft
  exact of_decide_eq_true hother (hall place hplace)

end PatternSync
