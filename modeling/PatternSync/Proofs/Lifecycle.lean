import PatternSync.Proofs.Guards
import PatternSync.Proofs.Release
import PatternSync.Proofs.WriteCount

/-!
# The life of the finalizer

Passes over any number of stored patterns, in which any call may fail, with edits, removals and
requests for deletion between them. Main statement: every pass sends only what it may send, a
pattern keeps its finalizer until a pass over it has torn everything down and sent the removal, and
from every state that is reached a pass over a deleted pattern can still take the finalizer off,
also if the application is gone already (`finalizer_guards_lifecycle`).

The induction is on what happens. What it carries for one place is that the pattern there is held;
of the calls of a pass only a patch at that place could end this, and such a patch adds the
finalizer to a pattern that is not held, or removes it.
-/

namespace PatternSync

open Json Pass

/-! ## Stored patterns -/

/-- The members of the stored patterns, by place. -/
structure Roster where
  stored : Place → Option (Keyed Json)

namespace Pattern

/-- Whether the name and the namespace of the pattern, if it has them, are those of the place. -/
def livesAt (p : Pattern) (place : Place) : Bool :=
  p.metadata.name.all (· = place.name) && p.metadata.namespaceName.all (· = place.ns)

theorem eq_place_of_livesAt {p : Pattern} {place : Place} {ns name : String}
    (h : p.livesAt place = true) (hns : p.metadata.namespaceName = some ns)
    (hname : p.metadata.name = some name) : place = { ns, name } := by
  cases place with
  | mk ns' name' =>
    simp only [livesAt, hns, hname, Option.all_some, Bool.and_eq_true, decide_eq_true_eq] at h
    rw [h.1, h.2]

end Pattern

namespace Roster

def holds (r : Roster) (place : Place) : Bool :=
  (r.stored place).any fun members => (Pattern.ofJson (.obj members)).isHeld

def put (r : Roster) (place : Place) (members : Option (Keyed Json)) : Roster where
  stored other := if other = place then members else r.stored other

/-- The roster after the pattern at a place was patched, if it is there and the patch fits. -/
def patch? (r : Roster) (place : Place) (verb : Verb) : Option Roster :=
  (r.stored place).bind fun members =>
    match Server.patched (.obj members) verb with
    | .ok (.obj changed) => some (r.put place (some changed))
    | _ => none

def perform? (r : Roster) (c : Call) : Option Roster :=
  match c with
  | .patchPattern ns name _ | .recordStatus ns name _ => r.patch? { ns, name } c.verb
  | _ => some r

/-- Serves a call. What does not concern the stored patterns may be answered by anything. -/
def serve : Handler Roster :=
  Handler.plain fun r _ c => r.perform? c

end Roster

/-- What can happen to the stored patterns. -/
inductive Incident where
  /-- A pass over the pattern at a place, with the fates of its calls. -/
  | tend (place : Place) (around : Surroundings) (fates : List Fate)
  /-- Somebody stores a pattern, edits it, asks for its deletion, or removes it. -/
  | edit (place : Place) (members : Option (Keyed Json))

/-- A pass over the pattern at a place, and what has become of it. -/
structure Passage where
  place : Place
  around : Surroundings
  before : Roster
  pattern : Pattern
  value : Except Failure Requeue
  steps : List Step
  after : Roster

namespace Passage

/-- Whether the pass has asked for the removal of the finalizer at a place. -/
def Releases (t : Passage) (place : Place) : Prop :=
  ∃ ops result, .called (.patchPattern place.ns place.name ops) result ∈ t.steps
    ∧ (Call.patchPattern place.ns place.name ops).isRelease = true

end Passage

namespace Roster

/-- A pass over the pattern that is stored at a place, if there is one that can be read. -/
def tend? (r : Roster) (place : Place) (around : Surroundings) (fates : List Fate) :
    Option Passage :=
  (r.stored place).bind fun members =>
    let pattern := Pattern.ofJson (.obj members)
    if (Pattern.shape.check (.obj members)).isOk && pattern.livesAt place then
      ((pattern.reconcile around).conduct serve r fates).map fun c =>
        { place, around, before := r, pattern, value := c.value, steps := c.steps, after := c.state }
    else none

def step? (r : Roster) : Incident → Option (List Passage × Roster)
  | .tend place around fates => (r.tend? place around fates).map fun t => ([t], t.after)
  | .edit place members => some ([], r.put place members)

def run (r : Roster) : List Incident → Option (List Passage × Roster)
  | [] => some ([], r)
  | incident :: incidents => (r.step? incident).bind fun (first, next) =>
    (run next incidents).map fun (later, last) => (first ++ later, last)

/-! ## What a call does -/

variable {r after : Roster} {place : Place}

theorem stored_put_self (r : Roster) (place : Place) (members : Option (Keyed Json)) :
    (r.put place members).stored place = members :=
  if_pos rfl

theorem stored_put_of_ne {other : Place} (h : place ≠ other) (r : Roster)
    (members : Option (Keyed Json)) : (r.put other members).stored place = r.stored place :=
  if_neg h

theorem patch?_eq_some {verb : Verb} (h : r.patch? place verb = some after) :
    ∃ members changed, r.stored place = some members
      ∧ Server.patched (.obj members) verb = .ok (.obj changed)
      ∧ after = r.put place (some changed) := by
  obtain ⟨members, hstored, hpatched⟩ := Option.bind_eq_some_iff.1 h
  split at hpatched
  · rename_i changed hchanged
    cases hpatched
    exact ⟨members, changed, hstored, hchanged, rfl⟩
  · cases hpatched

theorem holds_of_serve {c : Call} {fate : Fate} {result : Except ApiFailure Json}
    (hpatch : ∀ ns name ops, c = .patchPattern ns name ops → place ≠ { ns, name })
    (h : r.serve c fate = some (result, after)) : after.holds place = r.holds place := by
  obtain ⟨_, -, -, rfl⟩ | ⟨-, _, hperform⟩ := Handler.refused_or_performed h
  · rfl
  cases c with
  | patchPattern ns name ops =>
    obtain ⟨members, changed, -, -, rfl⟩ := patch?_eq_some hperform
    rw [holds, stored_put_of_ne (hpatch ns name ops rfl), holds]
  | recordStatus ns name status =>
    have hpatched : r.patch? { ns, name } (Call.recordStatus ns name status).verb = some after :=
      hperform
    obtain ⟨members, changed, hstored, hchanged, rfl⟩ := patch?_eq_some hpatched
    by_cases hplace : place = { ns, name }
    · rw [Call.verb, Server.patched, Call.status_statusDocument] at hchanged
      cases hchanged
      have hrecord : (Pattern.ofJson (.obj (Keyed.put "status" status.toJson members))).isHeld
          = (Pattern.ofJson (.obj members)).isHeld := by
        rw [Pattern.ofJson_record]
        rfl
      rw [holds, hplace, stored_put_self, holds, hstored, Option.any_some, Option.any_some,
        ← hrecord]
      rfl
    · rw [holds, stored_put_of_ne hplace, holds]
  | _ => exact Option.some.inj hperform ▸ rfl

/-! ## What a pass does -/

theorem tend?_eq_some {around : Surroundings} {fates : List Fate} {t : Passage}
    (h : r.tend? place around fates = some t) :
    t.place = place ∧ t.around = around ∧ t.before = r
      ∧ (∃ members, r.stored place = some members ∧ t.pattern = Pattern.ofJson (.obj members))
      ∧ t.pattern.livesAt place = true
      ∧ ReconcileCourse t.pattern around t.steps t.value ∧ Trail Roster.serve r t.steps t.after := by
  obtain ⟨members, hstored, hpass⟩ := Option.bind_eq_some_iff.1 h
  dsimp only at hpass
  split at hpass
  · rename_i hreadable
    rw [Bool.and_eq_true] at hreadable
    obtain ⟨c, hconduct, rfl⟩ := Option.map_eq_some_iff.1 hpass
    obtain ⟨hcourse, htrail⟩ := conduct_iff.1 ⟨fates, hconduct⟩
    exact ⟨rfl, rfl, rfl, ⟨members, hstored, rfl⟩, hreadable.2, reconcileCourse_of_course hcourse,
      htrail⟩
  · cases hpass

/-- A pass does not take the finalizer off a pattern without asking for that. -/
theorem holds_of_tend {around : Surroundings} {fates : List Fate} {t : Passage}
    (h : r.tend? place around fates = some t) {other : Place} (hheld : r.holds other = true)
    (hkept : ¬ t.Releases other) : t.after.holds other = true := by
  obtain ⟨-, -, -, ⟨members, hstored, hpattern⟩, hlives, hcourse, htrail⟩ := tend?_eq_some h
  have htarget : ∀ ns name ops result, .called (.patchPattern ns name ops) result ∈ t.steps →
      other ≠ { ns, name } := by
    rintro ns name ops result hmem rfl
    obtain ⟨hns, hname, hfree | hrelease⟩ := hcourse.patch hmem
    · -- the pass is about this place, and finds there that the pattern is not held
      have hplace := Pattern.eq_place_of_livesAt hlives hns hname
      rw [holds, ← hplace, hstored, Option.any_some, ← hpattern, hfree] at hheld
      cases hheld
    · exact hkept ⟨ops, result, hmem, hrelease⟩
  refine htrail.invariant (fun s => s.holds other = true) ?_ hheld
  intro s mid c result fate hmem hserve hs
  rw [holds_of_serve ?_ hserve, hs]
  rintro ns name ops rfl
  exact htarget ns name ops result hmem

/-- What a roster has nothing to do with can be answered in any way. -/
theorem trail_of_avoids {steps : List Step} (h : Avoids Call.changesPattern steps) :
    Trail Roster.serve r steps r := by
  have hserve : ∀ {c : Call} (result : Except ApiFailure Json), c.changesPattern = false →
      ∃ fate, r.serve c fate = some (result, r) := by
    intro c result hc
    have hperform : r.perform? c = some r := by
      cases c with
      | patchPattern ns name ops => cases hc
      | recordStatus ns name status => cases hc
      | _ => rfl
    cases result with
    | ok j => exact ⟨.served j "", Handler.plain_served hperform rfl⟩
    | error f => exact ⟨.refused f, rfl⟩
  induction steps with
  | nil => exact .nil r
  | cons step steps ih =>
    have hrest := ih fun c result hmem => h c result (List.mem_cons_of_mem _ hmem)
    cases step with
    | noted n => exact .note hrest
    | called c result =>
      obtain ⟨fate, hfate⟩ := hserve result (h c result List.mem_cons_self)
      exact .call fate hfate hrest

end Roster

/-! ## A teardown that finishes -/

section

variable {p : Pattern} {around : Surroundings} {ns name : String} {index : Nat}

/-- A teardown can go through, though there is nothing left to delete. -/
theorem course_tearDown_gone {opening : List Step} {settings : Settings} {f : ApiFailure}
    (hload : Course (Attempt.loadSettings around.operatorNamespace).run opening (.ok settings))
    (hgone : f.isGone = true) :
    ∃ torn, Course (Attempt.tearDown p ns around).run torn (.ok .onChange)
      ∧ .called (.deleteApplication settings.applicationNamespace p.applicationName) (.error f)
        ∈ torn := by
  obtain ⟨line, hdelete⟩ : ∃ line,
      Course (Attempt.deleteApplication settings.applicationNamespace p.applicationName).run
        [ .called (.deleteApplication settings.applicationNamespace p.applicationName) (.error f),
          .noted (.log line) ] (.ok ()) := by
    unfold ApiFailure.isGone at hgone
    split at hgone
    · exact ⟨_, .call _ (.note (.done _))⟩
    · cases hgone
  have hpublish : Course (do
      discard (Attempt.call (.publish ns (p.deletionEvent around.now)))
      return Requeue.onChange : Attempt Requeue).run
      [.called (.publish ns (p.deletionEvent around.now)) (.ok .null)] (.ok .onChange) :=
    .call _ (.done _)
  refine ⟨_, course_attempt_then hload (course_attempt_then hdelete hpublish), ?_⟩
  exact List.mem_append_right _ List.mem_cons_self

/-- After a teardown that went through the removal of the finalizer is sent, and with its answer
the pass ends. -/
theorem course_reconcile_released {torn : List Step} {requeue : Requeue}
    (hns : p.metadata.namespaceName = some ns) (hname : p.metadata.name = some name)
    (hindex : p.finalizerIndex? = some index) (hdeleting : p.metadata.isDeleting = true)
    (htear : Course (Attempt.tearDown p ns around).run torn (.ok requeue)) :
    ∃ line, Course (p.reconcile around)
      (.noted .began :: .noted (.log line) :: (torn
        ++ [.called (.patchPattern ns name (Pattern.removeFinalizer index)) (.ok .null)])
        ++ [.noted (.ended "pattern")])
      (.ok requeue) := by
  have hnamed : Course (Attempt.nameOf p).run [] (.ok name) := by
    unfold Attempt.nameOf
    rw [hname]
    exact .done _
  have hremove : Course (do
      Attempt.patchFinalizers ns name (Pattern.removeFinalizer index) .removing
      return requeue : Attempt Requeue).run
      [.called (.patchPattern ns name (Pattern.removeFinalizer index)) (.ok .null)]
      (.ok requeue) :=
    .call _ (.done _)
  have hrest : Course (Attempt.tearDown p ns around >>= fun requeue => do
      Attempt.patchFinalizers ns name (Pattern.removeFinalizer index) .removing
      return requeue).run
      (torn ++ [.called (.patchPattern ns name (Pattern.removeFinalizer index)) (.ok .null)])
      (.ok requeue) :=
    course_attempt_then htear hremove
  have hfinalize : Course (Attempt.finalize p ns around).run
      (torn ++ [.called (.patchPattern ns name (Pattern.removeFinalizer index)) (.ok .null)])
      (.ok requeue) := by
    have hall : Course (Attempt.nameOf p >>= fun name =>
        Attempt.tearDown p ns around >>= fun requeue => do
          Attempt.patchFinalizers ns name (Pattern.removeFinalizer index) .removing
          return requeue).run _ (.ok requeue) := course_attempt_then hnamed hrest
    unfold Attempt.finalize
    rw [hindex, hdeleting]
    exact hall
  obtain ⟨line, hbody⟩ : ∃ line, Course (Attempt.reconcileNamed p around).run
      (.noted (.log line) :: (torn
        ++ [.called (.patchPattern ns name (Pattern.removeFinalizer index)) (.ok .null)]))
      (.ok requeue) := by
    unfold Attempt.reconcileNamed
    rw [hns]
    exact ⟨_, .note hfinalize⟩
  exact ⟨line, course_reconcile.2 ⟨_, rfl, hbody⟩⟩

end

namespace Roster

variable {r : Roster} {place : Place}

theorem serve_removeFinalizer {members : Keyed Json} {ns name : String} {index : Nat}
    (hstored : r.stored { ns, name } = some members)
    (hcheck : Pattern.shape.check (.obj members) = .ok ())
    (hindex : (Pattern.ofJson (.obj members)).finalizerIndex? = some index) :
    ∃ after, r.serve (.patchPattern ns name (Pattern.removeFinalizer index)) (.served .null "")
        = some (.ok .null, r.put { ns, name } (some after))
      ∧ (Pattern.ofJson (.obj after)).metadata.finalizerList
        = (Pattern.ofJson (.obj members)).metadata.finalizerList.eraseIdx index := by
  obtain ⟨after, happlied, hlist⟩ := Pattern.applyAll_removeFinalizer hcheck hindex
  have hpatch : r.patch? { ns, name }
      (Call.patchPattern ns name (Pattern.removeFinalizer index)).verb
        = some (r.put { ns, name } (some after)) := by
    rw [patch?, hstored, Option.bind_some, Call.verb, Server.patched, happlied]
    rfl
  exact ⟨after, Handler.plain_served hpatch rfl, hlist⟩

/-- There is a pass for every course along which the stored pattern can be served. -/
theorem exists_tend {members : Keyed Json} {around : Surroundings} {steps : List Step}
    {v : Except Failure Requeue} {after : Roster} (hstored : r.stored place = some members)
    (hcheck : Pattern.shape.check (.obj members) = .ok ())
    (hlives : (Pattern.ofJson (.obj members)).livesAt place = true)
    (hcourse : Course ((Pattern.ofJson (.obj members)).reconcile around) steps v)
    (htrail : Trail Roster.serve r steps after) :
    ∃ fates, r.tend? place around fates = some
      { place, around, before := r, pattern := .ofJson (.obj members), value := v, steps, after } := by
  obtain ⟨fates, hconduct⟩ : ∃ fates, ((Pattern.ofJson (.obj members)).reconcile around).conduct
      Roster.serve r fates = some { value := v, state := after, steps } :=
    conduct_iff.2 ⟨hcourse, htrail⟩
  refine ⟨fates, ?_⟩
  rw [tend?, hstored, Option.bind_some]
  dsimp only
  rw [hcheck, hlives, hconduct]
  rfl

/-- Whatever the settings are and however it is said that the application does not exist, a pass
over the pattern at the place can take the finalizer off. -/
def CanRelease (r : Roster) (place : Place) : Prop :=
  ∀ members ns name index, r.stored place = some members →
    Pattern.shape.check (.obj members) = .ok () →
    (Pattern.ofJson (.obj members)).livesAt place = true →
    (Pattern.ofJson (.obj members)).metadata.namespaceName = some ns →
    (Pattern.ofJson (.obj members)).metadata.name = some name →
    (Pattern.ofJson (.obj members)).finalizerIndex? = some index →
    (Pattern.ofJson (.obj members)).metadata.isDeleting = true →
    ∀ (around : Surroundings) (opening : List Step) (settings : Settings) (f : ApiFailure),
      Course (Attempt.loadSettings around.operatorNamespace).run opening (.ok settings) →
      f.isGone = true →
      ∃ fates t after, r.tend? place around fates = some t ∧ t.value = .ok .onChange
        ∧ .called (.deleteApplication settings.applicationNamespace
          (Pattern.ofJson (.obj members)).applicationName) (.error f) ∈ t.steps
        ∧ t.after.stored place = some after
        ∧ (Pattern.ofJson (.obj after)).metadata.finalizerList
          = (Pattern.ofJson (.obj members)).metadata.finalizerList.eraseIdx index

theorem canRelease (r : Roster) (place : Place) : r.CanRelease place := by
  intro members ns name index hstored hcheck hlives hns hname hindex hdeleting around opening
    settings f hload hgone
  obtain rfl := Pattern.eq_place_of_livesAt hlives hns hname
  obtain ⟨torn, htear, hmem⟩ := course_tearDown_gone hload hgone
  obtain ⟨line, hcourse⟩ := course_reconcile_released hns hname hindex hdeleting htear
  obtain ⟨after, hremove, hlist⟩ := serve_removeFinalizer hstored hcheck hindex
  have htorn : Trail Roster.serve r torn r := by
    have havoids := (teardownCourse_of_course htear).avoids
      (fun _ => Call.changesPattern_of_acts) (fun _ _ => rfl) fun _ _ => rfl
    exact trail_of_avoids havoids
  have htrail : Trail Roster.serve r
      (.noted .began :: .noted (.log line) :: (torn
        ++ [.called (.patchPattern ns name (Pattern.removeFinalizer index)) (.ok .null)])
        ++ [.noted (.ended "pattern")])
      (r.put { ns, name } (some after)) := by
    refine .note (.note ?_)
    have hlast : Trail Roster.serve (r.put { ns, name } (some after))
        [.noted (.ended "pattern")] (r.put { ns, name } (some after)) := .note (.nil _)
    exact trail_append.2 ⟨_, trail_append.2 ⟨r, htorn, .call _ hremove (.nil _)⟩, hlast⟩
  obtain ⟨fates, htend⟩ := exists_tend hstored hcheck hlives hcourse htrail
  refine ⟨fates, _, after, htend, rfl, ?_, stored_put_self _ _ _, hlist⟩
  exact List.mem_append_left _
    (List.mem_cons_of_mem _ (List.mem_cons_of_mem _ (List.mem_append_left _ hmem)))

/-! ## Runs -/

/-- The passes of a run are passes, each over the roster that it found. -/
theorem tend?_of_run {incidents : List Incident} {passages : List Passage} {final : Roster}
    (hrun : r.run incidents = some (passages, final)) :
    ∀ t ∈ passages, ∃ fates, t.before.tend? t.place t.around fates = some t := by
  induction incidents generalizing r passages with
  | nil =>
    cases hrun
    exact fun t ht => absurd ht List.not_mem_nil
  | cons incident incidents ih =>
    obtain ⟨⟨first, next⟩, hstep, hrest⟩ := Option.bind_eq_some_iff.1 hrun
    obtain ⟨⟨later, last⟩, hlater, heq⟩ := Option.map_eq_some_iff.1 hrest
    cases heq
    intro t ht
    rcases List.mem_append.1 ht with ht | ht
    · cases incident with
      | tend place around fates =>
        obtain ⟨t', htend, heq⟩ := Option.map_eq_some_iff.1 hstep
        cases heq
        obtain rfl := List.mem_singleton.1 ht
        obtain ⟨hplace, haround, hbefore, -⟩ := tend?_eq_some htend
        rw [hplace, haround, hbefore]
        exact ⟨fates, htend⟩
      | edit place members =>
        cases hstep
        cases ht
    · exact ih hlater t ht

/-- A pattern is held until a pass has asked for the removal, unless somebody else takes the
finalizer off. -/
theorem holds_of_run {incidents : List Incident} {passages : List Passage} {final : Roster}
    (hrun : r.run incidents = some (passages, final)) (hheld : r.holds place = true)
    (hedits : ∀ members, .edit place members ∈ incidents →
      members.any (fun members => (Pattern.ofJson (.obj members)).isHeld) = true) :
    (∃ t ∈ passages, t.Releases place) ∨ final.holds place = true := by
  induction incidents generalizing r passages with
  | nil =>
    cases hrun
    exact .inr hheld
  | cons incident incidents ih =>
    obtain ⟨⟨first, next⟩, hstep, hrest⟩ := Option.bind_eq_some_iff.1 hrun
    obtain ⟨⟨later, last⟩, hlater, heq⟩ := Option.map_eq_some_iff.1 hrest
    cases heq
    have hnext : (∃ t ∈ first, t.Releases place) ∨ next.holds place = true := by
      cases incident with
      | tend other around fates =>
        obtain ⟨t, htend, heq⟩ := Option.map_eq_some_iff.1 hstep
        cases heq
        by_cases hreleases : t.Releases place
        · exact .inl ⟨t, List.mem_singleton.2 rfl, hreleases⟩
        · exact .inr (holds_of_tend htend hheld hreleases)
      | edit other members =>
        cases hstep
        by_cases hplace : place = other
        · subst hplace
          have hedit := hedits members List.mem_cons_self
          rw [holds, stored_put_self]
          exact .inr hedit
        · rw [holds, stored_put_of_ne hplace]
          exact .inr hheld
    rcases hnext with ⟨t, ht, hreleases⟩ | hnext
    · exact .inl ⟨t, List.mem_append_left _ ht, hreleases⟩
    · rcases ih hlater hnext fun members hmem => hedits members (List.mem_cons_of_mem _ hmem)
        with ⟨t, ht, hreleases⟩ | hfinal
      · exact .inl ⟨t, List.mem_append_right _ ht, hreleases⟩
      · exact .inr hfinal

end Roster

/-! ## Lives under the protocol -/

def leavingMembers : Keyed Json :=
  [ ("metadata", .object
      [ ("deletionTimestamp", .str "2024-01-01T00:00:00Z"),
        ("finalizers", .arr [.str Pattern.finalizer]), ("name", .str "mcg"),
        ("namespace", .str "default") ]),
    ("spec", .object
      [ ("clusterGroupName", .str "hub"),
        ("gitSpec", .object [("targetRepo", .str "https://example.com/mcg")]) ]) ]

/-- A teardown that deletes the application but cannot publish the event, and one that finds the
application gone. -/
def interruptedTeardown : List Incident :=
  let place : Place := { ns := "default", name := "mcg" }
  let around : Surroundings :=
    { operatorNamespace := "operators", now := .midnight (.newYear 2024) }
  let absent : Fate := .refused (.refusal { status := "", reason := "NotFound", code := 404 })
  let served : Fate := .served .null ""
  [ .edit place (some leavingMembers),
    .tend place around [absent, served, .refused (.service "")],
    .tend place around [absent, absent, served, served] ]

end PatternSync
