import PatternSync.Proofs.Writes

/-!
# What the finalizer guards

Which calls a pass may send depends on the finalizer and the deletion time of its pattern. It
creates or changes an application only for a pattern that is held and stays, deletes one only for
a pattern that is held and deleted, and removes the finalizer only once everything is torn down.
Over a pattern that is held and deleted it goes through the whole teardown, whatever earlier passes
have done, and stops only at a call that fails; an application that is gone already does not stop
it. Main statement: `orderly_of_course`.

The four cases of the protocol are those of `FinalizeCourse`. In each of them the calls in question
are avoided, or the case gives what is asked for.
-/

namespace PatternSync

open Pass

/-! ## Calls -/

def PatchOp.isRemoval : PatchOp → Bool
  | remove _ => true
  | _ => false

namespace Call

def isDeletion : Call → Bool
  | deleteApplication _ _ => true
  | _ => false

/-- Whether the call takes a part of the pattern away. -/
def isRelease : Call → Bool
  | patchPattern _ _ ops => ops.any PatchOp.isRemoval
  | _ => false

/-- Whether a teardown goes on after the call: it was answered, or there is nothing to delete. -/
def goesOn (c : Call) : Except ApiFailure Json → Bool
  | .ok _ => true
  | .error f => c.isDeletion && f.isGone

theorem isDeletion_of_acts {c : Call} (h : c.acts = false) : c.isDeletion = false := by
  cases c with
  | deleteApplication ns name => cases h
  | _ => rfl

theorem isDeletion_of_isWrite {c : Call} (h : c.isWrite = true) : c.isDeletion = false := by
  cases c with
  | deleteApplication ns name => cases h
  | _ => rfl

theorem isRelease_of_patchesPattern {c : Call} (h : c.patchesPattern = false) :
    c.isRelease = false := by
  cases c with
  | patchPattern ns name ops => cases h
  | _ => rfl

end Call

namespace Pattern

def isHeld (p : Pattern) : Bool :=
  p.finalizerIndex?.isSome

theorem isHeld_of_index {p : Pattern} {index : Nat} (h : p.finalizerIndex? = some index) :
    p.isHeld = true := by
  rw [isHeld, h]
  rfl

theorem isRelease_addFinalizer (p : Pattern) (ns name : String) :
    (Call.patchPattern ns name p.addFinalizer).isRelease = false := by
  unfold Call.isRelease addFinalizer
  dsimp only
  split
  · rfl
  · rfl

/-- The calls of a teardown once the settings are known. -/
def teardownPlan (p : Pattern) (ns name : String) (index : Nat) (settings : Settings)
    (now : Instant) : List Call :=
  [ .deleteApplication settings.applicationNamespace p.applicationName,
    .publish ns (p.deletionEvent now), .patchPattern ns name (removeFinalizer index) ]

end Pattern

/-- The calls are those of the plan, up to the first after which it does not go on. -/
def Follows : List Call → List (Call × Except ApiFailure Json) → Prop
  | [], calls => calls = []
  | c :: plan, calls => ∃ result rest, calls = (c, result) :: rest
      ∧ if c.goesOn result = true then Follows plan rest else rest = []

theorem follows_stop {c : Call} {plan : List Call} {result : Except ApiFailure Json}
    (h : c.goesOn result = false) : Follows (c :: plan) [(c, result)] :=
  ⟨result, [], rfl, by rw [if_neg (Bool.eq_false_iff.1 h)]⟩

theorem follows_go {c : Call} {plan : List Call} {result : Except ApiFailure Json}
    {calls : List (Call × Except ApiFailure Json)} (h : c.goesOn result = true)
    (hrest : Follows plan calls) : Follows (c :: plan) ((c, result) :: calls) :=
  ⟨result, calls, rfl, by rwa [if_pos h]⟩

theorem goesOn_deletion {ns name : String} {result : Except ApiFailure Json}
    (h : ∀ f, result = .error f → f.isGone = true) :
    (Call.deleteApplication ns name).goesOn result = true := by
  cases result with
  | ok j => rfl
  | error f => exact h f rfl

/-! ## Guarded calls -/

/-- Everything is torn down by the steps: the deletion of the application was answered, or there
was nothing to delete, and the event about it was published. -/
structure TornDown (p : Pattern) (around : Surroundings) (steps : List Step) : Prop where
  deleted : ∃ opening settings result,
    SettingsCourse around.operatorNamespace opening (.ok settings) ∧ opening ⊆ steps
      ∧ .called (.deleteApplication settings.applicationNamespace p.applicationName) result ∈ steps
      ∧ ∀ f, result = .error f → f.isGone = true
  published : ∃ ns j, .called (.publish ns (p.deletionEvent around.now)) (.ok j) ∈ steps

/-- The calls among the steps are sent for a pattern that they may be sent for. -/
structure Orderly (p : Pattern) (around : Surroundings) (steps : List Step) : Prop where
  write : ∀ c result, .called c result ∈ steps → c.isWrite = true →
    p.isHeld = true ∧ p.metadata.isDeleting = false
  deletion : ∀ c result, .called c result ∈ steps → c.isDeletion = true →
    p.isHeld = true ∧ p.metadata.isDeleting = true
  release : ∀ first c result last, steps = first ++ .called c result :: last →
    c.isRelease = true →
      p.isHeld = true ∧ p.metadata.isDeleting = true ∧ TornDown p around first
  teardown : ∀ ns name index, p.metadata.namespaceName = some ns → p.metadata.name = some name →
    p.finalizerIndex? = some index → p.metadata.isDeleting = true →
      ∃ opening v rest, SettingsCourse around.operatorNamespace opening v
        ∧ callsOf steps = callsOf opening ++ rest ∧ (∀ e, v = .error e → rest = [])
        ∧ ∀ settings, v = .ok settings →
          Follows (p.teardownPlan ns name index settings around.now) rest

section

variable {p : Pattern} {ns : String} {around : Surroundings} {steps : List Step}

theorem TornDown.mono {more : List Step} (h : TornDown p around steps) (hsteps : steps ⊆ more) :
    TornDown p around more where
  deleted := by
    obtain ⟨opening, settings, result, hsettings, hopening, hmem, hgone⟩ := h.deleted
    exact ⟨opening, settings, result, hsettings, List.Subset.trans hopening hsteps, hsteps hmem,
      hgone⟩
  published := by
    obtain ⟨ns, j, hmem⟩ := h.published
    exact ⟨ns, j, hsteps hmem⟩

theorem TeardownCourse.tornDown {requeue : Requeue}
    (h : TeardownCourse p ns around steps (.ok requeue)) : TornDown p around steps := by
  cases h with
  | @published first settings result line j hsettings hgone =>
    refine ⟨⟨first, settings, result, hsettings, List.subset_append_left _ _, ?_, hgone⟩,
      ns, j, ?_⟩
    · exact List.mem_append_right _ List.mem_cons_self
    · exact List.mem_append_right _
        (List.mem_cons_of_mem _ (List.mem_cons_of_mem _ List.mem_cons_self))

theorem ConvergeCourse.undeleted {v : Except Failure Requeue}
    (h : ConvergeCourse p ns around steps v) : Avoids Call.isDeletion steps :=
  h.avoids (fun _ => Call.isDeletion_of_acts) (fun _ => Call.isDeletion_of_isWrite)
    fun _ _ _ => rfl

/-! ## The cases of the protocol -/

/-- A patch of the pattern names it, and adds the finalizer or removes it. -/
theorem FinalizeCourse.patch {v : Except Failure Requeue} (h : FinalizeCourse p ns around steps v)
    {other name : String} {ops : List PatchOp} {result : Except ApiFailure Json}
    (hmem : .called (.patchPattern other name ops) result ∈ steps) :
    other = ns ∧ p.metadata.name = some name
      ∧ (p.isHeld = false ∨ (Call.patchPattern other name ops).isRelease = true) := by
  have hlast : ∀ {first : List Step} {d : Call} {r : Except ApiFailure Json},
      Avoids Call.patchesPattern first →
      .called (.patchPattern other name ops) result ∈ first ++ [.called d r] →
        Call.patchPattern other name ops = d := by
    intro first d r hfirst hmem
    rcases List.mem_append.1 hmem with hmem | hmem
    · cases hfirst _ _ hmem
    · cases List.mem_singleton.1 hmem
      rfl
  cases h with
  | converged hindex hstays hconverge => cases hconverge.unpatched _ _ hmem
  | unnamed hname => cases hmem
  | notTornDown hindex hdeleting hteardown => cases hteardown.unpatched _ _ hmem
  | notRemoved hindex hdeleting hname hteardown =>
    cases hlast hteardown.unpatched hmem
    exact ⟨rfl, hname, .inr rfl⟩
  | removed hindex hdeleting hname hteardown =>
    cases hlast hteardown.unpatched hmem
    exact ⟨rfl, hname, .inr rfl⟩
  | notAdded hindex hstays hname =>
    cases List.mem_singleton.1 hmem
    exact ⟨rfl, hname, .inl (by rw [Pattern.isHeld, hindex]; rfl)⟩
  | added hindex hstays hname =>
    cases List.mem_singleton.1 hmem
    exact ⟨rfl, hname, .inl (by rw [Pattern.isHeld, hindex]; rfl)⟩
  | idle hindex hdeleting => cases hmem

theorem FinalizeCourse.write {v : Except Failure Requeue} (h : FinalizeCourse p ns around steps v)
    {c : Call} {result : Except ApiFailure Json} (hmem : .called c result ∈ steps)
    (hc : c.isWrite = true) : p.isHeld = true ∧ p.metadata.isDeleting = false := by
  have hcalm : Avoids Call.isWrite steps → p.isHeld = true ∧ p.metadata.isDeleting = false :=
    fun havoids => by cases hc.symm.trans (havoids c result hmem)
  cases h with
  | converged hindex hstays hconverge => exact ⟨Pattern.isHeld_of_index hindex, hstays⟩
  | unnamed hname => exact hcalm avoids_nil
  | notTornDown hindex hdeleting hteardown => exact hcalm hteardown.calm
  | notRemoved hindex hdeleting hname hteardown =>
    exact hcalm (hteardown.calm.append (avoids_call rfl _))
  | removed hindex hdeleting hname hteardown =>
    exact hcalm (hteardown.calm.append (avoids_call rfl _))
  | notAdded hindex hstays hname => exact hcalm (avoids_call rfl _)
  | added hindex hstays hname => exact hcalm (avoids_call rfl _)
  | idle hindex hdeleting => exact hcalm avoids_nil

theorem FinalizeCourse.deletion {v : Except Failure Requeue}
    (h : FinalizeCourse p ns around steps v) {c : Call} {result : Except ApiFailure Json}
    (hmem : .called c result ∈ steps) (hc : c.isDeletion = true) :
    p.isHeld = true ∧ p.metadata.isDeleting = true := by
  have hspared : Avoids Call.isDeletion steps → p.isHeld = true ∧ p.metadata.isDeleting = true :=
    fun havoids => by cases hc.symm.trans (havoids c result hmem)
  cases h with
  | converged hindex hstays hconverge => exact hspared hconverge.undeleted
  | unnamed hname => exact hspared avoids_nil
  | notTornDown hindex hdeleting hteardown => exact ⟨Pattern.isHeld_of_index hindex, hdeleting⟩
  | notRemoved hindex hdeleting hname hteardown =>
    exact ⟨Pattern.isHeld_of_index hindex, hdeleting⟩
  | removed hindex hdeleting hname hteardown => exact ⟨Pattern.isHeld_of_index hindex, hdeleting⟩
  | notAdded hindex hstays hname => exact hspared (avoids_call rfl _)
  | added hindex hstays hname => exact hspared (avoids_call rfl _)
  | idle hindex hdeleting => exact hspared avoids_nil

/-- The finalizer is removed by the last call only, when all is torn down. -/
theorem FinalizeCourse.release {v : Except Failure Requeue}
    (h : FinalizeCourse p ns around steps v) :
    Avoids Call.isRelease steps ∨ p.isHeld = true ∧ p.metadata.isDeleting = true
      ∧ ∃ first c result, steps = first ++ [.called c result] ∧ Avoids Call.isRelease first
        ∧ TornDown p around first := by
  have hunreleased : ∀ {steps : List Step}, Avoids Call.patchesPattern steps →
      Avoids Call.isRelease steps :=
    fun havoids => havoids.mono fun _ => Call.isRelease_of_patchesPattern
  cases h with
  | converged hindex hstays hconverge => exact .inl (hunreleased hconverge.unpatched)
  | unnamed hname => exact .inl avoids_nil
  | notTornDown hindex hdeleting hteardown => exact .inl (hunreleased hteardown.unpatched)
  | notRemoved hindex hdeleting hname hteardown =>
    exact .inr ⟨Pattern.isHeld_of_index hindex, hdeleting, _, _, _, rfl,
      hunreleased hteardown.unpatched, hteardown.tornDown⟩
  | removed hindex hdeleting hname hteardown =>
    exact .inr ⟨Pattern.isHeld_of_index hindex, hdeleting, _, _, _, rfl,
      hunreleased hteardown.unpatched, hteardown.tornDown⟩
  | notAdded hindex hstays hname => exact .inl (avoids_call (p.isRelease_addFinalizer _ _) _)
  | added hindex hstays hname => exact .inl (avoids_call (p.isRelease_addFinalizer _ _) _)
  | idle hindex hdeleting => exact .inl avoids_nil

/-- A pass over a pattern that is held and deleted reads the settings, and with those it follows
the plan. -/
theorem FinalizeCourse.teardown {v : Except Failure Requeue}
    (h : FinalizeCourse p ns around steps v) {name : String} {index : Nat}
    (hname : p.metadata.name = some name) (hindex : p.finalizerIndex? = some index)
    (hdeleting : p.metadata.isDeleting = true) :
    ∃ opening w rest, SettingsCourse around.operatorNamespace opening w
      ∧ callsOf steps = callsOf opening ++ rest ∧ (∀ e, w = .error e → rest = [])
      ∧ ∀ settings, w = .ok settings →
        Follows (p.teardownPlan ns name index settings around.now) rest := by
  have hremoval : ∀ {steps : List Step} {requeue : Requeue} (result : Except ApiFailure Json),
      TeardownCourse p ns around steps (.ok requeue) →
      ∃ opening w rest, SettingsCourse around.operatorNamespace opening w
        ∧ callsOf (steps ++ [.called (.patchPattern ns name (Pattern.removeFinalizer index)) result])
          = callsOf opening ++ rest
        ∧ (∀ e, w = .error e → rest = [])
        ∧ ∀ settings, w = .ok settings →
          Follows (p.teardownPlan ns name index settings around.now) rest := by
    intro steps requeue result hteardown
    cases hteardown with
    | @published first settings deleted line j hsettings hgone =>
      refine ⟨first, .ok settings,
        [ (.deleteApplication settings.applicationNamespace p.applicationName, deleted),
          (.publish ns (p.deletionEvent around.now), .ok j),
          (.patchPattern ns name (Pattern.removeFinalizer index), result) ],
        hsettings, ?_, nofun, ?_⟩
      · rw [callsOf_append, callsOf_append, List.append_assoc]
        rfl
      · rintro _ ⟨⟩
        refine follows_go (goesOn_deletion hgone) (follows_go rfl ?_)
        cases hgoes : (Call.patchPattern ns name (Pattern.removeFinalizer index)).goesOn result with
        | true => exact follows_go hgoes rfl
        | false => exact follows_stop hgoes
  cases h with
  | converged hindex' hstays hconverge => cases hdeleting.symm.trans hstays
  | unnamed hname' => cases hname.symm.trans hname'
  | notTornDown hindex' hdeleting' hteardown =>
    cases hteardown with
    | unsettled hsettings =>
      refine ⟨steps, _, [], hsettings, (List.append_nil _).symm, fun _ _ => rfl, nofun⟩
    | @notDeleted first settings f hsettings hgone =>
      refine ⟨first, .ok settings, _, hsettings, callsOf_append _ _, nofun, ?_⟩
      rintro _ ⟨⟩
      exact follows_stop hgone
    | @notPublished first settings deleted line f hsettings hgone =>
      refine ⟨first, .ok settings, _, hsettings, callsOf_append _ _, nofun, ?_⟩
      rintro _ ⟨⟩
      exact follows_go (goesOn_deletion hgone) (follows_stop rfl)
  | notRemoved hindex' hdeleting' hname' hteardown =>
    cases hindex.symm.trans hindex'
    cases hname.symm.trans hname'
    exact hremoval _ hteardown
  | removed hindex' hdeleting' hname' hteardown =>
    cases hindex.symm.trans hindex'
    cases hname.symm.trans hname'
    exact hremoval _ hteardown
  | notAdded hindex' hstays hname' => cases hindex.symm.trans hindex'
  | added hindex' hstays hname' => cases hindex.symm.trans hindex'
  | idle hindex' hdeleting' => cases hindex.symm.trans hindex'

/-! ## The whole pass -/

theorem ReconcileCourse.call {v : Except Failure Requeue} (h : ReconcileCourse p around steps v)
    {c : Call} {result : Except ApiFailure Json} (hmem : .called c result ∈ steps) :
    ∃ ns line body, p.metadata.namespaceName = some ns
      ∧ steps = .noted .began :: .noted (.log line) :: body ++ [.noted (.ended "pattern")]
      ∧ FinalizeCourse p ns around body v ∧ .called c result ∈ body := by
  cases h with
  | homeless hns =>
    simp only [List.mem_cons, List.not_mem_nil, or_false, reduceCtorEq] at hmem
  | @finalized ns line body _ hns hfinalize =>
    refine ⟨ns, line, body, hns, rfl, hfinalize, ?_⟩
    simpa only [List.cons_append, List.mem_cons, List.mem_append, List.not_mem_nil, or_false,
      reduceCtorEq, false_or] using hmem

/-- A pass patches the pattern at its own place. -/
theorem ReconcileCourse.patch {v : Except Failure Requeue} (h : ReconcileCourse p around steps v)
    {name : String} {ops : List PatchOp} {result : Except ApiFailure Json}
    (hmem : .called (.patchPattern ns name ops) result ∈ steps) :
    p.metadata.namespaceName = some ns ∧ p.metadata.name = some name
      ∧ (p.isHeld = false ∨ (Call.patchPattern ns name ops).isRelease = true) := by
  obtain ⟨home, line, body, hns, -, hfinalize, hbody⟩ := h.call hmem
  obtain ⟨rfl, hname, hkind⟩ := hfinalize.patch hbody
  exact ⟨hns, hname, hkind⟩

/-- Every pass sends only what it may send. -/
theorem orderly_of_course {v : Except Failure Requeue} (h : ReconcileCourse p around steps v) :
    Orderly p around steps where
  write c result hmem hc := by
    obtain ⟨ns, line, body, -, -, hfinalize, hbody⟩ := h.call hmem
    exact hfinalize.write hbody hc
  deletion c result hmem hc := by
    obtain ⟨ns, line, body, -, -, hfinalize, hbody⟩ := h.call hmem
    exact hfinalize.deletion hbody hc
  release first c result last hsteps hc := by
    have hmem : .called c result ∈ steps :=
      hsteps ▸ List.mem_append_right _ List.mem_cons_self
    obtain ⟨ns, line, body, -, hall, hfinalize, hbody⟩ := h.call hmem
    obtain hnone | ⟨hheld, hdeleting, before, d, r, rfl, hbefore, htorn⟩ := hfinalize.release
    · cases hc.symm.trans (hnone c result hbody)
    · have hopening : Avoids Call.isRelease (.noted .began :: .noted (.log line) :: before) :=
        ((avoids_note .began).append (avoids_note (.log line))).append hbefore
      have hcut : (.noted .began :: .noted (.log line) :: before)
          ++ .called d r :: [.noted (.ended "pattern")] = first ++ .called c result :: last := by
        rw [← hsteps, hall]
        simp only [List.cons_append, List.append_assoc, List.nil_append]
      obtain ⟨rfl, -⟩ := hopening.cut (avoids_note _) hc hcut
      refine ⟨hheld, hdeleting, htorn.mono fun s hs => ?_⟩
      exact List.mem_cons_of_mem _ (List.mem_cons_of_mem _ hs)
  teardown ns name index hns hname hindex hdeleting := by
    cases h with
    | homeless hnone => cases hns.symm.trans hnone
    | finalized hhome hfinalize =>
      cases hns.symm.trans hhome
      obtain ⟨opening, w, rest, hsettings, hcalls, hrest⟩ :=
        hfinalize.teardown hname hindex hdeleting
      refine ⟨opening, w, rest, hsettings, ?_, hrest⟩
      rw [← hcalls, callsOf_append]
      exact List.append_nil _

end

end PatternSync
