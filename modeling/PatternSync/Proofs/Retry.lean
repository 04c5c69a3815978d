import PatternSync.Proofs.WriteCount

/-!
# When a failed pass is tried again

A pass that fails is tried again after five minutes, and after one second if it has met a conflict
where it merges its changes into the application. A conflict where it creates the application is
not among those: such a pass waits as long as any other. Main statement: `failed_pass_retry`.

Only one failure has a time of its own (`writeFailure`), so each part of a pass keeps the two apart
by the steps that it has made (`Paced`). What makes that go through a pass is that a failed write is
the last thing that the part around it calls for, and that no other part writes (`Unrefused`). The
failure is the one of the attempt inside, although the protocol around the finalizer wraps it: what
unwraps the failures of that protocol yields the pass (`finalize_eq`).
-/

namespace PatternSync

open Pass

/-! ## The protocol and its failures -/

/-- An attempt in the protocol around the finalizer. -/
abbrev Finalizing := ExceptT FinalizerFailure Pass

namespace Finalizing

def nameOf (p : Pattern) : Finalizing String :=
  match p.metadata.name with
  | some name => return name
  | none => throw .unnamed

def patch (ns name : String) (ops : List PatchOp) (failure : ApiFailure → FinalizerFailure) :
    Finalizing Unit := do
  match ← Pass.ask (.patchPattern ns name ops) with
  | .ok _ => return ()
  | .error f => throw (failure f)

/-- The protocol around two attempts, of which it runs at most one. It wraps their failures. -/
def protocol (p : Pattern) (ns : String) (apply cleanup : Attempt Requeue) : Finalizing Requeue := do
  match p.finalizerIndex?, p.metadata.isDeleting with
  | some _, false => apply.adapt .applying
  | some index, true =>
    let name ← nameOf p
    let requeue ← cleanup.adapt .cleaning
    patch ns name (Pattern.removeFinalizer index) .removing
    return requeue
  | none, false =>
    patch ns (← nameOf p) p.addFinalizer .adding
    return .onChange
  | none, true => return .onChange

end Finalizing

/-- The failure of a pass that ends with a failure of the protocol: that of the attempt inside,
if there is one. -/
def FinalizerFailure.own : FinalizerFailure → Failure
  | .applying f | .cleaning f => f
  | f => .plain (.finalizer f)

section

variable {α β ε δ : Type}

theorem adapt_bind (f : ε → δ) (x : ExceptT ε Pass α) (g : α → ExceptT ε Pass β) :
    (x >>= g).adapt f = x.adapt f >>= fun a => (g a).adapt f := by
  have hpass : ∀ x : Pass (Except ε α),
      (x.bind (ExceptT.bindCont g)).bind (fun r => .done (r.mapError f))
        = (x.bind fun r => .done (r.mapError f)).bind
          (ExceptT.bindCont fun a => (g a).adapt f) := by
    intro x
    induction x with
    | done r => cases r <;> rfl
    | call c next ih => exact congrArg (Pass.call c) (funext ih)
    | note n next ih => exact congrArg (Pass.note n) ih
  exact hpass x

theorem adapt_adapt {wrap : ε → δ} {own : δ → ε} (h : ∀ e, own (wrap e) = e)
    (x : ExceptT ε Pass α) : (x.adapt wrap).adapt own = x := by
  have hpass : ∀ x : Pass (Except ε α),
      (x.bind fun r => .done (r.mapError wrap)).bind (fun r => .done (r.mapError own)) = x := by
    intro x
    induction x with
    | done r =>
      cases r with
      | ok a => rfl
      | error e => exact congrArg (fun e => Pass.done (Except.error e)) (h e)
    | call c next ih => exact congrArg (Pass.call c) (funext ih)
    | note n next ih => exact congrArg (Pass.note n) ih
  exact hpass x

end

theorem adapt_nameOf (p : Pattern) :
    (Finalizing.nameOf p).adapt FinalizerFailure.own = Attempt.nameOf p := by
  unfold Finalizing.nameOf Attempt.nameOf
  cases p.metadata.name with
  | none => rfl
  | some name => rfl

theorem adapt_patch (ns name : String) (ops : List PatchOp)
    {failure : ApiFailure → FinalizerFailure}
    (h : ∀ f, (failure f).own = Attempt.finalizerFailure (failure f)) :
    (Finalizing.patch ns name ops failure).adapt FinalizerFailure.own
      = Attempt.patchFinalizers ns name ops failure := by
  refine congrArg (Pass.call _) (funext fun result => ?_)
  cases result with
  | ok j => rfl
  | error f => exact congrArg (fun e => Pass.done (Except.error e)) (h f)

/-- A pass in a namespace is the protocol around its two attempts, with the failures of those
unwrapped. -/
theorem finalize_eq (p : Pattern) (ns : String) (around : Surroundings) :
    Attempt.finalize p ns around
      = (Finalizing.protocol p ns (Attempt.converge p ns around)
        (Attempt.tearDown p ns around)).adapt FinalizerFailure.own := by
  have happlying : ∀ f, (FinalizerFailure.applying f).own = f := fun _ => rfl
  have hcleaning : ∀ f, (FinalizerFailure.cleaning f).own = f := fun _ => rfl
  unfold Attempt.finalize Finalizing.protocol
  cases p.finalizerIndex? with
  | some index =>
    cases p.metadata.isDeleting with
    | false => exact (adapt_adapt happlying _).symm
    | true =>
      dsimp only
      rw [adapt_bind, adapt_nameOf]
      congr 1
      funext name
      rw [adapt_bind, adapt_adapt hcleaning]
      congr 1
      funext requeue
      rw [adapt_bind, adapt_patch _ _ _ fun _ => rfl]
      rfl
  | none =>
    cases p.metadata.isDeleting with
    | false =>
      dsimp only
      rw [adapt_bind, adapt_nameOf]
      congr 1
      funext name
      rw [adapt_bind, adapt_patch _ _ _ fun _ => rfl]
      rfl
    | true => rfl

theorem course_adapt {α ε δ : Type} {f : ε → δ} {x : ExceptT ε Pass α} {steps : List Step} {e : δ}
    (h : Course (x.adapt f).run steps (.error e)) :
    ∃ inner, Course x.run steps (.error inner) ∧ e = f inner := by
  have hbind : Course (x.run.bind fun r => .done (r.mapError f)) steps (.error e) := h
  obtain ⟨first, last, r, hfirst, hlast, rfl⟩ := course_bind.1 hbind
  obtain ⟨rfl, hr⟩ := course_done hlast
  rw [List.append_nil]
  cases r with
  | ok a => cases hr
  | error inner =>
    cases hr
    exact ⟨inner, hfirst, rfl⟩

/-! ## Failures and their pace -/

/-- No write is answered with a failure. -/
def Unrefused (steps : List Step) : Prop :=
  ∀ c f, .called c (.error f) ∈ steps → c.isWrite = false

/-- A merge into an application has met a conflict. -/
def Overtaken (steps : List Step) (r : Refusal) : Prop :=
  r.code = 409 ∧ ∃ ns name change,
    .called (.mergeApplication ns name change) (.error (.refusal r)) ∈ steps

/-- The failure after the steps has a time of its own exactly if they have met a conflict with a
merge. If a creation has failed, that is the failure. -/
structure Paced (steps : List Step) (f : Failure) : Prop where
  pace : (∃ r, Overtaken steps r ∧ f = .requeue (.api (.refusal r)) conflictMillis)
    ∨ (∀ r, ¬ Overtaken steps r) ∧ ∃ c, f = .plain c
  created : ∀ ns a g, .called (.createApplication ns a) (.error g) ∈ steps → f = .ofApi g

section

variable {first second steps before after : List Step} {f : Failure}

theorem Avoids.unrefused (h : Avoids Call.isWrite steps) : Unrefused steps :=
  fun c _ hmem => h c _ hmem

theorem Unrefused.append (h₁ : Unrefused first) (h₂ : Unrefused second) :
    Unrefused (first ++ second) := by
  intro c f hmem
  rcases List.mem_append.1 hmem with hmem | hmem
  · exact h₁ c f hmem
  · exact h₂ c f hmem

theorem unrefused_answered (c : Call) (j : Json) : Unrefused [.called c (.ok j)] := by
  intro d f hmem
  cases List.mem_singleton.1 hmem

theorem Unrefused.paced (h : Unrefused steps) (c : Cause) : Paced steps (.plain c) where
  pace := by
    refine .inr ⟨fun r hr => ?_, c, rfl⟩
    obtain ⟨-, ns, name, change, hmem⟩ := hr
    cases h _ _ hmem
  created ns a g hmem := by
    cases h _ _ hmem

theorem Unrefused.of_mem (hbefore : Unrefused before) (hafter : Unrefused after) {c : Call}
    {g : ApiFailure} (hc : c.isWrite = true)
    (hmem : .called c (.error g) ∈ before ++ steps ++ after) : .called c (.error g) ∈ steps := by
  rcases List.mem_append.1 hmem with hmem | hmem
  · rcases List.mem_append.1 hmem with hmem | hmem
    · cases hc.symm.trans (hbefore c g hmem)
    · exact hmem
  · cases hc.symm.trans (hafter c g hmem)

theorem Paced.surround (h : Paced steps f) (hbefore : Unrefused before)
    (hafter : Unrefused after) : Paced (before ++ steps ++ after) f where
  pace := by
    rcases h.pace with ⟨r, ⟨hcode, ns, name, change, hmem⟩, hf⟩ | ⟨hnone, hf⟩
    · refine .inl ⟨r, ⟨hcode, ns, name, change, ?_⟩, hf⟩
      exact List.mem_append_left _ (List.mem_append_right _ hmem)
    · refine .inr ⟨fun r hr => ?_, hf⟩
      obtain ⟨hcode, ns, name, change, hmem⟩ := hr
      exact hnone r ⟨hcode, ns, name, change, hbefore.of_mem hafter rfl hmem⟩
  created ns a g hmem := h.created ns a g (hbefore.of_mem hafter rfl hmem)

end

/-- A merge that fails ends the pass at its pace. -/
theorem paced_merge (ns name : String) (change : Json) (f : ApiFailure) :
    Paced [.called (.mergeApplication ns name change) (.error f)] (writeFailure f) where
  pace := by
    have honly : ∀ r, Overtaken [.called (.mergeApplication ns name change) (.error f)] r →
        r.code = 409 ∧ f = .refusal r := by
      rintro r ⟨hcode, _, _, _, hmem⟩
      cases List.mem_singleton.1 hmem
      exact ⟨hcode, rfl⟩
    unfold writeFailure
    split
    · rename_i r
      split
      · rename_i hcode
        exact .inl ⟨r, ⟨hcode, _, _, _, List.mem_singleton.2 rfl⟩, rfl⟩
      · rename_i hcode
        refine .inr ⟨fun s hs => ?_, _, rfl⟩
        obtain ⟨hs, heq⟩ := honly s hs
        cases heq
        exact hcode hs
    · rename_i hother
      refine .inr ⟨fun s hs => ?_, _, rfl⟩
      exact hother s (honly s hs).2
  created _ _ _ hmem := by
    cases List.mem_singleton.1 hmem

theorem paced_create (ns : String) (a : Application) (g : ApiFailure) :
    Paced [.called (.createApplication ns a) (.error g)] (.ofApi g) where
  pace := by
    refine .inr ⟨fun r hr => ?_, _, rfl⟩
    obtain ⟨-, _, _, _, hmem⟩ := hr
    cases List.mem_singleton.1 hmem
  created _ _ _ hmem := by
    cases List.mem_singleton.1 hmem
    rfl

/-! ## The pace of each part -/

section

variable {p : Pattern} {ns : String} {around : Surroundings} {settings : Settings}
  {steps : List Step}

theorem SyncCourse.unrefused {outcome : SyncOutcome} (h : SyncCourse p settings steps (.ok outcome)) :
    Unrefused steps := by
  have hopening := fun result line => (plain_reading p settings result line).calm.unrefused
  have hnote : ∀ n, Unrefused [.noted n] := fun n => (avoids_note n).unrefused
  cases h with
  | created habsent =>
    exact (hopening _ _).append ((unrefused_answered _ _).append (hnote _))
  | unchanged hupdate => exact hopening _ _
  | updated hupdate => exact (hopening _ _).append ((unrefused_answered _ _).append (hnote _))

theorem SyncCourse.paced {f : Failure} (h : SyncCourse p settings steps (.error f)) :
    Paced steps f := by
  have hopening := fun result line => (plain_reading p settings result line).calm.unrefused
  cases h with
  | unread habsent => exact (avoids_call rfl _).unrefused.paced _
  | notCreated habsent =>
    exact (paced_create _ _ _).surround (hopening _ _) avoids_nil.unrefused
  | notUpdated hupdate hwarning =>
    exact (paced_merge _ _ _ _).surround (hopening _ _) hwarning.plain.calm.unrefused

theorem StatusCourse.unrefused {status : PatternStatus} (h : StatusCourse p around steps (.ok status)) :
    Unrefused steps := by
  cases h with
  | synced hsettings hfacts hsync hlast =>
    have hopening := (hsettings.plain.append hfacts.plain).calm.unrefused
    exact (hopening.append hsync.unrefused).append hlast.plain.calm.unrefused

theorem StatusCourse.paced {f : Failure} (h : StatusCourse p around steps (.error f)) :
    Paced steps f := by
  cases h with
  | unsettled hsettings =>
    obtain ⟨c, rfl⟩ : ∃ c, f = .plain c := by
      cases hsettings with
      | rejected hdata => exact ⟨_, rfl⟩
      | unread habsent => exact ⟨_, rfl⟩
    exact hsettings.plain.calm.unrefused.paced c
  | failed hsettings hfacts hsync =>
    have hpaced := hsync.paced.surround (hsettings.plain.append hfacts.plain).calm.unrefused
      avoids_nil.unrefused
    rwa [List.append_nil] at hpaced

theorem ConvergeCourse.paced {f : Failure} (h : ConvergeCourse p ns around steps (.error f)) :
    Paced steps f := by
  have hrecord : ∀ status result,
      Unrefused [.called (.recordStatus ns p.displayName status) result] :=
    fun _ _ => (avoids_call rfl _).unrefused
  cases h with
  | failed hsync hsame => exact hsync.paced
  | failureRecorded hsync hdiffers =>
    exact hsync.paced.surround avoids_nil.unrefused (hrecord _ _)
  | failureNotRecorded hsync hdiffers =>
    exact hsync.paced.surround avoids_nil.unrefused
      ((hrecord _ _).append (avoids_note _).unrefused)
  | notRecorded hsync hdiffers => exact (hsync.unrefused.append (hrecord _ _)).paced _

theorem TeardownCourse.paced {f : Failure} (h : TeardownCourse p ns around steps (.error f)) :
    Paced steps f := by
  have hcalm := h.calm.unrefused
  obtain ⟨c, rfl⟩ : ∃ c, f = .plain c := by
    cases h with
    | unsettled hsettings =>
      cases hsettings with
      | rejected hdata => exact ⟨_, rfl⟩
      | unread habsent => exact ⟨_, rfl⟩
    | notDeleted hsettings hgone => exact ⟨_, rfl⟩
    | notPublished hsettings hgone => exact ⟨_, rfl⟩
  exact hcalm.paced c

theorem FinalizeCourse.paced {f : Failure} (h : FinalizeCourse p ns around steps (.error f)) :
    Paced steps f := by
  cases h with
  | converged hindex hstays hconverge => exact hconverge.paced
  | unnamed hname => exact avoids_nil.unrefused.paced _
  | notTornDown hindex hdeleting hteardown => exact hteardown.paced
  | notRemoved hindex hdeleting hname hteardown =>
    exact (hteardown.calm.append (avoids_call rfl _)).unrefused.paced _
  | notAdded hindex hstays hname => exact (avoids_call rfl _).unrefused.paced _

theorem ReconcileCourse.paced {f : Failure} (h : ReconcileCourse p around steps (.error f)) :
    Paced steps f := by
  have hnote : ∀ n, Unrefused [.noted n] := fun n => (avoids_note n).unrefused
  cases h with
  | homeless hns => exact ((hnote _).append (hnote _)).paced _
  | finalized hns hfinalize =>
    exact hfinalize.paced.surround ((hnote .began).append (hnote (.log _))) (hnote _)

end

/-! ## Retries -/

/-- The failure of a pass is the one of the attempt that the protocol runs, whatever the protocol
makes of it. -/
def Pattern.FailsBy (p : Pattern) (around : Surroundings) (steps : List Step) (f : Failure) : Prop :=
  p.metadata.namespaceName = none ∧ f = namespaceMissing
    ∨ ∃ ns line body failure, p.metadata.namespaceName = some ns
      ∧ steps = .noted .began :: .noted (.log line) :: body ++ [.noted (.ended "pattern")]
      ∧ Course (Finalizing.protocol p ns (Attempt.converge p ns around)
        (Attempt.tearDown p ns around)).run body (.error failure)
      ∧ f = failure.own

theorem failsBy_of_course {p : Pattern} {around : Surroundings} {steps : List Step} {f : Failure}
    (h : Course (p.reconcile around) steps (.error f)) : p.FailsBy around steps f := by
  obtain ⟨body, rfl, hbody⟩ := course_reconcile.1 h
  unfold Attempt.reconcileNamed at hbody
  split at hbody
  · rename_i hns
    obtain ⟨rfl, heq⟩ := course_done hbody
    cases heq
    exact .inl ⟨hns, rfl⟩
  · rename_i ns hns
    obtain ⟨inner, rfl, hfinalize⟩ := course_note hbody
    rw [finalize_eq] at hfinalize
    obtain ⟨failure, hprotocol, rfl⟩ := course_adapt hfinalize
    exact .inr ⟨ns, _, inner, failure, hns, rfl, hprotocol, rfl⟩

/-- A pass that has failed is tried again after a second if a merge into the application has met a
conflict, which is then its failure, and after five minutes otherwise. In particular it waits for
five minutes whatever the answer was by which the application could not be created. What is noted
and counted is the failure of the attempt that the protocol around the finalizer has run. -/
theorem failed_pass_retry {p : Pattern} {around : Surroundings} {steps last : List Step}
    {f : Failure} {requeue : Requeue} (hpass : Course (p.reconcile around) steps (.error f))
    (hafter : Course (p.handleFailure f) last requeue) :
    p.FailsBy around steps f
      ∧ last = [ .noted (.log { level := .warn, target := LogLine.patternTarget,
                                message := "reconcile failed: " ++ f.debug }),
          .noted (.failed p.displayName f.label) ]
      ∧ ((∃ r, Overtaken steps r ∧ f = .requeue (.api (.refusal r)) 1000
            ∧ requeue = .afterMillis 1000)
          ∨ (∀ r, ¬ Overtaken steps r) ∧ (∃ c, f = .plain c) ∧ requeue = .afterMillis 300000)
      ∧ ∀ ns a g, .called (.createApplication ns a) (.error g) ∈ steps →
        f = .ofApi g ∧ requeue = .afterMillis 300000 := by
  have hpaced := (reconcileCourse_of_course hpass).paced
  obtain ⟨_, rfl, hlogged⟩ := course_note hafter
  obtain ⟨_, rfl, hcounted⟩ := course_note hlogged
  obtain ⟨rfl, rfl⟩ := course_done hcounted
  refine ⟨failsBy_of_course hpass, rfl, ?_, ?_⟩
  · rcases hpaced.pace with ⟨r, hovertaken, rfl⟩ | ⟨hnone, c, rfl⟩
    · exact .inl ⟨r, hovertaken, rfl, rfl⟩
    · exact .inr ⟨hnone, ⟨c, rfl⟩, rfl⟩
  · intro ns a g hmem
    obtain rfl := hpaced.created ns a g hmem
    exact ⟨rfl, rfl⟩

def Pass.Step.isConflict (creation : Bool) : Step → Bool
  | .called (.createApplication _ _) (.error (.refusal r)) => creation && r.code = 409
  | .called (.mergeApplication _ _ _) (.error (.refusal r)) => !creation && r.code = 409
  | _ => false

/-- Of two passes that meet a conflict, the one that creates the application waits for five
minutes, and the one that merges into it waits for a second. -/
theorem failed_pass_retry_conflicts :
    ∃ (p : Pattern) (around : Surroundings) (creating merging : List Step) (f g : Failure),
      Course (p.reconcile around) creating (.error f)
        ∧ creating.any (Step.isConflict true) = true
        ∧ (∃ last, Course (p.handleFailure f) last (.afterMillis 300000))
        ∧ Course (p.reconcile around) merging (.error g)
        ∧ merging.any (Step.isConflict false) = true
        ∧ ∃ last, Course (p.handleFailure g) last (.afterMillis 1000) := by
  let around : Surroundings :=
    { operatorNamespace := "operators", now := .midnight (.newYear 2024) }
  let absent : Fate := .refused (.refusal { status := "", reason := "NotFound", code := 404 })
  let silent : Fate := .refused (.service "")
  let conflict : Fate := .refused (.refusal { status := "", reason := "Conflict", code := 409 })
  let served : Fate := .served .null ""
  let start : Account := { members := freshMembers }
  let visit := (start.pattern.reconcile around).conduct Account.serve start
  have hcreates : (visit [absent, silent, absent, conflict, served]).any (fun r =>
      !r.value.isOk && r.steps.any (Step.isConflict true)) = true := by
    decide +kernel
  have hmerges : (visit [absent, silent, served, conflict, served]).any (fun r =>
      !r.value.isOk && r.steps.any (Step.isConflict false)) = true := by
    decide +kernel
  obtain ⟨⟨created, _, creating⟩, hcreating, hcreated⟩ := (Option.any_eq_true _ _).1 hcreates
  obtain ⟨⟨merged, _, merging⟩, hmerging, hmerged⟩ := (Option.any_eq_true _ _).1 hmerges
  rw [Bool.and_eq_true] at hcreated hmerged
  cases created with
  | ok requeue => cases hcreated.1
  | error f =>
    cases merged with
    | ok requeue => cases hmerged.1
    | error g =>
      have hfirst := (conduct_iff.1 ⟨_, hcreating⟩).1
      have hsecond := (conduct_iff.1 ⟨_, hmerging⟩).1
      refine ⟨_, around, creating, merging, f, g, hfirst, hcreated.2, ?_, hsecond, hmerged.2, ?_⟩
      · obtain ⟨step, hmem, hconflict⟩ := List.any_eq_true.1 hcreated.2
        have hafter : Course (start.pattern.handleFailure f) [_, _] _ := .note (.note (.done _))
        obtain ⟨-, -, -, hcreation⟩ := failed_pass_retry hfirst hafter
        unfold Step.isConflict at hconflict
        split at hconflict
        · exact ⟨_, (hcreation _ _ _ hmem).2 ▸ hafter⟩
        · cases hconflict
        · cases hconflict
      · obtain ⟨step, hmem, hconflict⟩ := List.any_eq_true.1 hmerged.2
        have hafter : Course (start.pattern.handleFailure g) [_, _] _ := .note (.note (.done _))
        obtain ⟨-, -, ⟨r, -, -, hrequeue⟩ | ⟨hnone, -⟩, -⟩ := failed_pass_retry hsecond hafter
        · exact ⟨_, hrequeue ▸ hafter⟩
        · unfold Step.isConflict at hconflict
          split at hconflict
          · cases hconflict
          · rename_i ns name change r
            exact absurd ⟨of_decide_eq_true hconflict, ns, name, change, hmem⟩ (hnone r)
          · cases hconflict

end PatternSync
