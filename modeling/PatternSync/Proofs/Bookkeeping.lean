import PatternSync.Proofs.FinalizerPatch
import PatternSync.Proofs.Writes

/-!
# What a pass counts and records

A pass over a pattern does one of two things (`ReconcileCourse.bookkeeping`). It writes nothing that
is answered: then it counts nothing, and every status that it records has the version that it found.
Or one write is answered: then it counts that one, and afterwards calls for a record of the next
version. A pass whose write fails is of the first kind, and it ends with an error
(`ReconcileCourse.failed_of_write`).
-/

namespace PatternSync

open Pass

/-! ## Steps that claim no write -/

/-- The steps claim no write: none is counted, and every recorded status has the version. -/
structure Unclaimed (version : UInt32) (steps : List Step) : Prop where
  counted : ∀ pattern operation, .noted (.wrote pattern operation) ∉ steps
  recorded : ∀ ns name status result, .called (.recordStatus ns name status) result ∈ steps →
    status.version = version

namespace Unclaimed

variable {version : UInt32} {first second : List Step}

theorem append (h₁ : Unclaimed version first) (h₂ : Unclaimed version second) :
    Unclaimed version (first ++ second) where
  counted pattern operation hmem := by
    rcases List.mem_append.1 hmem with hmem | hmem
    · exact h₁.counted _ _ hmem
    · exact h₂.counted _ _ hmem
  recorded ns name status result hmem := by
    rcases List.mem_append.1 hmem with hmem | hmem
    · exact h₁.recorded _ _ _ _ hmem
    · exact h₂.recorded _ _ _ _ hmem

end Unclaimed

theorem unclaimed_note {version : UInt32} {n : Note}
    (hn : ∀ pattern operation, n ≠ .wrote pattern operation) : Unclaimed version [.noted n] where
  counted pattern operation hmem := by
    cases List.mem_singleton.1 hmem
    exact hn _ _ rfl
  recorded _ _ _ _ hmem := by
    cases List.mem_singleton.1 hmem

theorem unclaimed_call {version : UInt32} {c : Call}
    (hc : ∀ ns name status, c = .recordStatus ns name status → status.version = version)
    (result : Except ApiFailure Json) : Unclaimed version [.called c result] where
  counted _ _ hmem := by
    cases List.mem_singleton.1 hmem
  recorded _ _ _ _ hmem := by
    cases List.mem_singleton.1 hmem
    exact hc _ _ _ rfl

theorem Plain.unclaimed {steps : List Step} (h : Plain steps) (version : UInt32) :
    Unclaimed version steps where
  counted pattern operation hmem := by
    obtain ⟨_, heq⟩ | ⟨_, _, heq, -⟩ := h _ hmem
    · cases heq
    · cases heq
  recorded ns name status result hmem := by
    cases h.passive _ _ hmem

def Pass.Step.count (m : Metrics) : Step → Metrics
  | .called _ _ => m
  | .noted n => n.count m

/-- Steps that count no write leave the counts of writes as they were. -/
theorem writes_count {steps : List Step}
    (h : ∀ pattern operation, .noted (.wrote pattern operation) ∉ steps) (m : Metrics) :
    (steps.foldl Step.count m).writes = m.writes := by
  induction steps generalizing m with
  | nil => rfl
  | cons s steps ih =>
    rw [List.foldl_cons, ih fun pattern operation hmem => h _ _ (List.mem_cons_of_mem _ hmem)]
    cases s with
    | called c result => rfl
    | noted n =>
      cases n with
      | wrote pattern operation => exact absurd List.mem_cons_self (h pattern operation)
      | _ => rfl

/-! ## Idle steps -/

/-- The steps answer no write and count none, every recorded status has the version, and the
pattern gets no patch but of its finalizers. -/
structure Idle (version : UInt32) (steps : List Step) : Prop extends
    Unclaimed version steps where
  unanswered : ∀ c j, .called c (.ok j) ∈ steps → c.isWrite = false
  patches : ∀ ns name ops result, .called (.patchPattern ns name ops) result ∈ steps →
    ∀ op ∈ ops, op.OnFinalizers

namespace Idle

variable {version : UInt32} {first second : List Step}

theorem append (h₁ : Idle version first) (h₂ : Idle version second) :
    Idle version (first ++ second) where
  toUnclaimed := h₁.toUnclaimed.append h₂.toUnclaimed
  unanswered c j hmem := by
    rcases List.mem_append.1 hmem with hmem | hmem
    · exact h₁.unanswered c j hmem
    · exact h₂.unanswered c j hmem
  patches ns name ops result hmem := by
    rcases List.mem_append.1 hmem with hmem | hmem
    · exact h₁.patches ns name ops result hmem
    · exact h₂.patches ns name ops result hmem

end Idle

theorem Plain.idle {steps : List Step} (h : Plain steps) (version : UInt32) :
    Idle version steps where
  toUnclaimed := h.unclaimed version
  unanswered c _ hmem := h.calm c _ hmem
  patches _ _ _ _ hmem := nomatch h.unpatched _ _ hmem

theorem idle_note {version : UInt32} {n : Note}
    (hn : ∀ pattern operation, n ≠ .wrote pattern operation) : Idle version [.noted n] where
  toUnclaimed := unclaimed_note hn
  unanswered _ _ hmem := nomatch List.mem_singleton.1 hmem
  patches _ _ _ _ hmem := nomatch List.mem_singleton.1 hmem

theorem idle_log (version : UInt32) (line : LogLine) : Idle version [.noted (.log line)] :=
  (plain_nil.log line).idle version

theorem idle_call {version : UInt32} {c : Call} {result : Except ApiFailure Json}
    (hwrite : ∀ j, result = .ok j → c.isWrite = false)
    (hrecord : ∀ ns name status, c = .recordStatus ns name status → status.version = version)
    (hpatch : ∀ ns name ops, c = .patchPattern ns name ops → ∀ op ∈ ops, op.OnFinalizers) :
    Idle version [.called c result] where
  toUnclaimed := unclaimed_call hrecord result
  unanswered _ _ hmem := by
    cases List.mem_singleton.1 hmem
    exact hwrite _ rfl
  patches _ _ _ _ hmem := by
    cases List.mem_singleton.1 hmem
    exact hpatch _ _ _ rfl

theorem idle_application {version : UInt32} {c : Call} {result : Except ApiFailure Json}
    (hc : c.changesApplications = true) (hwrite : ∀ j, result = .ok j → c.isWrite = false) :
    Idle version [.called c result] := by
  refine idle_call hwrite ?_ ?_
  · rintro ns name status rfl
    cases hc
  · rintro ns name ops rfl
    cases hc

theorem idle_failed {version : UInt32} {c : Call} (hc : c.changesApplications = true)
    (f : ApiFailure) : Idle version [.called c (.error f)] :=
  idle_application hc nofun

theorem idle_record {version : UInt32} {status : PatternStatus} (h : status.version = version)
    (ns name : String) (result : Except ApiFailure Json) :
    Idle version [.called (.recordStatus ns name status) result] := by
  refine idle_call (fun _ _ => rfl) ?_ ?_
  · rintro _ _ _ ⟨⟩
    exact h
  · rintro _ _ _ ⟨⟩

theorem idle_publish {version : UInt32} (ns : String) (event : Json)
    (result : Except ApiFailure Json) : Idle version [.called (.publish ns event) result] :=
  idle_call (fun _ _ => rfl) (by rintro _ _ _ ⟨⟩) (by rintro _ _ _ ⟨⟩)

theorem idle_patch {version : UInt32} {ops : List PatchOp} (h : ∀ op ∈ ops, op.OnFinalizers)
    (ns name : String) (result : Except ApiFailure Json) :
    Idle version [.called (.patchPattern ns name ops) result] := by
  refine idle_call (fun _ _ => rfl) ?_ ?_
  · rintro _ _ _ ⟨⟩
  · rintro _ _ _ ⟨⟩
    exact h

/-! ## The two kinds of passes -/

/-- A write that is answered, with the note that counts it, among steps that only look. -/
inductive Written (p : Pattern) (steps : List Step) : Prop where
  | intro {first last : List Step} {c : Call} {j : Json} {operation : String}
      (hsteps : steps
        = first ++ .called c (.ok j) :: .noted (.wrote p.displayName operation) :: last)
      (hfirst : Plain first) (hlast : Plain last) (hc : c.isWrite = true)
      (hoperation : operation ∈ ["create", "update"])

/-- What a pass over a pattern does to its version: nothing, or it records the next one after a
write. -/
inductive Bookkeeping (p : Pattern) (steps : List Step) : Prop where
  | idle (h : Idle p.observed.version steps)
  | write {first middle last : List Step} (w : Written p middle) {ns name : String}
      {status : PatternStatus} {result : Except ApiFailure Json}
      (hsteps : steps = first ++ middle ++ .called (.recordStatus ns name status) result :: last)
      (hfirst : Idle p.observed.version first) (hversion : status.version = p.observed.version + 1)
      (hlast : ∀ version, Idle version last)

theorem PatternStatus.differs_of_version_ne {s t : PatternStatus} (h : t.version ≠ s.version) :
    s.differs t = true := by
  have hne : { s with conditions := [] } ≠ { t with conditions := [] } :=
    fun heq => h (congrArg PatternStatus.version heq).symm
  rw [differs, bne_iff_ne.2 hne, Bool.true_or]

theorem FactsCourse.version {observed status : PatternStatus} {steps : List Step}
    (h : FactsCourse observed steps status) : status.version = observed.version := by
  have hfacts : ∀ facts : ClusterFacts, (facts.applyTo observed).version = observed.version :=
    fun _ => rfl
  cases h with
  | known => exact hfacts _
  | unknown hlooks => rfl

section

variable {p : Pattern} {ns : String} {around : Surroundings} {steps : List Step}

theorem SyncCourse.idle {settings : Settings} {e : Failure}
    (h : SyncCourse p settings steps (.error e)) (version : UInt32) : Idle version steps := by
  have hopening := fun result line => (plain_reading p settings result line).idle version
  cases h with
  | unread habsent => exact (plain_nil.look rfl _).idle version
  | notCreated habsent =>
    exact (hopening _ _).append (idle_failed (c := createCall p settings) rfl _)
  | notUpdated hupdate hwarning =>
    exact ((hopening _ _).append (idle_failed (c := mergeCall p settings _) rfl _)).append
      (hwarning.plain.idle version)

/-- What is said to be written was written, and what is not was not. -/
theorem SyncCourse.written {settings : Settings} {result : SyncOutcome}
    (h : SyncCourse p settings steps (.ok result)) :
    result.action = .unchanged ∧ Plain steps ∨ result.action ≠ .unchanged ∧ Written p steps := by
  have hopening := plain_reading p settings
  cases h with
  | created habsent =>
    exact .inr ⟨nofun, .intro (c := createCall p settings) rfl (hopening _ _) plain_nil rfl
      (by decide)⟩
  | unchanged hupdate => exact .inl ⟨rfl, hopening _ _⟩
  | updated hupdate =>
    exact .inr ⟨nofun, .intro (c := mergeCall p settings _) rfl (hopening _ _) plain_nil rfl
      (by decide)⟩

theorem StatusCourse.idle {e : Failure} (h : StatusCourse p around steps (.error e))
    (version : UInt32) : Idle version steps := by
  cases h with
  | unsettled hsettings => exact hsettings.plain.idle version
  | failed hsettings hfacts hsync =>
    exact ((hsettings.plain.append hfacts.plain).idle version).append (hsync.idle version)

/-- The status after a pass has the next version exactly if the pass has written. -/
theorem StatusCourse.written {status : PatternStatus} (h : StatusCourse p around steps (.ok status)) :
    status.version = p.observed.version ∧ Plain steps
      ∨ status.version = p.observed.version + 1 ∧ Written p steps := by
  cases h with
  | synced hsettings hfacts hsync hlast =>
    have hbefore := hsettings.plain.append hfacts.plain
    rcases hsync.written with ⟨haction, hplain⟩ | ⟨haction, hwritten⟩
    · refine .inl ⟨?_, (hbefore.append hplain).append hlast.plain⟩
      exact (if_pos haction).trans hfacts.version
    · refine .inr ⟨?_, ?_⟩
      · exact (if_neg haction).trans (congrArg (· + 1) hfacts.version)
      · obtain @⟨_, _, _, j, _, rfl, hfirst, hend, hc, hoperation⟩ := hwritten
        refine .intro (j := j) ?_ (hbefore.append hfirst) (hend.append hlast.plain) hc hoperation
        simp only [List.append_assoc, List.cons_append]
        rfl

theorem Written.bookkeeping (h : Written p steps) {status : PatternStatus}
    (hversion : status.version = p.observed.version + 1) (ns name : String)
    (result : Except ApiFailure Json) :
    Bookkeeping p (steps ++ [.called (.recordStatus ns name status) result]) := by
  have hsteps : steps ++ [.called (.recordStatus ns name status) result]
      = [] ++ steps ++ .called (.recordStatus ns name status) result :: [] := rfl
  exact .write h hsteps (plain_nil.idle _) hversion fun _ => plain_nil.idle _

theorem ConvergeCourse.bookkeeping {v : Except Failure Requeue}
    (h : ConvergeCourse p ns around steps v) : Bookkeeping p steps := by
  have hfailure : ∀ (e : Failure) (result : Except ApiFailure Json), Idle p.observed.version
      [.called (.recordStatus ns p.displayName (p.observed.afterFailure e)) result] :=
    fun e _ => idle_record (show (p.observed.afterFailure e).version = _ from rfl) _ _ _
  cases h with
  | failed hsync hsame => exact .idle (hsync.idle _)
  | failureRecorded hsync hdiffers => exact .idle ((hsync.idle _).append (hfailure _ _))
  | failureNotRecorded hsync hdiffers =>
    exact .idle ((hsync.idle _).append ((hfailure _ _).append (idle_log _ _)))
  | same hsync hsame =>
    rcases hsync.written with ⟨-, hplain⟩ | ⟨hversion, -⟩
    · exact .idle ((hplain.idle _).append (idle_log _ _))
    · rw [PatternStatus.differs_of_version_ne] at hsame
      · cases hsame
      · rw [hversion]
        simp
  | recorded hsync hdiffers =>
    rcases hsync.written with ⟨hversion, hplain⟩ | ⟨hversion, hwritten⟩
    · exact .idle ((hplain.idle _).append (idle_record hversion _ _ _))
    · exact hwritten.bookkeeping hversion _ _ _
  | notRecorded hsync hdiffers =>
    rcases hsync.written with ⟨hversion, hplain⟩ | ⟨hversion, hwritten⟩
    · exact .idle ((hplain.idle _).append (idle_record hversion _ _ _))
    · exact hwritten.bookkeeping hversion _ _ _

theorem TeardownCourse.idle {v : Except Failure Requeue} (h : TeardownCourse p ns around steps v)
    (version : UInt32) : Idle version steps := by
  cases h with
  | unsettled hsettings => exact hsettings.plain.idle version
  | notDeleted hsettings hgone =>
    exact (hsettings.plain.idle version).append (idle_application rfl fun _ _ => rfl)
  | notPublished hsettings hgone =>
    exact (hsettings.plain.idle version).append ((idle_application rfl fun _ _ => rfl).append
      ((idle_log _ _).append (idle_publish _ _ _)))
  | published hsettings hgone =>
    exact (hsettings.plain.idle version).append ((idle_application rfl fun _ _ => rfl).append
      ((idle_log _ _).append (idle_publish _ _ _)))

theorem FinalizeCourse.bookkeeping {v : Except Failure Requeue}
    (h : FinalizeCourse p ns around steps v) : Bookkeeping p steps := by
  have hremoval := Pattern.onFinalizers_removeFinalizer
  cases h with
  | converged hindex hstays hconverge => exact hconverge.bookkeeping
  | unnamed hname => exact .idle (plain_nil.idle _)
  | notTornDown hindex hdeleting hteardown => exact .idle (hteardown.idle _)
  | notRemoved hindex hdeleting hname hteardown =>
    exact .idle ((hteardown.idle _).append (idle_patch (hremoval _) _ _ _))
  | removed hindex hdeleting hname hteardown =>
    exact .idle ((hteardown.idle _).append (idle_patch (hremoval _) _ _ _))
  | notAdded hindex hstays hname => exact .idle (idle_patch p.onFinalizers_addFinalizer _ _ _)
  | added hindex hstays hname => exact .idle (idle_patch p.onFinalizers_addFinalizer _ _ _)
  | idle hindex hdeleting => exact .idle (plain_nil.idle _)

/-- A pass writes nothing and leaves the version alone, or it writes once, and records that under
the next version. -/
theorem ReconcileCourse.bookkeeping {v : Except Failure Requeue}
    (h : ReconcileCourse p around steps v) : Bookkeeping p steps := by
  have hbegan : ∀ version, Idle version [.noted .began] := fun _ => idle_note nofun
  have hended : ∀ version, Idle version [.noted (.ended "pattern")] := fun _ => idle_note nofun
  cases h with
  | homeless hns => exact .idle ((hbegan _).append (hended _))
  | @finalized ns line inner _ hns hfinalize =>
    have hopening : Idle p.observed.version [.noted .began, .noted (.log line)] :=
      (hbegan _).append (idle_log _ _)
    cases hfinalize.bookkeeping with
    | idle h => exact .idle ((hopening.append h).append (hended _))
    | @write first middle last hwritten ns name status result hsteps hfirst hversion hlast =>
      have hall : .noted .began :: .noted (.log line) :: inner ++ [.noted (.ended "pattern")]
          = ([.noted .began, .noted (.log line)] ++ first) ++ middle
            ++ .called (.recordStatus ns name status) result
              :: (last ++ [.noted (.ended "pattern")]) := by
        rw [hsteps]
        simp only [List.cons_append, List.nil_append, List.append_assoc]
      exact .write hwritten hall (hopening.append hfirst) hversion fun version =>
        (hlast version).append (hended version)

end

/-! ## Failed writes -/

section

variable {p : Pattern} {ns : String} {around : Surroundings} {steps : List Step} {c : Call}
  {f : ApiFailure}

theorem Plain.unfailed (h : Plain steps) (hc : c.isWrite = true) :
    .called c (.error f) ∉ steps := by
  intro hmem
  cases hc.symm.trans (h.calm c _ hmem)

theorem Written.unfailed (h : Written p steps) (hc : c.isWrite = true) :
    .called c (.error f) ∉ steps := by
  obtain ⟨rfl, hfirst, hlast, -, -⟩ := h
  simp [hfirst.unfailed hc, hlast.unfailed hc]

theorem ConvergeCourse.error_of_write {v : Except Failure Requeue}
    (h : ConvergeCourse p ns around steps v) (hmem : .called c (.error f) ∈ steps)
    (hc : c.isWrite = true) : ∃ e, v = .error e := by
  have hsucceeds : ∀ {first : List Step} {status : PatternStatus} {s : Step},
      StatusCourse p around first (.ok status) → .called c (.error f) ∈ first ++ [s] →
        .called c (.error f) = s := by
    intro first status s hsync hmem
    rcases List.mem_append.1 hmem with hmem | hmem
    · rcases hsync.written with ⟨-, hplain⟩ | ⟨-, hwritten⟩
      · exact absurd hmem (hplain.unfailed hc)
      · exact absurd hmem (hwritten.unfailed hc)
    · exact List.mem_singleton.1 hmem
  cases h with
  | failed hsync hsame => exact ⟨_, rfl⟩
  | failureRecorded hsync hdiffers => exact ⟨_, rfl⟩
  | failureNotRecorded hsync hdiffers => exact ⟨_, rfl⟩
  | same hsync hsame => cases hsucceeds hsync hmem
  | recorded hsync hdiffers => cases hsucceeds hsync hmem
  | notRecorded hsync hdiffers => exact ⟨_, rfl⟩

theorem FinalizeCourse.error_of_write {v : Except Failure Requeue}
    (h : FinalizeCourse p ns around steps v) (hmem : .called c (.error f) ∈ steps)
    (hc : c.isWrite = true) : ∃ e, v = .error e := by
  have hcalm : ¬ Avoids Call.isWrite steps := by
    intro hcalm
    cases hc.symm.trans (hcalm c _ hmem)
  cases h with
  | converged hindex hstays hconverge => exact hconverge.error_of_write hmem hc
  | unnamed hname => exact ⟨_, rfl⟩
  | notTornDown hindex hdeleting hteardown => exact ⟨_, rfl⟩
  | notRemoved hindex hdeleting hname hteardown => exact ⟨_, rfl⟩
  | removed hindex hdeleting hname hteardown =>
    exact absurd (hteardown.calm.append (avoids_call rfl _)) hcalm
  | notAdded hindex hstays hname => exact ⟨_, rfl⟩
  | added hindex hstays hname => exact absurd (avoids_call rfl _) hcalm
  | idle hindex hdeleting => exact absurd avoids_nil hcalm

/-- A pass whose write fails ends with an error and claims no write. -/
theorem ReconcileCourse.failed_of_write {v : Except Failure Requeue}
    (h : ReconcileCourse p around steps v) (hmem : .called c (.error f) ∈ steps)
    (hc : c.isWrite = true) : (∃ e, v = .error e) ∧ Unclaimed p.observed.version steps := by
  constructor
  · cases h with
    | homeless hns => exact ⟨_, rfl⟩
    | finalized hns hfinalize => exact hfinalize.error_of_write (by simpa using hmem) hc
  · cases h.bookkeeping with
    | idle hidle => exact hidle.toUnclaimed
    | @write first middle last hwritten ns name status result hsteps hfirst hversion hlast =>
      -- a pass changes applications once, so the answered write leaves no room for the failed one
      obtain @⟨early, late, d, j, operation, rfl, -, -, hd, -⟩ := hwritten
      have hsplit : steps = (first ++ early) ++ .called d (.ok j)
          :: (.noted (.wrote p.displayName operation) :: late
            ++ .called (.recordStatus ns name status) result :: last) := by
        rw [hsteps]
        simp only [List.append_assoc, List.cons_append]
      obtain ⟨hbefore, hafter, -⟩ :=
        h.oneChange.split hsplit (Call.changesApplications_of_isWrite hd)
      rw [hsplit] at hmem
      rcases List.mem_append.1 hmem with hmem | hmem
      · cases (Call.changesApplications_of_isWrite hc).symm.trans
          (Call.changesApplications_of_acts (hbefore _ _ hmem))
      · rcases List.mem_cons.1 hmem with hsame | hmem
        · cases hsame
        · cases (Call.changesApplications_of_isWrite hc).symm.trans (hafter _ _ hmem)

end

end PatternSync
