import PatternSync.Proofs.Reports
import PatternSync.Proofs.WriteCount

/-!
# The last error

However bringing the application in line fails, the pass fails with that error, and of the recorded
status it touches the last error alone: facts that were refreshed before the failure are not
recorded. What the pass calls for is decided by the text of the error. A later pass over the stored
pattern that succeeds, and whose record is answered if there is one, leaves no last error behind.
Both halves are in `failure_confined_to_last_error`.

A pass is cut where it closes (`course_converge`). Up to there it does not touch the stored pattern
(`Account.members_of_status`), so that the close meets the pattern that the pass was given. Then
there is no last error left for one of two reasons: the status that was not worth a record agrees
with the stored one, or it was recorded, and an empty text is read back from its absence.
-/

namespace PatternSync

open Json Pass Wire

/-! ## The last error of a status -/

namespace PatternStatus

theorem lastError_ofJson_toJson (s : PatternStatus) : (ofJson s.toJson).lastError = s.lastError := by
  rw [ofJson_toJson]

theorem differs_afterFailure (s : PatternStatus) (f : Failure) :
    s.differs (s.afterFailure f) = decide (f.message ≠ s.lastError) := by
  by_cases hsame : f.message = s.lastError
  · have hself : s.afterFailure f = s := by rw [afterFailure, hsame]
    rw [hself, decide_eq_false (not_not_intro hsame)]
    exact differs_eq_false_iff.2 ⟨rfl, rfl⟩
  · rw [decide_eq_true hsame]
    refine Bool.of_not_eq_false fun hdiffers => hsame ?_
    have hbare := (differs_eq_false_iff.1 hdiffers).1
    exact (congrArg lastError hbare).symm

end PatternStatus

/-- Once the application is in line there is no error to record. -/
theorem StatusCourse.lastError {p : Pattern} {around : Surroundings} {steps : List Step}
    {status : PatternStatus} (h : StatusCourse p around steps (.ok status)) :
    status.lastError = "" := by
  cases h
  rfl

/-! ## What a pass changes in the stored pattern -/

namespace Account

variable {a after : Account}

theorem members_of_serve {c : Call} {fate : Fate} {result : Except ApiFailure Json}
    (hc : c.changesPattern = false) (h : a.serve c fate = some (result, after)) :
    after.members = a.members := by
  have hperform : ∀ {next : Account}, a.perform? c = some next → next = a := by
    intro next hnext
    cases c with
    | patchPattern ns name ops => cases hc
    | recordStatus ns name status => cases hc
    | _ => exact (Option.some.inj hnext).symm
  obtain ⟨_, _, next, j, -, -, hnext, -, rfl⟩ | ⟨f, -, -, rfl⟩ | ⟨f, _, -, -, hnext⟩ :=
    Handler.performing_cases h
  · obtain rfl := hperform hnext
    unfold answered
    split
    · rfl
    · rfl
  · unfold refused
    split
    · cases hc
    · rfl
  · rw [hperform hnext]

theorem members_of_status {p : Pattern} {around : Surroundings} {steps : List Step}
    {w : Except Failure PatternStatus} (h : StatusCourse p around steps w)
    (htrail : Trail serve a steps after) : after.members = a.members := by
  have havoids : Avoids Call.changesPattern steps :=
    h.avoids (fun _ => Call.changesPattern_of_acts) fun _ => Call.changesPattern_of_isWrite
  refine htrail.invariant (fun s => s.members = a.members) ?_ rfl
  intro s mid c result fate hmem hserve hs
  exact (members_of_serve (havoids c result hmem) hserve).trans hs

theorem lastError_of_close {ns : String} {rest : List Step} {status : PatternStatus}
    {v : Except Failure Requeue}
    (hclose : Course (Attempt.close a.pattern ns (.ok status)).run rest v)
    (hstatus : status.lastError = "") (htrail : Trail serve a rest after)
    (hanswered : ∀ c result, .called c result ∈ rest → ∃ j, result = .ok j) :
    after.pattern.observed.lastError = "" := by
  obtain ⟨hsame, ⟨line, rfl⟩, -⟩ | ⟨-, result, rfl, -⟩ := course_close_ok hclose
  · obtain rfl := trail_nil (trail_note htrail)
    have hbare := (PatternStatus.differs_eq_false_iff.1 hsame).1
    exact (congrArg PatternStatus.lastError hbare).trans hstatus
  · obtain ⟨j, rfl⟩ := hanswered _ _ List.mem_cons_self
    obtain ⟨fate, next, hserve, hend⟩ := trail_call htrail
    obtain rfl := trail_nil hend
    obtain ⟨_, _, stored, k, -, -, hstored, -, rfl⟩ | ⟨f, -, hf, -⟩ | ⟨f, _, -, hf, -⟩ :=
      Handler.performing_cases hserve
    · obtain ⟨rfl, -, -⟩ := perform?_record hstored
      show (Pattern.ofJson (.obj (Keyed.put "status" status.toJson a.members))).observed.lastError
        = ""
      rw [Pattern.ofJson_record]
      exact status.lastError_ofJson_toJson.trans hstatus
    · cases hf
    · cases hf

end Account

/-! ## Failed passes, and the passes after them -/

/-- How a pass over a pattern that stays deals with errors. It tries to bring the application in
line and records nothing meanwhile. If that fails, the pass fails with the same error, and all that
it calls for is a record of the observed status with the text of that error, unless that is the
recorded text. If it succeeds and the calls after it are answered, no last error is stored. -/
theorem failure_confined_to_last_error {p : Pattern} {ns : String} {around : Surroundings}
    {steps : List Step} {v : Except Failure Requeue}
    (h : Course (Attempt.converge p ns around).run steps v) :
    ∃ first rest w, steps = first ++ rest ∧ Course (Attempt.sync p around).run first w
      ∧ recordsOf first = []
      ∧ (∀ e, w = .error e → v = .error e
        ∧ (callsOf rest).map Prod.fst = if e.message = p.observed.lastError then []
          else [.recordStatus ns p.displayName { p.observed with lastError := e.message }])
      ∧ ∀ status, w = .ok status → ∀ a after : Account, a.pattern = p →
        Trail Account.serve a steps after →
        (∀ c result, .called c result ∈ rest → ∃ j, result = .ok j) →
          after.pattern.observed.lastError = "" := by
  obtain ⟨first, rest, w, rfl, hsync, hclose⟩ := course_converge h
  have hstatus := statusCourse_of_course hsync
  refine ⟨first, rest, w, rfl, hsync, hstatus.recordsOf_eq_nil, ?_, ?_⟩
  · rintro e rfl
    have hdiffers := p.observed.differs_afterFailure e
    obtain ⟨hsame, hcalls, hv⟩ | ⟨hother, result, hcalls, hv⟩ := callsOf_close hclose
    · refine ⟨hv, ?_⟩
      have htext := of_decide_eq_false (hdiffers.symm.trans hsame)
      rw [hcalls, if_pos (Decidable.not_not.1 htext)]
      rfl
    · refine ⟨hv, ?_⟩
      have htext := of_decide_eq_true (hdiffers.symm.trans hother)
      rw [hcalls, if_neg htext]
      rfl
  · rintro status rfl a after rfl htrail hanswered
    obtain ⟨mid, hbefore, hafter⟩ := trail_append.1 htrail
    have hmembers := Account.members_of_status hstatus hbefore
    have hpattern : mid.pattern = a.pattern := by rw [Account.pattern, hmembers, Account.pattern]
    rw [← hpattern] at hclose
    exact Account.lastError_of_close hclose hstatus.lastError hafter hanswered

/-- A pass that cannot read the settings stores its error; a pass after it that gets every call
answered stores that there is none. -/
theorem failure_confined_recovered :
    ∃ (around : Surroundings) (failed later : Conduct Account (Except Failure Requeue)),
      Course (Attempt.converge (Pattern.ofJson (.obj freshMembers)) "default" around).run
          failed.steps failed.value
        ∧ failed.state.pattern.observed.lastError ≠ ""
        ∧ Course (Attempt.converge failed.state.pattern "default" around).run
          later.steps later.value
        ∧ later.state.pattern.observed.lastError = "" := by
  let around : Surroundings :=
    { operatorNamespace := "operators", now := .midnight (.newYear 2024) }
  let refused : Fate := .refused (.refusal { status := "", reason := "Timeout", code := 500 })
  let served : Fate := .served .null ""
  let tend (a : Account) := (Attempt.converge a.pattern "default" around).run.conduct Account.serve a
  have hruns : (tend { members := freshMembers } [refused, served]).any (fun failed =>
      failed.state.pattern.observed.lastError ≠ ""
        && (tend failed.state [served, served, served, served, served, served, served]).any
          fun later => later.value.isOk
            && (callsOf later.steps).all fun called => called.2.isOk) = true := by
    decide +kernel
  obtain ⟨failed, hfailed, hfacts⟩ := (Option.any_eq_true _ _).1 hruns
  rw [Bool.and_eq_true, decide_eq_true_eq] at hfacts
  obtain ⟨herror, hlater⟩ := hfacts
  obtain ⟨later, hlater, hanswers⟩ := (Option.any_eq_true _ _).1 hlater
  rw [Bool.and_eq_true, List.all_eq_true] at hanswers
  obtain ⟨hvalue, hanswered⟩ := hanswers
  have hfirst := (conduct_iff.1 ⟨_, hfailed⟩).1
  obtain ⟨hcourse, htrail⟩ := conduct_iff.1 ⟨_, hlater⟩
  refine ⟨around, failed, later, hfirst, herror, hcourse, ?_⟩
  obtain ⟨first, rest, w, hsteps, -, -, hfails, hclears⟩ := failure_confined_to_last_error hcourse
  cases w with
  | error e =>
    rw [(hfails e rfl).1] at hvalue
    cases hvalue
  | ok status =>
    refine hclears status rfl _ _ rfl htrail fun c result hmem => ?_
    have hcall := hanswered (c, result)
      (mem_callsOf.2 (hsteps ▸ List.mem_append_right _ hmem))
    cases result with
    | ok j => exact ⟨j, rfl⟩
    | error f => cases hcall

end PatternSync
