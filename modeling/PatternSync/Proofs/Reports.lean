import PatternSync.Proofs.Writes

/-!
# What passes report

A pass over a pattern that stays ends with a status to record, and records it only if it differs
from the recorded one in more than the times of its conditions. The status to record depends on the
recorded one and on what the pass has found, which is its report (`Report.after`, `callsOf_close`).
Main statement: however passes follow one another, leaving out those records loses nothing but the
times of the last updates (`suppressed_records_lose_update_times`).

The induction is on the reports. What it carries is that the status that is stored and the one that
would be stored stay abreast (`Abreast`): they differ in times of updates alone. A report reads more
of a condition than is compared, for it carries on the time of the last transition. But if what is
compared stays the same, then so does that time (`lasting_next_of_verdict`).
-/

namespace PatternSync

open Pass

/-! ## Conditions but for their updates -/

namespace Condition

/-- What a condition says besides the time of its last update. -/
def lasting (c : Condition) : ConditionType × String × String × Option Instant :=
  (c.type, c.status, c.message, c.lastTransitionTime)

section

variable (inSync : Bool) (message : String) (now : Instant)

theorem lasting_next_congr {previous previous' : Option Condition}
    (h : previous.map lasting = previous'.map lasting) :
    (next previous inSync message now).lasting = (next previous' inSync message now).lasting := by
  cases previous with
  | none =>
    cases previous' with
    | none => rfl
    | some d => cases h
  | some c =>
    cases previous' with
    | none => cases h
    | some d =>
      simp only [Option.map_some, Option.some.injEq, lasting, Prod.mk.injEq] at h
      obtain ⟨htype, hstatus, -, htransition⟩ := h
      simp only [lasting, next, htype, hstatus, htransition]

/-- A condition that keeps what is compared keeps the time of its last transition. -/
theorem lasting_next_of_verdict {c : Condition}
    (h : c.verdict = (next (some c) inSync message now).verdict) :
    c.lasting = (next (some c) inSync message now).lasting := by
  have hparts := h
  simp only [verdict, Prod.mk.injEq] at hparts
  obtain ⟨htype, hstatus, hmessage⟩ := hparts
  have htransition : (next (some c) inSync message now).lastTransitionTime
      = c.lastTransitionTime := lastTransitionTime_next_of_eq htype hstatus message now
  rw [lasting, lasting, htransition, ← htype, ← hstatus, ← hmessage]

end

end Condition

/-! ## Statuses but for the updates of their conditions -/

namespace PatternStatus

def bare (s : PatternStatus) : PatternStatus :=
  { s with conditions := [] }

/-- The statuses differ at most in the times of the last updates of their conditions. -/
structure Abreast (s t : PatternStatus) : Prop where
  bare : s.bare = t.bare
  conditions : s.conditions.map Condition.lasting = t.conditions.map Condition.lasting

theorem abreast_refl (s : PatternStatus) : s.Abreast s :=
  ⟨rfl, rfl⟩

theorem Abreast.trans {s t u : PatternStatus} (h : s.Abreast t) (h' : t.Abreast u) :
    s.Abreast u where
  bare := h.bare.trans h'.bare
  conditions := h.conditions.trans h'.conditions

theorem differs_eq_false_iff {s t : PatternStatus} : s.differs t = false ↔
    s.bare = t.bare ∧ s.conditions.map Condition.verdict = t.conditions.map Condition.verdict := by
  rw [differs, Bool.or_eq_false_iff, bne_eq_false_iff_eq, bne_eq_false_iff_eq]
  rfl

end PatternStatus

/-! ## Reports -/

/-- What a pass has found. -/
inductive Report where
  /-- The application is in line; the facts are there if they could be read. -/
  | synced (facts : Option ClusterFacts) (outcome : SyncOutcome) (now : Instant)
  | failed (text : String)

namespace Report

/-- The status to record after a report. -/
def after (observed : PatternStatus) : Report → PatternStatus
  | synced facts outcome now =>
    (facts.elim observed (·.applyTo observed)).afterSync
      (Condition.record observed.conditions outcome.inSync outcome.message now).1 outcome.action
  | failed text => { observed with lastError := text }

/-- The status that is recorded after a report, if any is. -/
def record? (observed : PatternStatus) (report : Report) : Option PatternStatus :=
  if observed.differs (report.after observed) then some (report.after observed) else none

def keep (stored : PatternStatus) (report : Report) : PatternStatus :=
  (report.record? stored).getD stored

theorem bare_after (s : PatternStatus) (report : Report) :
    (report.after s).bare = (report.after s.bare).bare := by
  cases report with
  | synced facts outcome now => cases facts <;> rfl
  | failed text => rfl

theorem conditions_after_synced (s : PatternStatus) (facts : Option ClusterFacts)
    (outcome : SyncOutcome) (now : Instant) : ((synced facts outcome now).after s).conditions
      = [.next s.conditions.head? outcome.inSync outcome.message now] :=
  rfl

/-- Statuses that are abreast stay so after the same report. -/
theorem abreast_after {s t : PatternStatus} (h : s.Abreast t) (report : Report) :
    (report.after s).Abreast (report.after t) := by
  refine ⟨?_, ?_⟩
  · rw [bare_after, h.bare, ← bare_after]
  · cases report with
    | failed text => exact h.conditions
    | synced facts outcome now =>
      have hfirst : s.conditions.head?.map Condition.lasting
          = t.conditions.head?.map Condition.lasting := by
        rw [← List.head?_map, ← List.head?_map, h.conditions]
      rw [conditions_after_synced, conditions_after_synced, List.map_singleton, List.map_singleton,
        Condition.lasting_next_congr _ _ _ hfirst]

/-- A status that is not worth a record is abreast of the recorded one. -/
theorem abreast_of_not_differs {s : PatternStatus} {report : Report}
    (h : s.differs (report.after s) = false) : s.Abreast (report.after s) := by
  obtain ⟨hbare, hverdicts⟩ := PatternStatus.differs_eq_false_iff.1 h
  refine ⟨hbare, ?_⟩
  cases report with
  | failed text => rfl
  | synced facts outcome now =>
    rw [conditions_after_synced] at hverdicts ⊢
    -- one condition is to be recorded, so there is one already, with the same verdict
    obtain ⟨c, hc⟩ : ∃ c, s.conditions = [c] := by
      apply List.length_eq_one_iff.1
      have hlength := congrArg List.length hverdicts
      simpa using hlength
    rw [hc] at hverdicts ⊢
    have hverdict := List.singleton_inj.1 hverdicts
    rw [List.map_singleton, List.map_singleton]
    exact congrArg (fun x => [x]) (Condition.lasting_next_of_verdict _ _ _ hverdict)

theorem keep_abreast_after (s : PatternStatus) (report : Report) :
    (report.keep s).Abreast (report.after s) := by
  unfold keep record?
  split
  · exact PatternStatus.abreast_refl _
  · rename_i hsame
    exact abreast_of_not_differs (Bool.eq_false_iff.2 hsame)

theorem abreast_foldl {s t : PatternStatus} (h : s.Abreast t) (reports : List Report) :
    (reports.foldl keep s).Abreast (reports.foldl after t) := by
  induction reports generalizing s t with
  | nil => exact h
  | cons report reports ih =>
    have hkept := keep_abreast_after s report
    exact ih (hkept.trans (abreast_after h report))

end Report

/-! ## The report of a pass -/

/-- The status that a pass has to record once it has tried to bring the application in line. -/
def Pattern.statusAfter (p : Pattern) : Except Failure PatternStatus → PatternStatus
  | .ok status => status
  | .error f => p.observed.afterFailure f

def Call.isRecord : Call → Bool
  | recordStatus _ _ _ => true
  | _ => false

/-- The records that were called for among steps, whatever came of them. -/
def recordsOf (steps : List Step) : List Call :=
  ((callsOf steps).map Prod.fst).filter Call.isRecord

theorem recordsOf_append (first second : List Step) :
    recordsOf (first ++ second) = recordsOf first ++ recordsOf second := by
  simp only [recordsOf, callsOf_append, List.map_append, List.filter_append]

theorem recordsOf_eq_nil {steps : List Step} (h : Avoids Call.isRecord steps) :
    recordsOf steps = [] := by
  rw [recordsOf, List.filter_eq_nil_iff]
  intro c hc
  obtain ⟨⟨d, result⟩, hmem, rfl⟩ := List.mem_map.1 hc
  rw [h d result (mem_callsOf.1 hmem)]
  exact Bool.false_ne_true

section

variable {p : Pattern} {ns : String} {around : Surroundings} {steps : List Step}

/-- Bringing the application in line records nothing. -/
theorem StatusCourse.recordsOf_eq_nil {w : Except Failure PatternStatus}
    (h : StatusCourse p around steps w) : recordsOf steps = [] := by
  refine PatternSync.recordsOf_eq_nil (h.avoids (fun c hc => ?_) fun c hc => ?_)
  · cases c with
    | recordStatus ns name status => cases hc
    | _ => rfl
  · cases c with
    | recordStatus ns name status => cases hc
    | _ => rfl

theorem StatusCourse.report {w : Except Failure PatternStatus} (h : StatusCourse p around steps w) :
    ∃ report : Report, p.statusAfter w = report.after p.observed := by
  have hfailed : ∀ e : Failure, p.observed.afterFailure e
      = (Report.failed e.message).after p.observed := fun _ => rfl
  cases h with
  | unsettled hsettings => exact ⟨_, hfailed _⟩
  | failed hsettings hfacts hsync => exact ⟨_, hfailed _⟩
  | @synced _ _ _ _ settings status outcome hsettings hfacts hsync hlast =>
    cases hfacts with
    | @known clusterVersion infrastructure ingress =>
      exact ⟨.synced (some (.ofConfig clusterVersion infrastructure ingress)) outcome around.now,
        rfl⟩
    | unknown hlooks => exact ⟨.synced none outcome around.now, rfl⟩

/-- After a pass over a pattern that stays has tried to bring the application in line, all that it
calls is one record, if there is something to record. A failure of the attempt is the failure of
the pass, whatever comes of the record. -/
theorem callsOf_close {w : Except Failure PatternStatus} {v : Except Failure Requeue}
    (h : Course (Attempt.close p ns w).run steps v) :
    p.observed.differs (p.statusAfter w) = false ∧ callsOf steps = []
        ∧ v = w.map (fun _ => passInterval)
      ∨ p.observed.differs (p.statusAfter w) = true
        ∧ ∃ result, callsOf steps = [(.recordStatus ns p.displayName (p.statusAfter w), result)]
          ∧ v = w.bind fun _ => (result.mapError .ofApi).map fun _ => passInterval := by
  cases w with
  | error e =>
    obtain ⟨rfl, ⟨rfl, hsame⟩ | ⟨hdiffers, ⟨j, rfl⟩ | ⟨f, line, rfl⟩⟩⟩ := course_close_error h
    · exact .inl ⟨hsame, rfl, rfl⟩
    · exact .inr ⟨hdiffers, .ok j, rfl, rfl⟩
    · exact .inr ⟨hdiffers, .error f, rfl, rfl⟩
  | ok status =>
    obtain ⟨hsame, ⟨line, rfl⟩, rfl⟩ | ⟨hdiffers, result, rfl, rfl⟩ := course_close_ok h
    · exact .inl ⟨hsame, rfl, rfl⟩
    · exact .inr ⟨hdiffers, result, rfl, rfl⟩

theorem recordsOf_close {w : Except Failure PatternStatus} {v : Except Failure Requeue}
    (h : Course (Attempt.close p ns w).run steps v) :
    recordsOf steps = if p.observed.differs (p.statusAfter w)
      then [.recordStatus ns p.displayName (p.statusAfter w)] else [] := by
  rw [recordsOf]
  obtain ⟨hsame, hcalls, -⟩ | ⟨hdiffers, result, hcalls, -⟩ := callsOf_close h
  · rw [hsame, hcalls]
    rfl
  · rw [hdiffers, hcalls]
    rfl

end

/-! ## Records that are left out -/

/-- A pass over a pattern that stays makes a report, and records the status after it if that
differs from the recorded one. However reports follow one another, the status that is stored this
way and the one that would be stored if every pass recorded are abreast. -/
theorem suppressed_records_lose_update_times :
    (∀ (p : Pattern) (ns : String) (around : Surroundings) (steps : List Step)
        (v : Except Failure Requeue), Course (Attempt.converge p ns around).run steps v →
      ∃ first rest w, ∃ report : Report, steps = first ++ rest
        ∧ Course (Attempt.sync p around).run first w
        ∧ p.statusAfter w = report.after p.observed
        ∧ recordsOf steps
          = (report.record? p.observed).toList.map (.recordStatus ns p.displayName))
      ∧ ∀ (initial : PatternStatus) (reports : List Report),
        (reports.foldl Report.keep initial).Abreast (reports.foldl Report.after initial) := by
  constructor
  · intro p ns around steps v hcourse
    obtain ⟨first, rest, w, rfl, hsync, hclose⟩ := course_converge hcourse
    have hstatus := statusCourse_of_course hsync
    obtain ⟨report, hreport⟩ := hstatus.report
    refine ⟨first, rest, w, report, rfl, hsync, hreport, ?_⟩
    rw [recordsOf_append, hstatus.recordsOf_eq_nil, List.nil_append, recordsOf_close hclose,
      Report.record?, hreport]
    split
    · rfl
    · rfl
  · intro initial reports
    exact Report.abreast_foldl (PatternStatus.abreast_refl initial) reports

/-- Passes that find the same twice and fail in between. -/
def repeatedReports : List Report :=
  let found : Instant → Report :=
    .synced none { inSync := true, message := "Helm source is in sync", action := .unchanged }
  [ found (.midnight (.newYear 2024)), .failed "", found (.midnight (.newYear 2025)) ]

/-- The last of the passes records nothing, and the update of the condition is all that is lost. -/
theorem suppressed_records_repeated :
    (∃ p around steps v, Course (Attempt.converge p "default" around).run steps v
      ∧ ∃ report : Report, recordsOf steps
        = (report.record? p.observed).toList.map (.recordStatus "default" p.displayName))
      ∧ repeatedReports.foldl Report.keep {} ≠ repeatedReports.foldl Report.after {}
      ∧ (repeatedReports.foldl Report.keep {}).Abreast (repeatedReports.foldl Report.after {}) := by
  obtain ⟨hpasses, habreast⟩ := suppressed_records_lose_update_times
  refine ⟨?_, by decide +kernel, habreast _ _⟩
  let attempt : Attempt Requeue := Attempt.converge
    { metadata := {}, spec := { clusterGroupName := "hub", git := { targetRepo := "" } } } "default"
    { operatorNamespace := "operators", now := .midnight (.newYear 2024) }
  obtain ⟨steps, hcourse⟩ := course_run {} attempt.run
  obtain ⟨_, _, _, report, -, -, -, hrecords⟩ := hpasses _ _ _ _ _ hcourse
  exact ⟨_, _, steps, _, hcourse, report, hrecords⟩

end PatternSync
