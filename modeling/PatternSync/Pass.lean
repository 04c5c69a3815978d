import PatternSync.Api.Server
import PatternSync.Failure
import PatternSync.Log.Line
import PatternSync.Metrics.Basic

/-!
# Passes

A pass is what the operator does in one go: it calls the API server, goes on with what came of each
call, and leaves notes for the log and the metrics. It is a tree of all its courses, so that it can
be run against any server, with anything happening between two calls. Main statement: running one
pass after another is running their composition (`run_bind`).
-/

namespace PatternSync

/-- What a pass leaves behind besides its calls. -/
inductive Note where
  | log (line : LogLine)
  /-- A pass has begun. -/
  | began
  /-- A pass over an object of this kind has ended. -/
  | ended (kind : String)
  /-- The application of a pattern was written. -/
  | wrote (pattern operation : String)
  /-- A pass over a pattern failed. -/
  | failed (pattern label : String)
  deriving DecidableEq

namespace Note

/-- The metrics after a note. A pass takes no time of its own. -/
def count (m : Metrics) : Note → Metrics
  | log _ => m
  | began => m.began
  | ended kind => m.ended kind 0
  | wrote pattern operation => m.wrote pattern operation
  | failed pattern label => m.failed pattern label

def line? : Note → Option LogLine
  | log line => some line
  | _ => none

end Note

inductive Pass (α : Type) where
  | done (value : α)
  | call (c : Call) (next : Except ApiFailure Json → Pass α)
  | note (n : Note) (next : Pass α)

namespace Pass

variable {α β γ : Type}

/-- Goes on with the result of a pass. -/
def bind : Pass α → (α → Pass β) → Pass β
  | done a, f => f a
  | call c next, f => call c fun r => bind (next r) f
  | note n next, f => note n (bind next f)

instance : Monad Pass where
  pure := done
  bind := bind

theorem bind_done (p : Pass α) : p.bind done = p := by
  induction p with
  | done a => rfl
  | call c next ih => simp [bind, ih]
  | note n next ih => simp [bind, ih]

theorem bind_assoc (p : Pass α) (f : α → Pass β) (g : β → Pass γ) :
    (p.bind f).bind g = p.bind fun a => (f a).bind g := by
  induction p with
  | done a => rfl
  | call c next ih => simp [bind, ih]
  | note n next ih => simp [bind, ih]

instance : LawfulMonad Pass :=
  LawfulMonad.mk' Pass bind_done (fun _ _ => rfl) bind_assoc

def ask (c : Call) : Pass (Except ApiFailure Json) :=
  call c done

def leave (n : Note) : Pass Unit :=
  note n (done ())

/-! ## Running -/

/-- What became of a pass: its result, the server after it, and the notes in their order. -/
structure Run (α : Type) where
  value : α
  server : Server
  notes : List Note

/-- Runs a pass that nothing interrupts. -/
def run (s : Server) : Pass α → Run α
  | done a => { value := a, server := s, notes := [] }
  | call c next => run (s.call c).1 (next (s.call c).2)
  | note n next =>
    let rest := run s next
    { rest with notes := n :: rest.notes }

theorem run_bind (s : Server) (p : Pass α) (f : α → Pass β) :
    (p.bind f).run s =
      let first := p.run s
      let second := (f first.value).run first.server
      { second with notes := first.notes ++ second.notes } := by
  induction p generalizing s with
  | done a => rfl
  | call c next ih => simp [bind, run, ih]
  | note n next ih => simp [bind, run, ih]

/-! ## Courses -/

/-- One step of a pass: a call with what came of it, or a note. -/
inductive Step where
  | called (c : Call) (result : Except ApiFailure Json)
  | noted (n : Note)

/-- The ways that a pass can go, whatever comes of its calls, and the values it can end with. -/
inductive Course : Pass α → List Step → α → Prop where
  | done (a : α) : Course (.done a) [] a
  | call {c : Call} {next : Except ApiFailure Json → Pass α} {steps : List Step} {a : α}
      (result : Except ApiFailure Json) (rest : Course (next result) steps a) :
      Course (.call c next) (.called c result :: steps) a
  | note {n : Note} {next : Pass α} {steps : List Step} {a : α} (rest : Course next steps a) :
      Course (.note n next) (.noted n :: steps) a

theorem course_bind {p : Pass α} {f : α → Pass β} {steps : List Step} {b : β} :
    Course (p.bind f) steps b ↔
      ∃ first second a, Course p first a ∧ Course (f a) second b ∧ steps = first ++ second := by
  constructor
  · intro h
    induction p generalizing steps with
    | done a => exact ⟨[], steps, a, .done a, h, rfl⟩
    | call c next ih =>
      cases h with
      | call result rest =>
        obtain ⟨first, second, a, hfirst, hsecond, rfl⟩ := ih result rest
        exact ⟨.called c result :: first, second, a, .call result hfirst, hsecond, rfl⟩
    | note n next ih =>
      cases h with
      | note rest =>
        obtain ⟨first, second, a, hfirst, hsecond, rfl⟩ := ih rest
        exact ⟨.noted n :: first, second, a, .note hfirst, hsecond, rfl⟩
  · rintro ⟨first, second, a, hfirst, hsecond, rfl⟩
    induction hfirst with
    | done a => exact hsecond
    | call result rest ih => exact .call result (ih hsecond)
    | note rest ih => exact .note (ih hsecond)

/-- A run goes one of the ways of the pass, and its notes are among the steps. -/
theorem noted_of_run (s : Server) (p : Pass α) :
    ∃ steps, Course p steps (p.run s).value ∧ ∀ n ∈ (p.run s).notes, .noted n ∈ steps := by
  induction p generalizing s with
  | done a => exact ⟨[], .done a, fun _ h => absurd h List.not_mem_nil⟩
  | call c next ih =>
    obtain ⟨steps, hcourse, hnotes⟩ := ih (s.call c).2 (s.call c).1
    exact ⟨_, .call (s.call c).2 hcourse, fun n hn => List.mem_cons_of_mem _ (hnotes n hn)⟩
  | note n next ih =>
    obtain ⟨steps, hcourse, hnotes⟩ := ih s
    refine ⟨_, .note hcourse, fun other hother => ?_⟩
    rcases List.mem_cons.1 hother with rfl | hother
    · exact List.mem_cons_self
    · exact List.mem_cons_of_mem _ (hnotes other hother)

theorem course_run (s : Server) (p : Pass α) : ∃ steps, Course p steps (p.run s).value := by
  obtain ⟨steps, hcourse, -⟩ := noted_of_run s p
  exact ⟨steps, hcourse⟩

end Pass

/-! ## Passes that may fail -/

abbrev Attempt := ExceptT Failure Pass

namespace Attempt

variable {α : Type}

/-- Calls the API server; a failed call ends the attempt. -/
def call (c : Call) : Attempt Json := do
  match ← Pass.ask c with
  | .ok j => return j
  | .error f => throw (.ofApi f)

/-- Writes a line about patterns into the log. -/
def log (level : LogLevel) (message : String) : Attempt Unit :=
  Pass.leave (.log { level, target := LogLine.patternTarget, message })

/-- Goes on with what became of an attempt. -/
def outcome (a : Attempt α) : Attempt (Except Failure α) :=
  ExceptT.lift a.run

end Attempt

end PatternSync
