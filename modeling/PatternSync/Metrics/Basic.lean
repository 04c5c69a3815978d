import PatternSync.Keyed

/-!
# Metrics

What the operator counts: passes and how long they took, failed passes, and written applications.
Failures are counted under the name of the pattern and a label of the failure, writes under the
name of the pattern and the kind of write.
-/

namespace PatternSync

/-- Counts under two labels each. -/
abbrev Tally := Keyed (Keyed Nat)

namespace Tally

/-- The count under two labels. -/
def count (t : Tally) (outer inner : String) : Nat :=
  (Keyed.get? ((Keyed.get? t outer).getD []) inner).getD 0

/-- Counts once more under two labels. -/
def increment (outer inner : String) (t : Tally) : Tally :=
  Keyed.put outer
    (Keyed.put inner (count t outer inner + 1) ((Keyed.get? t outer).getD [])) t

/-- All counts with their labels, in the order of the labels. -/
def entries (t : Tally) : List (String × String × Nat) :=
  t.flatMap fun (outer, row) => row.map fun (inner, n) => (outer, inner, n)

theorem count_increment_self (outer inner : String) (t : Tally) :
    count (increment outer inner t) outer inner = count t outer inner + 1 := by
  simp [count, increment]

theorem count_increment_of_ne {outer inner a b : String} (h : a ≠ outer ∨ b ≠ inner) (t : Tally) :
    count (increment outer inner t) a b = count t a b := by
  by_cases ha : a = outer
  · subst ha
    have hb : b ≠ inner := h.resolve_left fun hne => hne rfl
    simp [count, increment, Keyed.get?_put_of_ne hb]
  · simp [count, increment, Keyed.get?_put_of_ne ha]

end Tally

/-- What the operator counted so far. -/
structure Metrics where
  /-- Passes that were begun. -/
  passes : Nat := 0
  /-- The lengths of the finished passes in milliseconds, by the kind of their object. -/
  durations : Keyed (List Nat) := []
  /-- Failed passes, by the label of the failure and the name of the pattern. -/
  failures : Tally := []
  /-- Written applications, by the name of the pattern and the kind of write. -/
  writes : Tally := []
  deriving DecidableEq

namespace Metrics

/-- A pass was begun. -/
def began (m : Metrics) : Metrics :=
  { m with passes := m.passes + 1 }

/-- A pass over an object of this kind took so many milliseconds. -/
def ended (kind : String) (millis : Nat) (m : Metrics) : Metrics :=
  let earlier := (Keyed.get? m.durations kind).getD []
  { m with durations := Keyed.put kind (earlier ++ [millis]) m.durations }

/-- A pass over the pattern failed. -/
def failed (pattern label : String) (m : Metrics) : Metrics :=
  { m with failures := m.failures.increment label pattern }

/-- The application of the pattern was written. -/
def wrote (pattern operation : String) (m : Metrics) : Metrics :=
  { m with writes := m.writes.increment pattern operation }

end Metrics

/-! ## Registration -/

/-- Metrics under one name can be registered only once. -/
inductive RegistrationProblem where
  | duplicate
  deriving DecidableEq

def RegistrationProblem.message : RegistrationProblem → String
  | duplicate => "Duplicate metrics collector registration attempted"

/-- The metrics that are shown to the outside, if any were registered. -/
structure Registry where
  shown : Option Metrics := none
  deriving DecidableEq

namespace Registry

/-- Shows metrics from now on. -/
def register (r : Registry) (m : Metrics) : Except RegistrationProblem Registry :=
  match r.shown with
  | none => .ok { shown := some m }
  | some _ => .error .duplicate

end Registry

end PatternSync
