import PatternSync.Pattern.Basic

/-!
# Tracking the sync condition

A pattern keeps one condition that records its last comparison. The time of its last transition
moves only when the verdict changes.
-/

namespace PatternSync.Condition

/-- The condition after a comparison. -/
def next (previous : Option Condition) (inSync : Bool) (message : String) (now : Instant) :
    Condition :=
  let type := ConditionType.ofVerdict inSync
  { type
    status := "True"
    lastUpdateTime := now
    lastTransitionTime :=
      match previous with
      | some c => if c.type = type ∧ c.status = "True" then c.lastTransitionTime else some now
      | none => some now
    message }

/-- Whether two conditions differ in more than their times. -/
def differs (a b : Condition) : Bool :=
  a.type != b.type || a.status != b.status || a.message != b.message

/-- The conditions after a comparison, and whether the recorded one changed. Only the first of the
earlier conditions counts. -/
def record (conditions : List Condition) (inSync : Bool) (message : String) (now : Instant) :
    List Condition × Bool :=
  let c := next conditions.head? inSync message now
  ([c], conditions.head?.all (differs · c))

/-- The recorded verdict is the one of the last comparison. -/
theorem type_next (previous : Option Condition) (inSync : Bool) (message : String) (now : Instant) :
    (next previous inSync message now).type = .ofVerdict inSync := rfl

/-- The time of the last transition stays as long as the verdict does. -/
theorem lastTransitionTime_next_of_eq {c : Condition} {inSync : Bool}
    (htype : c.type = .ofVerdict inSync) (hstatus : c.status = "True") (message : String)
    (now : Instant) :
    (next (some c) inSync message now).lastTransitionTime = c.lastTransitionTime := by
  simp [next, htype, hstatus]

end PatternSync.Condition
