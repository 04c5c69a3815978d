import PatternSync.Cluster.Facts
import PatternSync.Pattern.Condition
import PatternSync.Reconcile.Application

/-!
# The status after a pass

What a pass records about a pattern, and when the record is worth a write: a status that differs
from the recorded one only in the times of its conditions is not written.
-/

namespace PatternSync

namespace Condition

/-- What a condition says besides its times. -/
def verdict (c : Condition) : ConditionType × String × String :=
  (c.type, c.status, c.message)

end Condition

namespace PatternStatus

/-- Whether two statuses differ in more than the times of their conditions. -/
def differs (previous next : PatternStatus) : Bool :=
  { previous with conditions := [] } != { next with conditions := [] }
    || previous.conditions.map Condition.verdict != next.conditions.map Condition.verdict

/-- The status after a successful pass; `before` holds the facts that the pass went by. -/
def afterSync (before : PatternStatus) (conditions : List Condition) (action : SyncAction) :
    PatternStatus :=
  { before with
    conditions
    lastStep := action.text
    lastError := ""
    version := if action = .unchanged then before.version else before.version + 1 }

def afterFailure (observed : PatternStatus) (f : Failure) : PatternStatus :=
  { observed with lastError := f.message }

end PatternStatus

end PatternSync
