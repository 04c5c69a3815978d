import PatternSync.Reconcile.Finalizer

/-!
# Reconciling a pattern

One pass over a pattern, and when to look at the pattern again after the pass has failed.
-/

namespace PatternSync

/-- The time after which a failed pass is tried again, unless its failure has one of its own. -/
def retryMillis : Nat := 300000

/-- The complaint about a pattern without a namespace. -/
def namespaceMissing : Failure :=
  .plain (.metadataMissing "Pattern has no namespace")

namespace Attempt

/-- A pass over a pattern; only a pattern in a namespace can be reconciled. -/
def reconcileNamed (p : Pattern) (around : Surroundings) : Attempt Requeue := do
  match p.metadata.namespaceName with
  | none => throw namespaceMissing
  | some ns =>
    log .info ("Reconciling Pattern \"" ++ p.displayName ++ "\" in " ++ ns)
    finalize p ns around

end Attempt

namespace Pattern

/-- A pass over a pattern, counted and measured. -/
def reconcile (p : Pattern) (around : Surroundings) : Pass (Except Failure Requeue) := do
  Pass.leave .began
  let result ← (Attempt.reconcileNamed p around).run
  Pass.leave (.ended "pattern")
  return result

/-- A failed pass is noted and counted, and tried again later. -/
def handleFailure (p : Pattern) (f : Failure) : Pass Requeue := do
  Pass.leave (.log
    { level := .warn, target := LogLine.patternTarget, message := "reconcile failed: " ++ f.debug })
  Pass.leave (.failed p.displayName f.label)
  return .afterMillis (f.requeueMillis?.getD retryMillis)

/-- A pass over a pattern and, if it fails, what follows. -/
def attend (p : Pattern) (around : Surroundings) : Pass Requeue := do
  match ← p.reconcile around with
  | .ok requeue => return requeue
  | .error f => p.handleFailure f

end Pattern

end PatternSync
