import PatternSync.Reconcile.Status

/-!
# A pass over a pattern that stays

Such a pass reads settings and facts, brings the application in line, and records what it found. A
failed pass records its error instead and keeps everything else that was recorded.
-/

namespace PatternSync

/-- When to look at a pattern again. -/
inductive Requeue where
  | afterMillis (n : Nat)
  /-- When something changes. -/
  | onChange
  deriving DecidableEq

/-- The time between two passes over a pattern. -/
def passInterval : Requeue :=
  .afterMillis 180000

/-- What a pass goes by besides the pattern. -/
structure Surroundings where
  /-- The namespace of the settings. -/
  operatorNamespace : String
  now : Instant

namespace Attempt

/-- The recorded status with fresh facts; facts that cannot be read stay as they were. -/
def withFreshFacts (observed : PatternStatus) : Attempt PatternStatus := do
  match ← outcome discoverFacts with
  | .ok facts => return facts.applyTo observed
  | .error f =>
    log .warn ("Unable to discover cluster facts, keeping previous ones: " ++ f.message)
    return observed

/-- Brings the application in line; the status to record. -/
def sync (p : Pattern) (around : Surroundings) : Attempt PatternStatus := do
  let settings ← loadSettings around.operatorNamespace
  let status ← withFreshFacts p.observed
  let result ← syncApplication { p with status := some status } settings
  let (conditions, changed) :=
    Condition.record p.conditions result.inSync result.message around.now
  if changed then log .info ("Pattern " ++ p.displayName ++ ": " ++ result.message)
  return status.afterSync conditions result.action

/-- Records the error of a pass, unless it is recorded already. A failed record is only noted. -/
def recordFailure (p : Pattern) (ns : String) (f : Failure) : Attempt Unit := do
  let status := p.observed.afterFailure f
  if p.observed.differs status then
    match ← Pass.ask (.recordStatus ns p.displayName status) with
    | .ok _ => return ()
    | .error g =>
      log .warn ("Unable to record error on Pattern " ++ p.displayName ++ ": "
        ++ (Failure.ofApi g).message)

/-- A pass over a pattern in a namespace. -/
def converge (p : Pattern) (ns : String) (around : Surroundings) : Attempt Requeue := do
  match ← outcome (sync p around) with
  | .error f =>
    recordFailure p ns f
    throw f
  | .ok status =>
    if p.observed.differs status then
      discard (call (.recordStatus ns p.displayName status))
    else
      log .debug ("Pattern " ++ ns ++ "/" ++ p.displayName ++ " status unchanged")
    return passInterval

end Attempt

end PatternSync
