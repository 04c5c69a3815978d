import PatternSync.Application.Update
import PatternSync.Goal.Application
import PatternSync.Helm.Drift
import PatternSync.Reconcile.Inputs

/-!
# Reconciling the application

Bringing the live application of a pattern in line with the wanted one: it is created if it does
not exist, written if something has to change, and left alone otherwise. The verdict and the
message are about the application as it was read. A write that meets another version than the one
that was read is refused, and the pass is tried again after a second.
-/

namespace PatternSync

/-- What was done to the application. -/
inductive SyncAction where
  | created
  | updated
  | unchanged
  deriving DecidableEq

def SyncAction.text : SyncAction → String
  | created => "Created application"
  | updated => "Updated application"
  | unchanged => "Application unchanged"

/-- What a pass found and did. -/
structure SyncOutcome where
  /-- Whether the helm settings that were read are the wanted ones. -/
  inSync : Bool
  message : String
  action : SyncAction
  deriving DecidableEq

/-- The time after which a conflicting write is tried again. -/
def conflictMillis : Nat := 1000

/-- Why a write of the application failed: a conflict asks for another attempt soon. -/
def writeFailure (f : ApiFailure) : Failure :=
  match f with
  | .refusal r => if r.code = 409 then .requeue (.api f) conflictMillis else .ofApi f
  | _ => .ofApi f

namespace Attempt

/-- A note about a written application. -/
def wrote (p : Pattern) (operation : String) : Attempt Unit :=
  Pass.leave (.wrote p.displayName operation)

def createApplication (p : Pattern) (settings : Settings) (goal : Application) :
    Attempt SyncOutcome := do
  log .info
    ("Creating application " ++ settings.applicationNamespace ++ "/" ++ goal.displayName)
  discard (call (.createApplication settings.applicationNamespace goal))
  wrote p "create"
  return { inSync := true
           message := "Created application " ++ goal.displayName
           action := .created }

/-- Writes the managed parts of the application back. -/
def mergeApplication (ns name : String) (a : Application) : Attempt Unit := do
  match ← Pass.ask (.mergeApplication ns name a.writeBack) with
  | .ok _ => return ()
  | .error f =>
    if f matches .refusal { code := 409, .. } then
      log .warn ("Application " ++ name ++ " changed while it was being updated, retrying")
    throw (writeFailure f)

/-- Brings a live application in line with the goal. -/
def updateApplication (p : Pattern) (settings : Settings) (goal live : Application) :
    Attempt SyncOutcome := do
  let name := goal.displayName
  let inSync := goal.helmOrEmpty.inSync live.helmOrEmpty
  let message := goal.helmOrEmpty.driftMessage live.helmOrEmpty
  match goal.update live with
  | (_, false) =>
    log .debug ("Application " ++ name ++ " needs no update")
    return { inSync, message, action := .unchanged }
  | (updated, true) =>
    log .info ("Updating application " ++ settings.applicationNamespace ++ "/" ++ name ++ ": "
      ++ message)
    mergeApplication settings.applicationNamespace name updated
    wrote p "update"
    return { inSync, message, action := .updated }

/-- Brings the application of a pattern in line with the goal. -/
def syncApplication (p : Pattern) (settings : Settings) : Attempt SyncOutcome := do
  let goal := p.goal settings
  match ← read? (.readApplication settings.applicationNamespace goal.displayName) with
  | none => createApplication p settings goal
  | some j => updateApplication p settings goal (.ofJson j)

end Attempt

end PatternSync
