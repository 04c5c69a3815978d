import PatternSync.Reconcile.Converge

/-!
# A pass over a pattern that is deleted

Such a pass deletes the application and publishes an event about it. An application that is
already gone is as good as deleted.
-/

namespace PatternSync

/-- The name of the operator as an author of events. -/
def reporter : String :=
  "patterns-operator"

namespace Pattern

def reference (p : Pattern) : Json :=
  .objectOf
    [ ("apiVersion", some (.str apiVersion)),
      ("kind", some (.str "Pattern")),
      ("name", p.metadata.name.map .str),
      ("namespace", p.metadata.namespaceName.map .str),
      ("uid", p.metadata.uid.map .str) ]

def deletionEvent (p : Pattern) (now : Instant) : Json :=
  .object
    [ ("action", .str "Deleting"),
      ("apiVersion", .str "events.k8s.io/v1"),
      ("eventTime", .str now.text),
      ("kind", .str "Event"),
      ("metadata", .objectOf
        [ ("generateName", some (.str (reporter ++ "-"))),
          ("namespace", p.metadata.namespaceName.map .str) ]),
      ("note", .str ("Delete `" ++ p.displayName ++ "`")),
      ("reason", .str "DeleteRequested"),
      ("regarding", p.reference),
      ("reportingController", .str reporter),
      ("reportingInstance", .str reporter),
      ("type", .str "Normal") ]

end Pattern

namespace Attempt

/-- Deletes an application, if it is still there. -/
def deleteApplication (ns name : String) : Attempt Unit := do
  match ← Pass.ask (.deleteApplication ns name) with
  | .ok _ => log .info ("Deleted application " ++ ns ++ "/" ++ name)
  | .error f =>
    if f matches .refusal { code := 404, .. } then
      log .debug ("Application " ++ name ++ " already gone")
    else throw (.ofApi f)

/-- Deletes the application of a pattern and publishes the event about it. -/
def tearDown (p : Pattern) (ns : String) (around : Surroundings) : Attempt Requeue := do
  let settings ← loadSettings around.operatorNamespace
  deleteApplication settings.applicationNamespace p.applicationName
  discard (call (.publish ns (p.deletionEvent around.now)))
  return .onChange

end Attempt

end PatternSync
