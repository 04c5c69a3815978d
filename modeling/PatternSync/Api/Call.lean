import PatternSync.Api.Answer
import PatternSync.Api.Request
import PatternSync.Application.Wire
import PatternSync.Cluster.Objects
import PatternSync.Pattern.Wire
import PatternSync.Settings

/-!
# Calls

What the operator asks of the API server, the request that a call makes, and the document that
its answer has to hold.
-/

namespace PatternSync

open Wire

/-- A call of the API server. -/
inductive Call where
  | listPatterns
  | readSettings (ns : String)
  | readConfig (object : ConfigObject)
  | readApplication (ns name : String)
  | createApplication (ns : String) (a : Application)
  | mergeApplication (ns name : String) (patch : Json)
  | deleteApplication (ns name : String)
  | patchPattern (ns name : String) (ops : List PatchOp)
  | recordStatus (ns name : String) (status : PatternStatus)
  | publish (ns : String) (event : Json)
  deriving DecidableEq

namespace Call

/-! ## Paths -/

def patternsPath : String :=
  "/apis/" ++ Pattern.apiVersion ++ "/patterns"

def settingsPath (ns : String) : String :=
  "/api/v1/namespaces/" ++ ns ++ "/configmaps/" ++ Settings.mapName

def configPath (object : ConfigObject) : String :=
  "/apis/config.openshift.io/v1/" ++ object.path

def applicationsPath (ns : String) : String :=
  "/apis/" ++ Application.apiVersion ++ "/namespaces/" ++ ns ++ "/applications"

def applicationPath (ns name : String) : String :=
  applicationsPath ns ++ "/" ++ name

def patternPath (ns name : String) : String :=
  "/apis/" ++ Pattern.apiVersion ++ "/namespaces/" ++ ns ++ "/patterns/" ++ name

def eventsPath (ns : String) : String :=
  "/apis/events.k8s.io/v1/namespaces/" ++ ns ++ "/events"

/-! ## Requests -/

def statusDocument (status : PatternStatus) : Json :=
  .object
    [ ("apiVersion", .str Pattern.apiVersion), ("kind", .str "Pattern"),
      ("status", status.toJson) ]

/-- What the call does. -/
def verb : Call → Verb
  | listPatterns | readSettings _ | readConfig _ | readApplication _ _ => .get
  | createApplication _ a => .create a.toJson
  | mergeApplication _ _ change => .merge change
  | deleteApplication _ _ => .delete
  | patchPattern _ _ ops => .patch ops
  | recordStatus _ _ status => .applyStatus (statusDocument status)
  | publish _ event => .create event

/-- The text of the target. A change asks with a query, which is empty but for the record of a
status. -/
def targetText : Call → String
  | listPatterns => patternsPath ++ "?&limit=1"
  | readSettings ns => settingsPath ns
  | readConfig object => configPath object
  | readApplication ns name => applicationPath ns name
  | createApplication ns _ => applicationsPath ns ++ "?"
  | mergeApplication ns name _ => applicationPath ns name ++ "?"
  | deleteApplication ns name => applicationPath ns name ++ "?"
  | patchPattern ns name _ => patternPath ns name ++ "?"
  | recordStatus ns name _ =>
    patternPath ns name ++ "/status?&force=true&fieldManager=patterns-operator"
  | publish ns _ => eventsPath ns ++ "?"

/-- The request of the call, if its target can be one. -/
def request (c : Call) : Except AddressProblem Request :=
  (Target.ofText c.targetText).map fun target => { verb := c.verb, target }

/-! ## Answers -/

def patternListShape : Shape :=
  .record "struct ObjectList" .listable
    [ ("metadata", .required, .anything), ("items", .required, .list Pattern.shape) ]

/-- The shape of the document that a successful answer holds. -/
def shape : Call → Shape
  | listPatterns => patternListShape
  | readSettings _ => settingsMapShape
  | readConfig _ => ConfigObject.shape
  | readApplication _ _ | createApplication _ _ | mergeApplication _ _ _
  | deleteApplication _ _ => Application.shape
  | patchPattern _ _ _ | recordStatus _ _ _ => Pattern.shape
  | publish _ _ => eventShape

/-- A deletion is answered by the deleted object or by a report about it. -/
def readDeleted (body : Body) : Except ApiFailure Json := do
  let j ← body.read .anything
  body.read (if j.member? "kind" = some (.str "Status") then reportShape else Application.shape)

/-- The document that a successful answer holds. -/
def read (c : Call) (body : Body) : Except ApiFailure Json :=
  match c with
  | deleteApplication _ _ => readDeleted body
  | _ => body.read c.shape

end Call

end PatternSync
