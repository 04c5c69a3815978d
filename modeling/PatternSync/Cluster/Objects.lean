import PatternSync.Object.Metadata

/-!
# Objects that the operator only reads

The map of settings, the configuration objects of the cluster, recorded events, and the reports
that a server may give in place of an object.
-/

namespace PatternSync

open Wire

/-- The configuration objects from which facts about the cluster are read. -/
inductive ConfigObject where
  | clusterVersion
  | infrastructure
  | ingress
  deriving DecidableEq

namespace ConfigObject

/-- The name of the resource and the name of its only object. -/
def path : ConfigObject → String
  | clusterVersion => "clusterversions/version"
  | infrastructure => "infrastructures/cluster"
  | ingress => "ingresses/cluster"

/-- A configuration object can hold anything. -/
def shape : Shape :=
  .record "struct DynamicObject" .keeping [("metadata", .optional, Metadata.shape)]

end ConfigObject

/-- The shape of a map of texts, which may also hold bytes. -/
def settingsMapShape : Shape :=
  .record "ConfigMap" .lenient
    [ ("apiVersion", .optional, .word "v1"),
      ("binaryData", .optional, .nullable (.dict (.nullable .base64))),
      ("data", .optional, .nullable (.dict .string)),
      ("immutable", .optional, .nullable .bool),
      ("kind", .optional, .word "ConfigMap"),
      ("metadata", .optional, .nullable Metadata.shape) ]

/-- The entries of a map of texts. -/
def settingsMapData (j : Json) : Keyed String :=
  (optional textMap (j.member? "data")).getD []

def referenceShape : Shape :=
  .record "ObjectReference" .lenient
    (["apiVersion", "fieldPath", "kind", "name", "namespace", "resourceVersion", "uid"].map
      fun name => (name, .optional, .nullable .string))

def eventShape : Shape :=
  .record "Event" .lenient
    [ ("action", .optional, .nullable .string),
      ("apiVersion", .optional, .word "events.k8s.io/v1"),
      ("deprecatedCount", .optional, .nullable (.whole .i32)),
      ("deprecatedFirstTimestamp", .optional, .nullable .time),
      ("deprecatedLastTimestamp", .optional, .nullable .time),
      ("deprecatedSource", .optional, .nullable (.record "EventSource" .lenient
        [("component", .optional, .nullable .string), ("host", .optional, .nullable .string)])),
      ("eventTime", .optional, .nullable .time),
      ("kind", .optional, .word "Event"),
      ("metadata", .optional, .nullable Metadata.shape),
      ("note", .optional, .nullable .string),
      ("reason", .optional, .nullable .string),
      ("regarding", .optional, .nullable referenceShape),
      ("related", .optional, .nullable referenceShape),
      ("reportingController", .optional, .nullable .string),
      ("reportingInstance", .optional, .nullable .string),
      ("series", .optional, .nullable (.record "EventSeries" .lenient
        [("count", .optional, .nullable (.whole .i32)),
          ("lastObservedTime", .required, .time)])),
      ("type", .optional, .nullable .string) ]

def reportCauseShape : Shape :=
  .record "struct StatusCause" .listable
    [ ("reason", .optional, .string), ("message", .optional, .string),
      ("field", .optional, .string) ]

def reportDetailsShape : Shape :=
  .record "struct StatusDetails" .listable
    [ ("name", .optional, .string),
      ("group", .optional, .string),
      ("kind", .optional, .string),
      ("uid", .optional, .string),
      ("causes", .optional, .list reportCauseShape),
      ("retryAfterSeconds", .optional, .whole .u32) ]

def reportShape : Shape :=
  .record "struct Status" .listable
    [ ("status", .optional, .nullable (.choice ["Success", "Failure"])),
      ("code", .optional, .whole .u16),
      ("message", .optional, .string),
      ("reason", .optional, .string),
      ("details", .optional, .nullable reportDetailsShape) ]

end PatternSync
