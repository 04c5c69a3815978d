import PatternSync.Wire.Shape

/-!
# Metadata of stored objects

The part that all objects of the cluster share: name and namespace, labels, the version of the
stored object, the finalizers that hold up its deletion, and its times. Every entry may be
missing; an empty map or list is not the same as a missing one.
-/

namespace PatternSync

open Wire

structure Metadata where
  name : Option String := none
  generateName : Option String := none
  namespaceName : Option String := none
  labels : Option (Keyed String) := none
  annotations : Option (Keyed String) := none
  finalizers : Option (List String) := none
  resourceVersion : Option String := none
  uid : Option String := none
  selfLink : Option String := none
  generation : Option Int64 := none
  creationTimestamp : Option Instant := none
  deletionTimestamp : Option Instant := none
  deletionGracePeriodSeconds : Option Int64 := none
  deriving DecidableEq

namespace Metadata

/-- The name, or else the start of a generated one. -/
def displayName (m : Metadata) : String :=
  (m.name.orElse fun _ => m.generateName).getD ""

/-- The finalizers; a missing list has none. -/
def finalizerList (m : Metadata) : List String :=
  m.finalizers.getD []

/-- Whether the object is being deleted. -/
def isDeleting (m : Metadata) : Bool :=
  m.deletionTimestamp.isSome

def shape : Shape :=
  .record "ObjectMeta" .lenient
    [ ("annotations", .optional, .nullable (.dict .string)),
      ("creationTimestamp", .optional, .nullable .time),
      ("deletionGracePeriodSeconds", .optional, .nullable (.whole .i64)),
      ("deletionTimestamp", .optional, .nullable .time),
      ("finalizers", .optional, .nullable (.list .string)),
      ("generateName", .optional, .nullable .string),
      ("generation", .optional, .nullable (.whole .i64)),
      ("labels", .optional, .nullable (.dict .string)),
      ("name", .optional, .nullable .string),
      ("namespace", .optional, .nullable .string),
      ("resourceVersion", .optional, .nullable .string),
      ("selfLink", .optional, .nullable .string),
      ("uid", .optional, .nullable .string) ]

/-- A whole number of 64 bits. -/
def long (j : Json) : Int64 :=
  Int64.ofInt (wholeOr 0 (some j))

def ofJson (j : Json) : Metadata where
  name := optional text (shape.field? j "name")
  generateName := optional text (shape.field? j "generateName")
  namespaceName := optional text (shape.field? j "namespace")
  labels := optional textMap (shape.field? j "labels")
  annotations := optional textMap (shape.field? j "annotations")
  finalizers := optional (fun l => listOf text (some l)) (shape.field? j "finalizers")
  resourceVersion := optional text (shape.field? j "resourceVersion")
  uid := optional text (shape.field? j "uid")
  selfLink := optional text (shape.field? j "selfLink")
  generation := optional long (shape.field? j "generation")
  creationTimestamp := optional instant (shape.field? j "creationTimestamp")
  deletionTimestamp := optional instant (shape.field? j "deletionTimestamp")
  deletionGracePeriodSeconds := optional long (shape.field? j "deletionGracePeriodSeconds")

/-- Times are written in whole seconds. -/
def timeJson (t : Instant) : Json :=
  .str t.wholeSecond.text

/-- The metadata as a document, without what is missing. -/
def toJson (m : Metadata) : Json :=
  .objectOf
    [ ("annotations", m.annotations.map .ofTexts),
      ("creationTimestamp", m.creationTimestamp.map timeJson),
      ("deletionGracePeriodSeconds", m.deletionGracePeriodSeconds.map fun n => .int n.toInt),
      ("deletionTimestamp", m.deletionTimestamp.map timeJson),
      ("finalizers", m.finalizers.map fun l => .arr (l.map .str)),
      ("generateName", m.generateName.map .str),
      ("generation", m.generation.map fun n => .int n.toInt),
      ("labels", m.labels.map .ofTexts),
      ("name", m.name.map .str),
      ("namespace", m.namespaceName.map .str),
      ("resourceVersion", m.resourceVersion.map .str),
      ("selfLink", m.selfLink.map .str),
      ("uid", m.uid.map .str) ]

end Metadata

end PatternSync
