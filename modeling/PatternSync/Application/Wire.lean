import PatternSync.Application.Basic

/-!
# Applications as documents

The shapes of applications, and the reading and writing of each part. Members that have no field
are read into `extra` and written back, nulls included.
-/

namespace PatternSync

open Wire

namespace Parameter

def shape : Shape :=
  .record "struct HelmParameter" .listable
    [ ("name", .required, .string),
      ("value", .optional, .string),
      ("forceString", .optional, .bool) ]

def ofJson (j : Json) : Parameter where
  name := textOr "" (shape.field? j "name")
  value := textOr "" (shape.field? j "value")
  forceString := flagOr false (shape.field? j "forceString")

def toJson (p : Parameter) : Json :=
  .objectOf
    [ ("name", some (.str p.name)),
      ("value", some (.str p.value)),
      ("forceString", if p.forceString then some (.bool true) else none) ]

end Parameter

/-- The members of a document: those of the fields that are there, and the unknown ones. -/
def withExtra (fields : List (String × Option Json)) (extra : Keyed Json) : Json :=
  .objectOf (fields ++ extra.map fun (k, v) => (k, some v))

namespace HelmSettings

def shape : Shape :=
  .record "struct ApplicationSourceHelm" .keeping
    [ ("valueFiles", .optional, .list .string),
      ("parameters", .optional, .list Parameter.shape),
      ("ignoreMissingValueFiles", .optional, .nullable .bool) ]

def ofJson (j : Json) : HelmSettings where
  valueFiles := listOf text (shape.field? j "valueFiles")
  parameters := listOf Parameter.ofJson (shape.field? j "parameters")
  ignoreMissingValueFiles := optional flag (shape.field? j "ignoreMissingValueFiles")
  extra := shape.unknownMembers j

def toJson (h : HelmSettings) : Json :=
  withExtra
    [ ("valueFiles", Json.listUnlessEmpty (h.valueFiles.map .str)),
      ("parameters", Json.listUnlessEmpty (h.parameters.map Parameter.toJson)),
      ("ignoreMissingValueFiles", h.ignoreMissingValueFiles.map .bool) ]
    h.extra

end HelmSettings

namespace Source

def shape : Shape :=
  .record "struct ApplicationSource" .keeping
    [ ("repoURL", .required, .string),
      ("path", .optional, .nullable .string),
      ("targetRevision", .optional, .nullable .string),
      ("chart", .optional, .nullable .string),
      ("ref", .optional, .nullable .string),
      ("helm", .optional, .nullable HelmSettings.shape) ]

def ofJson (j : Json) : Source where
  repoUrl := textOr "" (shape.field? j "repoURL")
  path := optional text (shape.field? j "path")
  targetRevision := optional text (shape.field? j "targetRevision")
  chart := optional text (shape.field? j "chart")
  ref := optional text (shape.field? j "ref")
  helm := optional HelmSettings.ofJson (shape.field? j "helm")
  extra := shape.unknownMembers j

def toJson (s : Source) : Json :=
  withExtra
    [ ("repoURL", some (.str s.repoUrl)),
      ("path", s.path.map .str),
      ("targetRevision", s.targetRevision.map .str),
      ("chart", s.chart.map .str),
      ("ref", s.ref.map .str),
      ("helm", s.helm.map HelmSettings.toJson) ]
    s.extra

end Source

namespace Destination

def shape : Shape :=
  .record "struct ApplicationDestination" .listable
    [ ("server", .optional, .nullable .string),
      ("namespace", .optional, .nullable .string) ]

def ofJson (j : Json) : Destination where
  server := optional text (shape.field? j "server")
  namespaceName := optional text (shape.field? j "namespace")

def toJson (d : Destination) : Json :=
  .objectOf [("server", d.server.map .str), ("namespace", d.namespaceName.map .str)]

end Destination

namespace AutomatedSync

def shape : Shape :=
  .record "struct SyncPolicyAutomated" .keeping
    [("prune", .optional, .bool), ("selfHeal", .optional, .bool)]

def ofJson (j : Json) : AutomatedSync where
  prune := flagOr false (shape.field? j "prune")
  selfHeal := flagOr false (shape.field? j "selfHeal")
  extra := shape.unknownMembers j

def toJson (a : AutomatedSync) : Json :=
  withExtra [("prune", some (.bool a.prune)), ("selfHeal", some (.bool a.selfHeal))] a.extra

end AutomatedSync

namespace SyncPolicy

def shape : Shape :=
  .record "struct SyncPolicy" .keeping
    [("automated", .optional, .nullable AutomatedSync.shape)]

def ofJson (j : Json) : SyncPolicy where
  automated := optional AutomatedSync.ofJson (shape.field? j "automated")
  extra := shape.unknownMembers j

def toJson (p : SyncPolicy) : Json :=
  withExtra [("automated", p.automated.map AutomatedSync.toJson)] p.extra

end SyncPolicy

namespace ApplicationSpec

def shape : Shape :=
  .record "struct ApplicationSpec" .listable
    [ ("source", .optional, .nullable Source.shape),
      ("sources", .optional, .list Source.shape),
      ("destination", .required, Destination.shape),
      ("project", .required, .string),
      ("syncPolicy", .optional, .nullable SyncPolicy.shape) ]

def ofJson (j : Json) : ApplicationSpec where
  source := optional Source.ofJson (shape.field? j "source")
  sources := listOf Source.ofJson (shape.field? j "sources")
  destination := Destination.ofJson (Json.orNull (shape.field? j "destination"))
  project := textOr "" (shape.field? j "project")
  syncPolicy := optional SyncPolicy.ofJson (shape.field? j "syncPolicy")

def toJson (s : ApplicationSpec) : Json :=
  .objectOf
    [ ("source", s.source.map Source.toJson),
      ("sources", Json.listUnlessEmpty (s.sources.map Source.toJson)),
      ("destination", some s.destination.toJson),
      ("project", some (.str s.project)),
      ("syncPolicy", s.syncPolicy.map SyncPolicy.toJson) ]

end ApplicationSpec

namespace Application

def shape : Shape :=
  .record "struct Application" .listable
    [("metadata", .required, Metadata.shape), ("spec", .required, ApplicationSpec.shape)]

def ofJson (j : Json) : Application where
  metadata := Metadata.ofJson (Json.orNull (shape.field? j "metadata"))
  spec := ApplicationSpec.ofJson (Json.orNull (shape.field? j "spec"))

/-- The application as a document, with its fixed version and kind. -/
def toJson (a : Application) : Json :=
  .object
    [ ("apiVersion", .str apiVersion),
      ("kind", .str "Application"),
      ("metadata", a.metadata.toJson),
      ("spec", a.spec.toJson) ]

end Application

end PatternSync
