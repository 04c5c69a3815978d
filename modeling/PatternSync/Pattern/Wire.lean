import PatternSync.Pattern.Basic

/-!
# Patterns as documents

The shapes of patterns, and the reading and writing of each part. Texts and lists that are empty
are mostly not written; a field that is absent takes its default.
-/

namespace PatternSync

open Wire

namespace GitSpec

def shape : Shape :=
  .record "struct GitConfig" .listable
    [ ("targetRepo", .required, .string),
      ("targetRevision", .optional, .string),
      ("originRepo", .optional, .string),
      ("originRevision", .optional, .string),
      ("pollInterval", .optional, .whole .u32),
      ("hostname", .optional, .string) ]

def ofJson (j : Json) : GitSpec where
  targetRepo := textOr "" (shape.field? j "targetRepo")
  targetRevision := textOr "" (shape.field? j "targetRevision")
  originRepo := textOr "" (shape.field? j "originRepo")
  originRevision := textOr "" (shape.field? j "originRevision")
  pollInterval := .ofNat (wholeOr 180 (shape.field? j "pollInterval")).toNat
  hostname := textOr "" (shape.field? j "hostname")

def toJson (g : GitSpec) : Json :=
  .objectOf
    [ ("targetRepo", some (.str g.targetRepo)),
      ("targetRevision", Json.textUnlessEmpty g.targetRevision),
      ("originRepo", Json.textUnlessEmpty g.originRepo),
      ("originRevision", Json.textUnlessEmpty g.originRevision),
      ("pollInterval", some (.int g.pollInterval.toNat)),
      ("hostname", Json.textUnlessEmpty g.hostname) ]

end GitSpec

namespace MultiSourceSpec

def shape : Shape :=
  .record "struct MultiSourceConfig" .listable
    [ ("enabled", .optional, .bool),
      ("helmRepoUrl", .optional, .string),
      ("clusterGroupChartVersion", .optional, .string),
      ("clusterGroupGitRepoUrl", .optional, .string),
      ("clusterGroupChartGitRevision", .optional, .string) ]

/-- The settings of a pattern that says nothing about them. -/
def absent : MultiSourceSpec := {}

def ofJson (j : Json) : MultiSourceSpec where
  enabled := flagOr false (shape.field? j "enabled")
  helmRepoUrl := textOr absent.helmRepoUrl (shape.field? j "helmRepoUrl")
  clusterGroupChartVersion :=
    textOr absent.clusterGroupChartVersion (shape.field? j "clusterGroupChartVersion")
  clusterGroupGitRepoUrl := textOr "" (shape.field? j "clusterGroupGitRepoUrl")
  clusterGroupChartGitRevision :=
    textOr absent.clusterGroupChartGitRevision (shape.field? j "clusterGroupChartGitRevision")

def toJson (m : MultiSourceSpec) : Json :=
  .objectOf
    [ ("enabled", some (.bool m.enabled)),
      ("helmRepoUrl", some (.str m.helmRepoUrl)),
      ("clusterGroupChartVersion", some (.str m.clusterGroupChartVersion)),
      ("clusterGroupGitRepoUrl", Json.textUnlessEmpty m.clusterGroupGitRepoUrl),
      ("clusterGroupChartGitRevision", some (.str m.clusterGroupChartGitRevision)) ]

end MultiSourceSpec

namespace GitOpsSpec

def shape : Shape :=
  .record "struct GitOpsConfig" .listable
    [ ("operatorChannel", .optional, .string),
      ("operatorSource", .optional, .string),
      ("manualSync", .optional, .bool),
      ("manualApproval", .optional, .bool),
      ("operatorCSV", .optional, .string),
      ("useCSV", .optional, .bool) ]

def ofJson (j : Json) : GitOpsSpec where
  operatorChannel := textOr "" (shape.field? j "operatorChannel")
  operatorSource := textOr "" (shape.field? j "operatorSource")
  manualSync := flagOr false (shape.field? j "manualSync")
  manualApproval := flagOr false (shape.field? j "manualApproval")
  operatorCsv := textOr "" (shape.field? j "operatorCSV")
  useCsv := flagOr false (shape.field? j "useCSV")

def toJson (g : GitOpsSpec) : Json :=
  .objectOf
    [ ("operatorChannel", Json.textUnlessEmpty g.operatorChannel),
      ("operatorSource", Json.textUnlessEmpty g.operatorSource),
      ("manualSync", some (.bool g.manualSync)),
      ("manualApproval", some (.bool g.manualApproval)),
      ("operatorCSV", Json.textUnlessEmpty g.operatorCsv),
      ("useCSV", some (.bool g.useCsv)) ]

end GitOpsSpec

namespace ExtraParameter

def shape : Shape :=
  .record "struct PatternParameter" .listable
    [ ("name", .required, .string), ("value", .required, .string) ]

def ofJson (j : Json) : ExtraParameter where
  name := textOr "" (shape.field? j "name")
  value := textOr "" (shape.field? j "value")

def toJson (p : ExtraParameter) : Json :=
  .object [("name", .str p.name), ("value", .str p.value)]

end ExtraParameter

namespace PatternSpec

def shape : Shape :=
  .record "struct PatternSpec" .listable
    [ ("clusterGroupName", .required, .string),
      ("gitSpec", .required, GitSpec.shape),
      ("multiSourceConfig", .optional, MultiSourceSpec.shape),
      ("gitOpsSpec", .optional, .nullable GitOpsSpec.shape),
      ("extraParameters", .optional, .list ExtraParameter.shape),
      ("extraValueFiles", .optional, .list .string),
      ("analyticsUUID", .optional, .string) ]

def ofJson (j : Json) : PatternSpec where
  clusterGroupName := textOr "" (shape.field? j "clusterGroupName")
  git := GitSpec.ofJson (Json.orNull (shape.field? j "gitSpec"))
  multiSource := MultiSourceSpec.ofJson (Json.orNull (shape.field? j "multiSourceConfig"))
  gitOps := optional GitOpsSpec.ofJson (shape.field? j "gitOpsSpec")
  extraParameters := listOf ExtraParameter.ofJson (shape.field? j "extraParameters")
  extraValueFiles := listOf text (shape.field? j "extraValueFiles")
  analyticsUuid := textOr "" (shape.field? j "analyticsUUID")

def toJson (s : PatternSpec) : Json :=
  .objectOf
    [ ("clusterGroupName", some (.str s.clusterGroupName)),
      ("gitSpec", some s.git.toJson),
      ("multiSourceConfig", some s.multiSource.toJson),
      ("gitOpsSpec", s.gitOps.map GitOpsSpec.toJson),
      ("extraParameters", Json.listUnlessEmpty (s.extraParameters.map ExtraParameter.toJson)),
      ("extraValueFiles", Json.listUnlessEmpty (s.extraValueFiles.map .str)),
      ("analyticsUUID", Json.textUnlessEmpty s.analyticsUuid) ]

end PatternSpec

namespace ConditionType

def shape : Shape :=
  .choice ["GitInSync", "GitOutOfSync"]

def ofJson (j : Json) : ConditionType :=
  let name := match j with
    | .obj ((name, _) :: _) => name
    | j => text j
  if name = "GitInSync" then gitInSync else gitOutOfSync

end ConditionType

namespace Condition

def shape : Shape :=
  .record "struct PatternCondition" .listable
    [ ("type", .required, ConditionType.shape),
      ("status", .required, .string),
      ("lastUpdateTime", .required, .time),
      ("lastTransitionTime", .optional, .nullable .time),
      ("message", .optional, .string) ]

def ofJson (j : Json) : Condition where
  type := ConditionType.ofJson (Json.orNull (shape.field? j "type"))
  status := textOr "" (shape.field? j "status")
  lastUpdateTime := instant (Json.orNull (shape.field? j "lastUpdateTime"))
  lastTransitionTime := optional instant (shape.field? j "lastTransitionTime")
  message := textOr "" (shape.field? j "message")

def toJson (c : Condition) : Json :=
  .objectOf
    [ ("type", some (.str c.type.name)),
      ("status", some (.str c.status)),
      ("lastUpdateTime", some (.str c.lastUpdateTime.text)),
      ("lastTransitionTime", c.lastTransitionTime.map fun t => .str t.text),
      ("message", Json.textUnlessEmpty c.message) ]

end Condition

namespace PatternStatus

def shape : Shape :=
  .record "struct PatternStatus" .listable
    [ ("lastStep", .optional, .string),
      ("lastError", .optional, .string),
      ("version", .optional, .whole .u32),
      ("clusterName", .optional, .string),
      ("appClusterDomain", .optional, .string),
      ("clusterDomain", .optional, .string),
      ("clusterID", .optional, .string),
      ("clusterPlatform", .optional, .string),
      ("clusterVersion", .optional, .string),
      ("conditions", .optional, .list Condition.shape) ]

def ofJson (j : Json) : PatternStatus where
  lastStep := textOr "" (shape.field? j "lastStep")
  lastError := textOr "" (shape.field? j "lastError")
  version := .ofNat (wholeOr 0 (shape.field? j "version")).toNat
  clusterName := textOr "" (shape.field? j "clusterName")
  appClusterDomain := textOr "" (shape.field? j "appClusterDomain")
  clusterDomain := textOr "" (shape.field? j "clusterDomain")
  clusterId := textOr "" (shape.field? j "clusterID")
  clusterPlatform := textOr "" (shape.field? j "clusterPlatform")
  clusterVersion := textOr "" (shape.field? j "clusterVersion")
  conditions := listOf Condition.ofJson (shape.field? j "conditions")

def toJson (s : PatternStatus) : Json :=
  .objectOf
    [ ("lastStep", Json.textUnlessEmpty s.lastStep),
      ("lastError", Json.textUnlessEmpty s.lastError),
      ("version", some (.int s.version.toNat)),
      ("clusterName", some (.str s.clusterName)),
      ("appClusterDomain", some (.str s.appClusterDomain)),
      ("clusterDomain", some (.str s.clusterDomain)),
      ("clusterID", some (.str s.clusterId)),
      ("clusterPlatform", some (.str s.clusterPlatform)),
      ("clusterVersion", some (.str s.clusterVersion)),
      ("conditions", some (.arr (s.conditions.map Condition.toJson))) ]

end PatternStatus

namespace Pattern

def shape : Shape :=
  .record "struct Pattern" .listable
    [ ("metadata", .required, Metadata.shape),
      ("spec", .required, PatternSpec.shape),
      ("status", .keyed, .nullable PatternStatus.shape) ]

def ofJson (j : Json) : Pattern where
  metadata := Metadata.ofJson (Json.orNull (shape.field? j "metadata"))
  spec := PatternSpec.ofJson (Json.orNull (shape.field? j "spec"))
  status := optional PatternStatus.ofJson (shape.field? j "status")

/-- The pattern as a document, with its fixed version and kind. -/
def toJson (p : Pattern) : Json :=
  .objectOf
    [ ("apiVersion", some (.str apiVersion)),
      ("kind", some (.str "Pattern")),
      ("metadata", some p.metadata.toJson),
      ("spec", some p.spec.toJson),
      ("status", p.status.map PatternStatus.toJson) ]

end Pattern

end PatternSync
