import PatternSync.Object.Metadata

/-!
# Patterns

A pattern asks for the content of a git repository to be deployed on the cluster. Its
specification is written by a user; its status records what the operator last saw and did.
-/

namespace PatternSync

/-- Where the content of a pattern comes from. -/
structure GitSpec where
  targetRepo : String
  targetRevision : String := ""
  originRepo : String := ""
  originRevision : String := ""
  /-- Seconds between two looks at the repositories. -/
  pollInterval : UInt32 := 180
  hostname : String := ""
  deriving DecidableEq

/-- Whether and from where the chart is deployed as a source of its own. -/
structure MultiSourceSpec where
  enabled : Bool := false
  helmRepoUrl : String := "https://charts.validatedpatterns.io/"
  clusterGroupChartVersion : String := "0.0.*"
  clusterGroupGitRepoUrl : String := ""
  clusterGroupChartGitRevision : String := "main"
  deriving DecidableEq

/-- Settings of the deploying operator; only `manualSync` has an effect here. -/
structure GitOpsSpec where
  operatorChannel : String := ""
  operatorSource : String := ""
  manualSync : Bool := false
  manualApproval : Bool := false
  operatorCsv : String := ""
  useCsv : Bool := false
  deriving DecidableEq

/-- A parameter that the user adds. -/
structure ExtraParameter where
  name : String
  value : String
  deriving DecidableEq

/-- What a user asks for. -/
structure PatternSpec where
  clusterGroupName : String
  git : GitSpec
  multiSource : MultiSourceSpec := {}
  gitOps : Option GitOpsSpec := none
  extraParameters : List ExtraParameter := []
  extraValueFiles : List String := []
  analyticsUuid : String := ""
  deriving DecidableEq

/-- Which way a comparison with the live application came out. -/
inductive ConditionType where
  | gitInSync
  | gitOutOfSync
  deriving DecidableEq, Repr

/-- The record of a comparison. -/
structure Condition where
  type : ConditionType
  status : String
  lastUpdateTime : Instant
  lastTransitionTime : Option Instant := none
  message : String := ""
  deriving DecidableEq

/-- What the operator recorded about a pattern. -/
structure PatternStatus where
  lastStep : String := ""
  lastError : String := ""
  /-- How many writes the application has got. -/
  version : UInt32 := 0
  clusterName : String := ""
  appClusterDomain : String := ""
  clusterDomain : String := ""
  clusterId : String := ""
  clusterPlatform : String := ""
  clusterVersion : String := ""
  conditions : List Condition := []
  deriving DecidableEq

structure Pattern where
  metadata : Metadata
  spec : PatternSpec
  status : Option PatternStatus := none
  deriving DecidableEq

namespace ConditionType

def name : ConditionType → String
  | gitInSync => "GitInSync"
  | gitOutOfSync => "GitOutOfSync"

/-- The type that a comparison leads to. -/
def ofVerdict (inSync : Bool) : ConditionType :=
  if inSync then gitInSync else gitOutOfSync

end ConditionType

namespace Pattern

/-- The finalizer by which the operator holds up the deletion of a pattern. -/
def finalizer : String :=
  "pattern.gitops.hybrid-cloud-patterns.io"

/-- The group and version of the resource. -/
def apiVersion : String :=
  "gitops.hybrid-cloud-patterns.io/v1alpha1"

/-- The name by which messages call the pattern. -/
def displayName (p : Pattern) : String :=
  p.metadata.displayName

/-- The recorded status, empty before the first record. -/
def observed (p : Pattern) : PatternStatus :=
  p.status.getD {}

def conditions (p : Pattern) : List Condition :=
  p.observed.conditions

/-- Whether the pattern asks for new content to wait for a person. -/
def manualSync (p : Pattern) : Bool :=
  p.spec.gitOps.any (·.manualSync)

def applicationName (p : Pattern) : String :=
  p.displayName ++ "-" ++ p.spec.clusterGroupName

end Pattern

end PatternSync
