import PatternSync.Json.Pointer
import PatternSync.Pattern.Basic

/-!
# Facts about the cluster

What the configuration objects of a cluster say about it: identity, version, platform and domains.
A missing or strange entry makes the fact built from it empty.
-/

namespace PatternSync

/-- The facts about a cluster; an unknown fact is empty. -/
structure ClusterFacts where
  clusterId : String := ""
  clusterVersion : String := ""
  clusterPlatform : String := ""
  appClusterDomain : String := ""
  clusterDomain : String := ""
  clusterName : String := ""
  deriving DecidableEq

namespace ClusterFacts

/-- What stands in front of the first dot. -/
def beforeDot (s : String) : String :=
  String.ofList (s.toList.takeWhile (· ≠ '.'))

/-- What stands behind the first dot, empty without one. -/
def afterDot (s : String) : String :=
  String.ofList ((s.toList.dropWhile (· ≠ '.')).drop 1)

/-- The first two parts of a version between dots, if both are there and not empty. -/
def majorMinor (version : String) : String :=
  let major := beforeDot version
  let minor := beforeDot (afterDot version)
  if major = "" ∨ minor = "" then version else major ++ "." ++ minor

/-- The version of the first completed entry of the update history. -/
def completedVersion (history : List Json) : String :=
  match history.find? fun entry => (entry.member? "state").bind Json.text? = some "Completed" with
  | some entry => entry.textAt ["version"]
  | none => ""

/-- The running version. During the first installation none is completed and the wanted version
counts. -/
def currentVersion (clusterVersion : Json) : String :=
  let history := ((clusterVersion.at? ["status", "history"]).bind Json.items?).getD []
  let completed := completedVersion history
  majorMinor
    (if completed = "" then clusterVersion.textAt ["status", "desired", "version"] else completed)

/-- The facts that the three configuration objects state. -/
def ofConfig (clusterVersion infrastructure ingress : Json) : ClusterFacts :=
  let apps := ingress.textAt ["spec", "domain"]
  let domain := afterDot apps
  { clusterId := clusterVersion.textAt ["spec", "clusterID"]
    clusterVersion := currentVersion clusterVersion
    clusterPlatform := infrastructure.textAt ["spec", "platformSpec", "type"]
    appClusterDomain := apps
    clusterDomain := domain
    clusterName := beforeDot domain }

/-- The status with these facts in place of its own. -/
def applyTo (facts : ClusterFacts) (status : PatternStatus) : PatternStatus :=
  { status with
    clusterId := facts.clusterId
    clusterVersion := facts.clusterVersion
    clusterPlatform := facts.clusterPlatform
    appClusterDomain := facts.appClusterDomain
    clusterDomain := facts.clusterDomain
    clusterName := facts.clusterName }

def toJson (facts : ClusterFacts) : Json :=
  .object
    [ ("clusterID", .str facts.clusterId),
      ("clusterVersion", .str facts.clusterVersion),
      ("clusterPlatform", .str facts.clusterPlatform),
      ("appClusterDomain", .str facts.appClusterDomain),
      ("clusterDomain", .str facts.clusterDomain),
      ("clusterName", .str facts.clusterName) ]

end ClusterFacts

end PatternSync
