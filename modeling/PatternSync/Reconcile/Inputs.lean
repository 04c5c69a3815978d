import PatternSync.Cluster.Facts
import PatternSync.Pass

/-!
# What a pass reads first

The settings of the operator and the facts about the cluster. Without a stored map of settings the
defaults hold; facts are known only if all three configuration objects can be read.
-/

namespace PatternSync

open Wire

/-- Whether a failed call only means that the object does not exist. -/
def ApiFailure.isAbsence : ApiFailure → Bool
  | refusal r => r.reason == "NotFound"
  | _ => false

namespace Attempt

/-- Reads an object that need not exist. -/
def read? (c : Call) : Attempt (Option Json) := do
  match ← Pass.ask c with
  | .ok j => return some j
  | .error f => if f.isAbsence then return none else throw (.ofApi f)

/-- The line about a missing map of settings. -/
def defaultsLine (ns : String) : LogLine where
  level := .debug
  target := LogLine.settingsTarget
  message := "ConfigMap " ++ ns ++ "/" ++ Settings.mapName ++ " not found, using defaults"

/-- The settings stored in a namespace. -/
def loadSettings (ns : String) : Attempt Settings := do
  match ← read? (.readSettings ns) with
  | some map =>
    match Settings.ofData (settingsMapData map) with
    | .ok settings => return settings
    | .error complaint => throw (.plain (.invalidSettings complaint))
  | none =>
    Pass.leave (.log (defaultsLine ns))
    return {}

def discoverFacts : Attempt ClusterFacts := do
  let clusterVersion ← call (.readConfig .clusterVersion)
  let infrastructure ← call (.readConfig .infrastructure)
  let ingress ← call (.readConfig .ingress)
  return .ofConfig clusterVersion infrastructure ingress

end Attempt

end PatternSync
