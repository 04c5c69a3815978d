import PatternSync.Helm.Parameters
import PatternSync.Pattern.Basic
import PatternSync.Settings

/-!
# Parameters of the goal

The ten fixed parameters of a pattern, and over them the ones that the user adds. An added
parameter overwrites the one of its name, so names stay distinct.
-/

namespace PatternSync.Pattern

def fixedParameters (p : Pattern) (settings : Settings) : List Parameter :=
  let facts := p.observed
  [ { name := "global.pattern", value := p.displayName },
    { name := "global.namespace", value := settings.applicationNamespace },
    { name := "global.repoURL", value := p.spec.git.targetRepo },
    { name := "global.targetRevision", value := p.spec.git.targetRevision },
    { name := "global.hubClusterDomain", value := facts.appClusterDomain },
    { name := "global.localClusterDomain", value := facts.appClusterDomain },
    { name := "global.clusterDomain", value := facts.clusterDomain },
    { name := "global.clusterVersion", value := facts.clusterVersion },
    { name := "global.clusterPlatform", value := facts.clusterPlatform },
    { name := "global.localClusterName", value := facts.clusterName } ]

/-- An added parameter as one for helm. -/
def addedParameter (e : ExtraParameter) : Parameter :=
  { name := e.name, value := e.value }

def parameters (p : Pattern) (settings : Settings) : List Parameter :=
  (p.spec.extraParameters.map addedParameter).foldl Parameter.upsert (p.fixedParameters settings)

end PatternSync.Pattern
