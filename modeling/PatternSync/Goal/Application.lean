import PatternSync.Application.Basic
import PatternSync.Goal.Parameters
import PatternSync.Goal.ValueFiles

/-!
# The wanted application

The application that has to exist for a pattern. It has a single source, the pattern repository,
or two: the repository, which other sources refer to by name, and the chart.
-/

namespace PatternSync.Pattern

/-- The label by which an application names its pattern. -/
def label : String :=
  "validatedpatterns.io/pattern"

/-- The name by which other sources refer to the pattern repository. -/
def repoRef : String :=
  "patternref"

/-- The root of value files that are found in the pattern repository. -/
def repoRefRoot : String :=
  "$patternref"

/-- The wanted helm settings, with value files behind `root`. -/
def helmGoal (p : Pattern) (settings : Settings) (root : String) : HelmSettings where
  valueFiles := p.valueFiles root
  parameters := p.parameters settings
  ignoreMissingValueFiles := some true

/-- The revision of the pattern repository, if one is asked for. -/
def targetRevision? (p : Pattern) : Option String :=
  if p.spec.git.targetRevision = "" then none else some p.spec.git.targetRevision

/-- The pattern repository as the only source. -/
def singleSource (p : Pattern) (settings : Settings) : Source where
  repoUrl := p.spec.git.targetRepo
  path := some "common/clustergroup"
  targetRevision := p.targetRevision?
  helm := some (p.helmGoal settings "")

/-- The pattern repository as a source that the chart refers to. -/
def repoSource (p : Pattern) : Source where
  repoUrl := p.spec.git.targetRepo
  targetRevision := p.targetRevision?
  ref := some repoRef

/-- The chart as a source, from a chart repository or, for work on the chart, from a git
repository. -/
def chartSource (p : Pattern) (settings : Settings) : Source :=
  let multi := p.spec.multiSource
  let helm := some (p.helmGoal settings repoRefRoot)
  if multi.clusterGroupGitRepoUrl = "" then
    { repoUrl := multi.helmRepoUrl
      chart := some "clustergroup"
      targetRevision := some multi.clusterGroupChartVersion
      helm }
  else
    { repoUrl := multi.clusterGroupGitRepoUrl
      path := some "."
      targetRevision := some multi.clusterGroupChartGitRevision
      helm }

/-- The wanted sync policy: new content is deployed automatically unless a person has to agree. -/
def syncPolicyGoal (p : Pattern) (settings : Settings) : Option SyncPolicy :=
  if p.manualSync || settings.manualSync then none else some { automated := some {} }

def goal (p : Pattern) (settings : Settings) : Application where
  metadata :=
    { name := some p.applicationName
      namespaceName := some settings.applicationNamespace
      labels := some [(label, p.displayName)] }
  spec :=
    { source := if p.spec.multiSource.enabled then none else some (p.singleSource settings)
      sources := if p.spec.multiSource.enabled then [p.repoSource, p.chartSource settings] else []
      destination :=
        { server := some "https://kubernetes.default.svc"
          namespaceName := some settings.applicationNamespace }
      project := "default"
      syncPolicy := p.syncPolicyGoal settings }

end PatternSync.Pattern
