import PatternSync.Crd.Schema
import PatternSync.Pattern.Wire

/-!
# The schema of patterns

The schemas of specification and status, property by property in the order of the names.
-/

namespace PatternSync

open Schema

def GitSpec.schema : Schema :=
  .record
    [ ("hostname", false, .described
        "FQDN of the git server if automatic parsing from target_repo is broken" .string),
      ("originRepo", false, .described
        "Upstream repo, used when the target repo is an in-cluster fork" .string),
      ("originRevision", false, .string),
      ("pollInterval", false, .defaulting (.int 180) (.described
        "Seconds between drift checks of origin and target repositories" .unsigned)),
      ("targetRepo", true, .described
        "Git repo containing the pattern to deploy. Must use https/http" .string),
      ("targetRevision", false, .described
        "Branch, tag, or commit to deploy. Does not support short-sha's" .string) ]

def MultiSourceSpec.schema : Schema :=
  .record
    [ ("clusterGroupChartGitRevision", false,
        .defaulting (.str absent.clusterGroupChartGitRevision) .string),
      ("clusterGroupChartVersion", false,
        .defaulting (.str absent.clusterGroupChartVersion) .string),
      ("clusterGroupGitRepoUrl", false, .described
        "Only used when developing the clustergroup chart" .string),
      ("enabled", false, .described
        "Deploy the clustergroup chart from a helm repo instead of the pattern repo" switch),
      ("helmRepoUrl", false, .defaulting (.str absent.helmRepoUrl) .string) ]

def GitOpsSpec.schema : Schema :=
  .record
    [ ("manualApproval", false, .described
        "Require manual confirmation before installing and upgrading operators" switch),
      ("manualSync", false, .described
        "Require manual intervention before Argo will sync new content" switch),
      ("operatorCSV", false, .described
        "Specific version of openshift-gitops to deploy, only honoured with `useCSV`" .string),
      ("operatorChannel", false, .described "Channel to deploy openshift-gitops from" .string),
      ("operatorSource", false, .described
        "Catalog source to deploy openshift-gitops from" .string),
      ("useCSV", false, switch) ]

def ExtraParameter.schema : Schema :=
  .record [("name", true, .string), ("value", true, .string)]

def PatternSpec.description : String :=
  "Generate the Kubernetes wrapper struct `Pattern` from our Spec and Status struct\n\n"
    ++ "This provides a hook for generating the CRD yaml (in crdgen.rs)"

def PatternSpec.schema : Schema :=
  .described description (.record
    [ ("analyticsUUID", false, .string),
      ("clusterGroupName", true, .string),
      ("extraParameters", false, .described
        "Names are dot separated per the helm --set syntax, such as global.something.field"
        (.list ExtraParameter.schema)),
      ("extraValueFiles", false, .described
        "Additional value files, relative to the root of the target repo" (.list .string)),
      ("gitOpsSpec", false, .nullable GitOpsSpec.schema),
      ("gitSpec", true, GitSpec.schema),
      ("multiSourceConfig", false,
        .defaulting MultiSourceSpec.absent.toJson MultiSourceSpec.schema) ])

def Condition.schema : Schema :=
  .record
    [ ("lastTransitionTime", false, .nullable .time),
      ("lastUpdateTime", true, .time),
      ("message", false, .string),
      ("status", true, .described "One of True, False, Unknown" .string),
      ("type", true, .choice
        [ConditionType.gitInSync.name, ConditionType.gitOutOfSync.name]) ]

def PatternStatus.schema : Schema :=
  .described "The status object of `Pattern`" (.nullable (.record
    [ ("appClusterDomain", false, emptyText),
      ("clusterDomain", false, emptyText),
      ("clusterID", false, emptyText),
      ("clusterName", false, emptyText),
      ("clusterPlatform", false, emptyText),
      ("clusterVersion", false, emptyText),
      ("conditions", false, .defaulting (.arr []) (.list Condition.schema)),
      ("lastError", false, .string),
      ("lastStep", false, .string),
      ("version", false, .defaulting (.int 0) (.described
        "Number of updates written to the generated application" .unsigned)) ]))

end PatternSync
