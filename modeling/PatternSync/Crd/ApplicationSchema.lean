import PatternSync.Application.Wire
import PatternSync.Crd.Schema

/-!
# The schema of applications

Only the part of an application that the operator reads and writes has a schema; sources and sync
policies keep everything else.
-/

namespace PatternSync

open Schema

def Parameter.schema : Schema :=
  .record
    [("forceString", false, .boolean), ("name", true, .string), ("value", false, emptyText)]

def HelmSettings.schema : Schema :=
  .described "Value files and parameters handed to helm" (.openRecord
    [ ("ignoreMissingValueFiles", false, .nullable .boolean),
      ("parameters", false, .list Parameter.schema),
      ("valueFiles", false, .list .string) ])

def Source.schema : Schema :=
  .openRecord
    [ ("chart", false, nullableText),
      ("helm", false, .nullable HelmSettings.schema),
      ("path", false, nullableText),
      ("ref", false, nullableText),
      ("repoURL", true, .string),
      ("targetRevision", false, nullableText) ]

def Destination.schema : Schema :=
  .record [("namespace", false, nullableText), ("server", false, nullableText)]

def AutomatedSync.schema : Schema :=
  .openRecord [("prune", false, switch), ("selfHeal", false, switch)]

def SyncPolicy.schema : Schema :=
  .openRecord [("automated", false, .nullable AutomatedSync.schema)]

def ApplicationSpec.schema : Schema :=
  .record
    [ ("destination", true, Destination.schema),
      ("project", true, .string),
      ("source", false, .nullable Source.schema),
      ("sources", false, .list Source.schema),
      ("syncPolicy", false, .nullable SyncPolicy.schema) ]

end PatternSync
