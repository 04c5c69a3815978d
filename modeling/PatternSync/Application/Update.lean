import PatternSync.Application.Wire
import PatternSync.Helm.Drift

/-!
# Bringing an application in line with its goal

If the sources of the live application still have the layout of the goal, only the wanted helm
settings are merged into it; otherwise the sources of the goal take the place of the live ones. Of
the sync policy only the presence of the automated part is managed.
-/

namespace PatternSync.Application

/-- The helm settings, empty ones if there are none. -/
def helmOrEmpty (a : Application) : HelmSettings :=
  a.helm?.getD {}

/-- Whether both applications have a single source or both a list, with the same content at every
place, and both or none have helm settings. -/
def sameLayout (goal live : Application) : Bool :=
  goal.spec.source.isSome == live.spec.source.isSome
    && goal.allSources.length == live.allSources.length
    && (goal.allSources.zip live.allSources).all (fun (g, l) => g.sameOrigin l)
    && goal.helm?.isSome == live.helm?.isSome

/-- The automated part of the sync policy. -/
def automated? (a : Application) : Option AutomatedSync :=
  a.spec.syncPolicy.bind (·.automated)

/-- The live application with the wanted sources, or nothing if they need no change. -/
def updateSources? (goal live : Application) : Option Application :=
  if sameLayout goal live then
    match goal.helm?, live.helm? with
    | some wanted, some current =>
      let merged := wanted.merge current
      if merged = current then none else live.setHelm? merged
    | _, _ => none
  else
    some { live with
      spec := { live.spec with source := goal.spec.source, sources := goal.spec.sources } }

/-- The live sync policy with or without an automated part. -/
def withAutomated (policy : Option SyncPolicy) : Option AutomatedSync → Option SyncPolicy
  | some a => some { policy.getD {} with automated := some a }
  | none => policy.map fun p => { p with automated := none }

/-- The live application with the wanted sync policy, or nothing if it needs no change. -/
def updateSync? (goal live : Application) : Option Application :=
  if goal.automated?.isSome = live.automated?.isSome then none
  else
    some { live with
      spec := { live.spec with
        syncPolicy := withAutomated live.spec.syncPolicy goal.automated? } }

/-- The live application brought in line with the goal, and whether that changed it. -/
def update (goal live : Application) : Application × Bool :=
  let sources := updateSources? goal live
  let live := sources.getD live
  let sync := updateSync? goal live
  (sync.getD live, sources.isSome || sync.isSome)

/-- The managed part of a sync policy for a patch: an absent automated part is written as null, so
that it does not stay in place. -/
def syncPolicyChange (policy : SyncPolicy) : Json :=
  match policy.toJson with
  | .obj members =>
    .obj (Keyed.put "automated" (Json.orNull (policy.automated.map AutomatedSync.toJson)) members)
  | j => j

/-- The merge patch that writes the managed parts back. It names the version it was computed from,
so that another writer in between makes it fail. -/
def writeBack (a : Application) : Json :=
  .object
    [ ("metadata", .object
        [("resourceVersion", Json.orNull (a.metadata.resourceVersion.map .str))]),
      ("spec", .object
        [ ("source", Json.orNull (a.spec.source.map Source.toJson)),
          ("sources", Json.orNull (Json.listUnlessEmpty (a.spec.sources.map Source.toJson))),
          ("syncPolicy", Json.orNull (a.spec.syncPolicy.map syncPolicyChange)) ]) ]

end PatternSync.Application
