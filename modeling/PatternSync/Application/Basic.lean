import PatternSync.Json.Same
import PatternSync.Object.Metadata

/-!
# Applications

An application tells the deploying operator which sources to bring to which destination. Only the
settings managed here have fields; what else stands in a source, in its helm settings or in the
sync policy is kept as it is, while other parts of the specification are not seen at all.
-/

namespace PatternSync

/-- A parameter handed to helm. -/
structure Parameter where
  name : String
  value : String := ""
  forceString : Bool := false
  deriving DecidableEq

/-- Value files and parameters handed to helm. -/
structure HelmSettings where
  valueFiles : List String := []
  parameters : List Parameter := []
  ignoreMissingValueFiles : Option Bool := none
  extra : Keyed Json := []
  deriving DecidableEq

structure Source where
  repoUrl : String
  path : Option String := none
  targetRevision : Option String := none
  chart : Option String := none
  ref : Option String := none
  helm : Option HelmSettings := none
  extra : Keyed Json := []
  deriving DecidableEq

/-- Where the content goes. -/
structure Destination where
  server : Option String := none
  namespaceName : Option String := none
  deriving DecidableEq

/-- How the deploying operator follows new content on its own. -/
structure AutomatedSync where
  prune : Bool := false
  selfHeal : Bool := false
  extra : Keyed Json := []
  deriving DecidableEq

/-- When new content is deployed. -/
structure SyncPolicy where
  automated : Option AutomatedSync := none
  extra : Keyed Json := []
  deriving DecidableEq

/-- What is deployed where. A single source excludes the list of sources. -/
structure ApplicationSpec where
  source : Option Source := none
  sources : List Source := []
  destination : Destination
  project : String
  syncPolicy : Option SyncPolicy := none
  deriving DecidableEq

structure Application where
  metadata : Metadata
  spec : ApplicationSpec
  deriving DecidableEq

/-- Whether two helm settings are the same in every part. -/
def HelmSettings.same (a b : HelmSettings) : Bool :=
  a.valueFiles == b.valueFiles && a.parameters == b.parameters
    && a.ignoreMissingValueFiles == b.ignoreMissingValueFiles && Json.sameMembers a.extra b.extra

namespace Source

/-- Whether two sources bring the same content, whatever their helm settings. -/
def sameOrigin (a b : Source) : Bool :=
  a.repoUrl == b.repoUrl && a.path == b.path && a.targetRevision == b.targetRevision
    && a.chart == b.chart && a.ref == b.ref

/-- Whether two sources have the same helm settings, or both none. -/
def sameHelm (a b : Source) : Bool :=
  match a.helm, b.helm with
  | some h, some k => h.same k
  | none, none => true
  | _, _ => false

/-- Whether two sources are the same in every part. -/
def same (a b : Source) : Bool :=
  a.sameOrigin b && a.sameHelm b && Json.sameMembers a.extra b.extra

/-- The source with other helm settings, if it has some. -/
def withHelm? (h : HelmSettings) (s : Source) : Option Source :=
  if s.helm.isSome then some { s with helm := some h } else none

end Source

/-- The value that `f` finds in the last entry for which it finds one. -/
def findLast? {α β : Type} (f : α → Option β) : List α → Option β
  | [] => none
  | a :: rest => (findLast? f rest).orElse fun _ => f a

/-- Changes the last entry for which `f` finds a new one; nothing if there is none. -/
def changeLast? {α : Type} (f : α → Option α) : List α → Option (List α)
  | [] => none
  | a :: rest =>
    match changeLast? f rest with
    | some rest => some (a :: rest)
    | none => (f a).map (· :: rest)

namespace Application

/-- The group and version of the resource. -/
def apiVersion : String :=
  "argoproj.io/v1alpha1"

/-- The name by which messages call the application. -/
def displayName (a : Application) : String :=
  a.metadata.displayName

/-- The sources in their order, for either layout. -/
def allSources (a : Application) : List Source :=
  match a.spec.source with
  | some s => [s]
  | none => a.spec.sources

/-- The helm settings of the single source, or of the last source that has some. -/
def helm? (a : Application) : Option HelmSettings :=
  match a.spec.source with
  | some s => s.helm
  | none => findLast? (·.helm) a.spec.sources

/-- The application with other settings in the place where `helm?` finds some; nothing if it finds
none. -/
def setHelm? (a : Application) (h : HelmSettings) : Option Application :=
  match a.spec.source with
  | some s =>
    (Source.withHelm? h s).map fun s => { a with spec := { a.spec with source := some s } }
  | none =>
    (changeLast? (Source.withHelm? h) a.spec.sources).map fun sources =>
      { a with spec := { a.spec with sources } }

end Application

end PatternSync
