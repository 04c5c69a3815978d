import PatternSync.Pattern.Basic

/-!
# Layered value files

The value files of a pattern, from the least specific layer to the most specific, followed by the
files that the user adds. A layer is there only if all facts in its key are known.
-/

namespace PatternSync.Pattern

/-- The key of a layer: the facts it is built from, if none is unknown. -/
def layerKey? (facts : List String) : Option String :=
  if facts.contains "" then none else some ("-".intercalate facts)

/-- The facts of each layer. -/
def layers (p : Pattern) : List (List String) :=
  let group := p.spec.clusterGroupName
  let platform := p.observed.clusterPlatform
  let version := p.observed.clusterVersion
  [ ["global"], [group], [platform], [platform, version], [platform, group], [version, group],
    [p.observed.clusterName] ]

def layerFile (key : String) : String :=
  "/values-" ++ key ++ ".yaml"

/-- A file that the user adds, from the root of the repository. -/
def rooted (file : String) : String :=
  if file.toList.head? = some '/' then file else "/" ++ file

/-- The value files from the root of the repository. -/
def rootedValueFiles (p : Pattern) : List String :=
  (p.layers.filterMap layerKey?).map layerFile ++ p.spec.extraValueFiles.map rooted

/-- The value files, each behind `root`. -/
def valueFiles (p : Pattern) (root : String) : List String :=
  p.rootedValueFiles.map (root ++ ·)

end PatternSync.Pattern
