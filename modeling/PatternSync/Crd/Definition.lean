import PatternSync.Crd.ApplicationSchema
import PatternSync.Crd.PatternSchema

/-!
# Definitions of resources

A definition makes a kind of object known to the cluster: its names, the schema of its objects,
and the columns that a list of them shows.
-/

namespace PatternSync

/-- A column of a list of objects. -/
structure PrinterColumn where
  name : String
  jsonPath : String
  priority : Nat
  deriving DecidableEq

def PrinterColumn.toJson (c : PrinterColumn) : Json :=
  .object
    [ ("jsonPath", .str c.jsonPath), ("name", .str c.name), ("priority", .int c.priority),
      ("type", .str "string") ]

/-- The definition of a kind of object. -/
structure ResourceDefinition where
  group : String
  kind : String
  singular : String
  plural : String
  shortNames : List String := []
  columns : List PrinterColumn := []
  spec : Schema
  /-- The schema of the status, which is written apart from the rest. -/
  status : Option Schema := none

namespace ResourceDefinition

def objectSchema (d : ResourceDefinition) : Schema :=
  let properties :=
    ("spec", true, d.spec) ::
      match d.status with
      | some status => [("status", false, status)]
      | none => []
  .described ("Auto-generated derived type for " ++ d.kind ++ "Spec via `CustomResource`")
    (.record properties)

/-- The document for the schema of whole objects. -/
def schema (d : ResourceDefinition) : Json :=
  .obj (Keyed.put "title" (.str d.kind) d.objectSchema.members)

def version (d : ResourceDefinition) : Json :=
  .object
    [ ("additionalPrinterColumns", .arr (d.columns.map PrinterColumn.toJson)),
      ("name", .str "v1alpha1"),
      ("schema", .object [("openAPIV3Schema", d.schema)]),
      ("served", .bool true),
      ("storage", .bool true),
      ("subresources",
        if d.status.isSome then .object [("status", .object [])] else .object []) ]

def toJson (d : ResourceDefinition) : Json :=
  .object
    [ ("apiVersion", .str "apiextensions.k8s.io/v1"),
      ("kind", .str "CustomResourceDefinition"),
      ("metadata", .object [("name", .str (d.plural ++ "." ++ d.group))]),
      ("spec", .object
        [ ("group", .str d.group),
          ("names", .object
            [ ("categories", .arr []),
              ("kind", .str d.kind),
              ("plural", .str d.plural),
              ("shortNames", .arr (d.shortNames.map .str)),
              ("singular", .str d.singular) ]),
          ("scope", .str "Namespaced"),
          ("versions", .arr [d.version]) ]) ]

end ResourceDefinition

def Pattern.definition : ResourceDefinition where
  group := "gitops.hybrid-cloud-patterns.io"
  kind := "Pattern"
  singular := "pattern"
  plural := "patterns"
  shortNames := ["patt"]
  columns :=
    [ { name := "Step", jsonPath := ".status.lastStep", priority := 1 },
      { name := "Error", jsonPath := ".status.lastError", priority := 2 } ]
  spec := PatternSpec.schema
  status := some PatternStatus.schema

def Application.definition : ResourceDefinition where
  group := "argoproj.io"
  kind := "Application"
  singular := "application"
  plural := "applications"
  spec := ApplicationSpec.schema

end PatternSync
