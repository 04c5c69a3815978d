import PatternSync.Crd.Definition
import PatternSync.Json.Yaml

/-!
# The command

Prints the definition of patterns, for a cluster that does not know them yet.
-/

/-- Prints the definition of patterns. -/
def main : IO Unit :=
  IO.print PatternSync.Pattern.definition.toJson.yaml
