import PatternSync.Keyed
import PatternSync.Text.Blank
import PatternSync.Text.Quoted

/-!
# Settings of the operator

The few settings that hold for all patterns, read from the entries of a map of texts over
defaults.
-/

namespace PatternSync

open Text

structure Settings where
  /-- The namespace of the applications. -/
  applicationNamespace : String := "openshift-gitops"
  /-- Whether new content always waits for a person. -/
  manualSync : Bool := false
  deriving DecidableEq, Repr

namespace Settings

/-- The namespace of the operator unless its environment names one. -/
def defaultOperatorNamespace : String :=
  "openshift-operators"

/-- The namespace of the operator; `named` is what its environment says. -/
def operatorNamespace (named : Option String) : String :=
  named.getD defaultOperatorNamespace

def mapName : String :=
  "patterns-operator-config"

def applicationNamespaceKey : String :=
  "applicationNamespace"

def manualSyncKey : String :=
  "gitops.ManualSync"

/-- True or false, with blanks around it. -/
def switch? (raw : String) : Option Bool :=
  match trim raw with
  | "true" => some true
  | "false" => some false
  | _ => none

/-- The complaint about a switch that is neither true nor false. -/
def badSwitch (raw : String) : String :=
  manualSyncKey ++ " must be true or false, got " ++ quoted raw

/-- The settings that a map of texts stands for, or the complaint about its manual sync switch. An
empty namespace counts as absent. -/
def ofData (data : Keyed String) : Except String Settings := do
  let manualSync ← match Keyed.get? data manualSyncKey with
    | none => pure false
    | some raw =>
      match switch? raw with
      | some b => pure b
      | none => throw (badSwitch raw)
  let base : Settings := {}
  return {
    applicationNamespace :=
      match Keyed.get? data applicationNamespaceKey with
      | none => base.applicationNamespace
      | some ns => if ns = "" then base.applicationNamespace else ns
    manualSync }

end Settings

end PatternSync
