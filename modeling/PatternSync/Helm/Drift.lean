import PatternSync.Helm.Parameters

/-!
# Drift of helm settings

Comparing the helm settings of a live application with the wanted ones, describing how they
differ, and merging the wanted ones into the live ones. Value files are replaced as a whole;
parameters are merged by name, so those that only the live application has survive.
-/

namespace PatternSync.HelmSettings

/-- Whether value files and parameters agree, order included. -/
def inSync (goal live : HelmSettings) : Bool :=
  goal.valueFiles == live.valueFiles && goal.parameters == live.parameters

theorem inSync_iff {goal live : HelmSettings} :
    goal.inSync live = true
      ↔ goal.valueFiles = live.valueFiles ∧ goal.parameters = live.parameters := by
  simp [inSync]

/-- The live settings with the wanted ones merged into them. -/
def merge (goal live : HelmSettings) : HelmSettings where
  valueFiles := goal.valueFiles
  parameters := goal.parameters.foldl Parameter.upsert live.parameters
  ignoreMissingValueFiles :=
    goal.ignoreMissingValueFiles.orElse fun _ => live.ignoreMissingValueFiles
  extra := live.extra

/-- How two different lists of parameters differ, by name. -/
structure ParameterDrift where
  missing : List String
  changed : List String
  unexpected : List String
  deriving DecidableEq

def lastNamed? (parameters : List Parameter) (name : String) : Option Parameter :=
  parameters.reverse.find? fun p => p.name == name

/-- Missing and changed names stand in the order of the goal, unexpected ones in the order of the
live list. Of several live parameters of one name the last is compared. -/
def parameterDrift (goal live : List Parameter) : ParameterDrift where
  missing := (goal.filter fun g => (lastNamed? live g.name).isNone).map (·.name)
  changed := (goal.filter fun g => (lastNamed? live g.name).any (· ≠ g)).map (·.name)
  unexpected :=
    (live.filter fun p => !goal.any fun g => g.name == p.name).map (·.name)

/-- A list of names with a heading, left out when it is empty. -/
def named (heading : String) (names : List String) : List String :=
  if names.isEmpty then [] else [heading ++ " [" ++ ", ".intercalate names ++ "]"]

def ParameterDrift.message (d : ParameterDrift) : String :=
  let details := named "missing" d.missing ++ named "changed" d.changed
    ++ named "unexpected" d.unexpected
  if details.isEmpty then "parameters differ in order"
  else "parameters differ: " ++ ", ".intercalate details

/-- The wording of a difference between value files. -/
def valueFileMessage (goal live : List String) : String :=
  "value files differ (" ++ toString goal.length ++ " desired, " ++ toString live.length
    ++ " live)"

/-- How the live settings differ from the wanted ones. -/
def driftMessage (goal live : HelmSettings) : String :=
  if goal.inSync live then "Helm source is in sync"
  else
    let files :=
      if goal.valueFiles == live.valueFiles then []
      else [valueFileMessage goal.valueFiles live.valueFiles]
    let parameters :=
      if goal.parameters == live.parameters then []
      else [(parameterDrift goal.parameters live.parameters).message]
    "Helm source drifted: " ++ "; ".intercalate (files ++ parameters)

theorem driftMessage_of_inSync {goal live : HelmSettings} (h : goal.inSync live = true) :
    goal.driftMessage live = "Helm source is in sync" :=
  if_pos h

end PatternSync.HelmSettings
