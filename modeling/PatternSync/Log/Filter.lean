import PatternSync.Log.Directive

/-!
# Log filters

A filter is a list of directives. Of those that concern a line the most special one decides; of two
equally special ones the later counts. Lines for which there is no directive are dropped.
-/

namespace PatternSync

/-- The directives in the order of their text. -/
abbrev LogFilter := List LogDirective

namespace LogFilter

/-- The filter that keeps lines of one level and above. -/
def atLeast (level : LogLevel) : LogFilter :=
  [{ threshold := some level }]

/-- The filter that a text of directives between commas spells. A text without any keeps errors. -/
def ofText (s : String) : Except DirectiveFault LogFilter := do
  let directives ← ((s.splitOn ",").filter (· ≠ "")).mapM LogDirective.ofText
  return if directives.isEmpty then atLeast .error else directives

/-- The filter that the environment asks for; without one, or with a malformed one, informing lines
are kept. Nothing if the text cannot even be taken apart. -/
def ofSetting? (setting : Option String) : Option LogFilter :=
  match setting.map ofText with
  | none => some (atLeast .info)
  | some (.ok f) => some f
  | some (.error .malformed) => some (atLeast .info)
  | some (.error .withinCharacter) => none

/-- The directive that decides about lines from a target. -/
def decisive? (f : LogFilter) (target : String) : Option LogDirective :=
  f.foldl
    (fun best d =>
      if d.concerns target ∧ best.all fun b => b.rank ≤ d.rank then some d else best)
    none

def keeps (f : LogFilter) (line : LogLine) : Bool :=
  ((f.decisive? line.target).bind (·.threshold)).any fun least =>
    least.weight ≤ line.level.weight

end LogFilter

end PatternSync
