import PatternSync.Json.Basic
import PatternSync.Metrics.Basic
import PatternSync.Text.Digits

/-!
# Metric families

A family holds the samples of one name, each under labels of its own. Families have two views: a
document, and the text that collectors read.
-/

namespace PatternSync

open Text

/-- What a sample measures. -/
inductive Measure where
  /-- A number of events. -/
  | counter (n : Nat)
  /-- Spans of time in milliseconds. -/
  | spans (millis : List Nat)
  deriving DecidableEq

/-- One measure with its labels in the order of their names. -/
structure Sample where
  labels : List (String × String)
  measure : Measure
  deriving DecidableEq

/-- The samples of one name. -/
structure Family where
  name : String
  help : String
  samples : List Sample
  deriving DecidableEq

namespace Metrics

/-- A family of counts under two labels with these names. -/
def tallyFamily (name help : String) (t : Tally) (outer inner : String) : Family where
  name := name
  help := help
  samples := (Tally.entries t).map fun (a, b, n) =>
    { labels := [(outer, a), (inner, b)], measure := .counter n }

/-- Written applications. -/
def writesFamily (m : Metrics) : Family :=
  tallyFamily "patterns_controller_application_writes_total"
    "argo applications created or patched" m.writes "instance" "operation"

/-- The lengths of passes. -/
def durationsFamily (m : Metrics) : Family where
  name := "patterns_controller_reconcile_duration_seconds"
  help := "The duration of reconcile to complete in seconds"
  samples := m.durations.map fun (kind, millis) =>
    { labels := [("instance", kind)], measure := .spans millis }

/-- Failed passes. -/
def failuresFamily (m : Metrics) : Family :=
  tallyFamily "patterns_controller_reconciliation_errors_total" "reconciliation errors"
    m.failures "error" "instance"

/-- Passes. -/
def passesFamily (m : Metrics) : Family where
  name := "patterns_controller_reconciliations_total"
  help := "reconciliations"
  samples := [{ labels := [], measure := .counter m.passes }]

/-- The families in the order of their names; a family without samples is left out. -/
def families (m : Metrics) : List Family :=
  [m.writesFamily, m.durationsFamily, m.failuresFamily, m.passesFamily].filter
    fun f => !f.samples.isEmpty

end Metrics

def Registry.families (r : Registry) : List Family :=
  (r.shown.map Metrics.families).getD []

/-! ## As a document -/

/-- The upper bounds of the classes of spans: the text in seconds and the milliseconds. -/
def spanBounds : List (String × Nat) :=
  [("0.01", 10), ("0.1", 100), ("0.25", 250), ("0.5", 500), ("1", 1000), ("5", 5000),
    ("15", 15000), ("60", 60000)]

namespace Sample

/-- The number of events or spans. -/
def count (s : Sample) : Nat :=
  match s.measure with
  | .counter n => n
  | .spans millis => millis.length

/-- The sample as a document; spans name their classes. -/
def toJson (s : Sample) : Json :=
  .objectOf
    [ ("labels", some (.object (s.labels.map fun (k, v) => (k, .str v)))),
      ("count", some (.int s.count)),
      ("bounds",
        match s.measure with
        | .counter _ => none
        | .spans _ => some (.arr (spanBounds.map fun (text, _) => .str text))) ]

end Sample

def Family.toJson (f : Family) : Json :=
  .object
    [ ("name", .str f.name), ("help", .str f.help),
      ("metrics", .arr (f.samples.map Sample.toJson)) ]

/-! ## As text -/

/-- A character of a label: the backslash, the quote and the newline are escaped. -/
def labelChar (c : Char) : List Char :=
  if c == '\\' then ['\\', '\\']
  else if c == '"' then ['\\', '"']
  else if c == '\n' then ['\\', 'n']
  else [c]

/-- A label with its value in quotes. -/
def labelText (label : String × String) : String :=
  label.1 ++ "=\"" ++ String.ofList (label.2.toList.flatMap labelChar) ++ "\""

/-- A line with a name, labels and a value. -/
def sampleLine (name : String) (labels : List (String × String)) (value : String) : String :=
  name
    ++ (if labels.isEmpty then ""
      else "\x7b" ++ ",".intercalate (labels.map labelText) ++ "\x7d")
    ++ " " ++ value ++ "\n"

namespace Sample

/-- The lines of a sample. Spans have a line for each class, which counts the spans up to its
bound, then their sum and their number. -/
def lines (name : String) (s : Sample) : List String :=
  match s.measure with
  | .counter n => [sampleLine name s.labels (toString n)]
  | .spans millis =>
    (spanBounds.map fun (text, bound) =>
      sampleLine (name ++ "_bucket") (s.labels ++ [("le", text)])
        (toString (millis.countP (· ≤ bound))))
    ++ [sampleLine (name ++ "_bucket") (s.labels ++ [("le", "+Inf")]) (toString millis.length),
      sampleLine (name ++ "_sum") s.labels (thousandthsText (millis.foldl (· + ·) 0)),
      sampleLine (name ++ "_count") s.labels (toString millis.length)]

end Sample

namespace Family

/-- The word for the kind of measure. -/
def kind (f : Family) : String :=
  match f.samples with
  | { measure := .spans _, .. } :: _ => "histogram"
  | _ => "counter"

/-- The lines of a family under its heading. -/
def text (f : Family) : String :=
  "# HELP " ++ f.name ++ " " ++ f.help ++ "\n# TYPE " ++ f.name ++ " " ++ f.kind ++ "\n"
    ++ String.join (f.samples.flatMap (Sample.lines f.name))

end Family

end PatternSync
