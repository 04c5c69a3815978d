import PatternSync.Log.Filter
import PatternSync.Operator.Web
import PatternSync.Reconcile.Pattern

/-!
# The operator as a program

From its start to its end: there has to be a log, the address of its pages has to be free and
access to the API server configured, then patterns have to be known to the server; after that every
pattern gets its pass.
-/

namespace PatternSync

/-- What the operator finds when it is started. -/
structure Launch where
  /-- What the environment says about the log. -/
  logSetting : Option String := none
  /-- What the environment says about the namespace of the settings. -/
  namespaceSetting : Option String := none
  /-- Whether another program uses the address of the pages. -/
  addressInUse : Bool := false
  /-- Whether access to the API server is configured. -/
  hasAccess : Bool := true
  server : Server
  now : Instant

/-- How the operator ended. -/
inductive Ending where
  /-- What the environment says about the log cannot be taken apart. -/
  | badLogSetting
  | addressInUse
  | noAccess
  | patternsUnknown
  /-- It ran until it was told to stop. -/
  | stopped
  deriving DecidableEq

namespace Ending

def exitCode : Ending → Nat
  | badLogSetting => 101
  | addressInUse => 1
  | noAccess => 101
  | patternsUnknown => 1
  | stopped => 0

/-- The complaint that the operator leaves behind. -/
def complaint? : Ending → Option String
  | addressInUse => some "Error: Address already in use (os error 98)\n"
  | _ => none

end Ending

/-- What the operator did until its end. -/
structure Session where
  ending : Ending
  /-- The lines that the log keeps. -/
  log : List LogLine := []
  server : Server
  /-- What its pages show, as long as there are any. -/
  display : Option Display := none

/-- The complaints about a failed look at the patterns. -/
def unknownPatternLines (f : ApiFailure) : List LogLine :=
  [ { level := .error
      target := LogLine.patternTarget
      message := "CRD is not queryable; " ++ f.debug ++ ". Is the CRD installed?" },
    { level := .info
      target := LogLine.patternTarget
      message := "Installation: cargo run --bin crdgen | kubectl apply -f -" } ]

/-- Attends to patterns one after another. -/
def attendAll (around : Surroundings) : List Pattern → Pass Unit
  | [] => return ()
  | p :: rest => do
    discard (p.attend around)
    attendAll around rest

def listedPatterns (list : Json) : List Pattern :=
  Wire.listOf Pattern.ofJson (list.member? "items")

namespace Launch

def countAll (notes : List Note) : Metrics :=
  notes.foldl Note.count {}

/-- The session in which every listed pattern gets one pass. -/
def attendListed (l : Launch) (filter : LogFilter) (server : Server) (list : Json) : Session :=
  let around : Surroundings :=
    { operatorNamespace := Settings.operatorNamespace l.namespaceSetting, now := l.now }
  let run := (attendAll around (listedPatterns list)).run server
  { ending := .stopped
    log := (run.notes.filterMap Note.line?).filter filter.keeps
    server := run.server
    display := some
      { registry := { shown := some (countAll run.notes) }, lastEvent := l.now } }

/-- The session of an operator that writes a log. -/
def sessionWith (l : Launch) (filter : LogFilter) : Session :=
  if l.addressInUse then { ending := .addressInUse, server := l.server }
  else if !l.hasAccess then { ending := .noAccess, server := l.server }
  else
    match l.server.call .listPatterns with
    | (server, .error f) =>
      { ending := .patternsUnknown
        log := (unknownPatternLines f).filter filter.keeps
        server }
    | (server, .ok list) => l.attendListed filter server list

def session (l : Launch) : Session :=
  match LogFilter.ofSetting? l.logSetting with
  | some filter => l.sessionWith filter
  | none => { ending := .badLogSetting, server := l.server }

end Launch

end PatternSync
