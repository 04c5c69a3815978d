/-!
# Log lines

A line has a level of weight, the part of the program that it comes from, and a message.
-/

namespace PatternSync

/-- How much a log line matters. -/
inductive LogLevel where
  | trace
  | debug
  | info
  | warn
  | error
  deriving DecidableEq, Repr

namespace LogLevel

/-- The weight of the level; a heavier line matters more. -/
def weight : LogLevel → Nat
  | trace => 1
  | debug => 2
  | info => 3
  | warn => 4
  | error => 5

def name : LogLevel → String
  | trace => "TRACE"
  | debug => "DEBUG"
  | info => "INFO"
  | warn => "WARN"
  | error => "ERROR"

end LogLevel

structure LogLine where
  level : LogLevel
  /-- The part of the program that wrote it. -/
  target : String
  message : String
  deriving DecidableEq

namespace LogLine

def patternTarget : String :=
  "controller::controllers::pattern_controller"

def settingsTarget : String :=
  "controller::util::config"

end LogLine

end PatternSync
