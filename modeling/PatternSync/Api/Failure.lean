import PatternSync.Api.Address
import PatternSync.Wire.Located
import PatternSync.Wire.Shape

/-!
# Failed calls

Why a call of the API server failed, and the three views of each cause: its message, its spelling
as a value, and the messages of the causes behind it.
-/

namespace PatternSync

open Text Wire

/-- A refusal by the API server. -/
structure Refusal where
  status : String
  message : String := ""
  reason : String := ""
  code : Nat
  deriving DecidableEq

namespace Refusal

def shape : Shape :=
  .record "struct ErrorResponse" .listable
    [ ("status", .required, .string),
      ("message", .optional, .string),
      ("reason", .optional, .string),
      ("code", .required, .whole .u16) ]

def ofJson (j : Json) : Refusal where
  status := textOr "" (shape.field? j "status")
  message := textOr "" (shape.field? j "message")
  reason := textOr "" (shape.field? j "reason")
  code := (wholeOr 0 (shape.field? j "code")).toNat

def summary (r : Refusal) : String :=
  r.message ++ ": " ++ r.reason

def debug (r : Refusal) : String :=
  "ErrorResponse \x7b status: " ++ quoted r.status ++ ", message: " ++ quoted r.message
    ++ ", reason: " ++ quoted r.reason ++ ", code: " ++ toString r.code ++ " \x7d"

end Refusal

structure NetworkFault where
  code : Nat
  kind : String
  message : String
  deriving DecidableEq

namespace NetworkFault

/-- No route leads to the other side. -/
def unreachable : NetworkFault :=
  { code := 101, kind := "NetworkUnreachable", message := "Network is unreachable" }

/-- Nobody listens on the other side. -/
def refused : NetworkFault :=
  { code := 111, kind := "ConnectionRefused", message := "Connection refused" }

def debug (f : NetworkFault) : String :=
  "hyper::Error(Connect, ConnectError(\"tcp connect error\", Os \x7b code: " ++ toString f.code
    ++ ", kind: " ++ f.kind ++ ", message: " ++ quoted f.message ++ " \x7d))"

def text (f : NetworkFault) : String :=
  "error trying to connect: tcp connect error: " ++ f.message ++ " (os error " ++ toString f.code
    ++ ")"

end NetworkFault

/-- Why a call of the API server failed. -/
inductive ApiFailure where
  /-- The server refused. -/
  | refusal (r : Refusal)
  /-- The answer does not have the wanted form. -/
  | answer (p : TextProblem)
  /-- The call got no answer. -/
  | service (text : String)
  /-- What is asked about cannot be the target of a request. -/
  | target (p : AddressProblem)
  /-- The server cannot be reached. -/
  | network (f : NetworkFault)
  deriving DecidableEq

namespace ApiFailure

def message : ApiFailure → String
  | refusal r => "ApiError: " ++ r.summary ++ " (" ++ r.debug ++ ")"
  | answer _ => "Error deserializing response"
  | service text => "ServiceError: " ++ text
  | target p => "Failed to build request: failed to build request: " ++ p.message
  | network f => "HyperError: " ++ f.text

def debug : ApiFailure → String
  | refusal r => "Api(" ++ r.debug ++ ")"
  | answer p => "SerdeError(" ++ p.debug ++ ")"
  | service text => "Service(" ++ quoted text ++ ")"
  | target p => "BuildRequest(BuildRequest(http::Error(InvalidUri(" ++ p.debug ++ "))))"
  | network f => "HyperError(" ++ f.debug ++ ")"

def causes : ApiFailure → List String
  | refusal r => [r.summary]
  | answer p => [p.message]
  | service text => [text]
  | target p => ["failed to build request: " ++ p.message, p.message]
  | network f => [f.text]

end ApiFailure

end PatternSync
