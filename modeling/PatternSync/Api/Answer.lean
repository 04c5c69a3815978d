import PatternSync.Api.Failure
import PatternSync.Json.Compact
import PatternSync.Wire.Reading

/-!
# Answers

What comes back for a request, and reading it: a status of 400 to 599 means a refusal, any other
one a success with a document of the wanted shape.
-/

namespace PatternSync

open Text Wire

/-- The content of an answer. -/
inductive Body where
  | document (j : Json)
  | text (s : String)
  deriving DecidableEq

namespace Body

def sent : Body → String
  | document j => j.compact
  | text s => s

/-- The document of the wanted shape. -/
def read (shape : Shape) : Body → Except ApiFailure Json
  | document j =>
    match shape.check j with
    | .ok _ => .ok j
    | .error _ => (shape.ofText j.compact).mapError .answer
  | text s => (shape.ofText s).mapError .answer

end Body

/-- What comes back for a request. -/
inductive Answer where
  | reply (status : Nat) (body : Body)
  /-- The call broke on the way. -/
  | broken (text : String)
  | unreachable (fault : NetworkFault)
  deriving DecidableEq

namespace Answer

/-- The usual phrases for the statuses of refusals. -/
def phrases : List (Nat × String) :=
  [ (400, "Bad Request"), (401, "Unauthorized"), (402, "Payment Required"), (403, "Forbidden"),
    (404, "Not Found"), (405, "Method Not Allowed"), (406, "Not Acceptable"),
    (407, "Proxy Authentication Required"), (408, "Request Timeout"), (409, "Conflict"),
    (410, "Gone"), (411, "Length Required"), (412, "Precondition Failed"),
    (413, "Payload Too Large"), (414, "URI Too Long"), (415, "Unsupported Media Type"),
    (416, "Range Not Satisfiable"), (417, "Expectation Failed"), (418, "I'm a teapot"),
    (421, "Misdirected Request"), (422, "Unprocessable Entity"), (423, "Locked"),
    (424, "Failed Dependency"), (426, "Upgrade Required"), (428, "Precondition Required"),
    (429, "Too Many Requests"), (431, "Request Header Fields Too Large"),
    (451, "Unavailable For Legal Reasons"), (500, "Internal Server Error"),
    (501, "Not Implemented"), (502, "Bad Gateway"), (503, "Service Unavailable"),
    (504, "Gateway Timeout"), (505, "HTTP Version Not Supported"),
    (506, "Variant Also Negotiates"), (507, "Insufficient Storage"), (508, "Loop Detected"),
    (510, "Not Extended"), (511, "Network Authentication Required") ]

/-- A status with its usual phrase. -/
def statusLine (status : Nat) : String :=
  toString status ++ " " ++ ((phrases.lookup status).getD "<unknown status code>")

def isRefusal (status : Nat) : Bool :=
  400 ≤ status && status ≤ 599

/-- The refusal that a server sent. One that cannot be read is made up from status and content. -/
def refusal (status : Nat) (body : Body) : Refusal :=
  match body.read Refusal.shape with
  | .ok j => .ofJson j
  | .error _ =>
    { status := statusLine status
      message := quoted body.sent
      reason := "Failed to parse error data"
      code := status }

/-- What the answer says: the content that `read` accepts, or why there is none. -/
def result {α : Type} (read : Body → Except ApiFailure α) : Answer → Except ApiFailure α
  | reply status body =>
    if isRefusal status then .error (.refusal (refusal status body)) else read body
  | broken text => .error (.service text)
  | unreachable fault => .error (.network fault)

end Answer

end PatternSync
