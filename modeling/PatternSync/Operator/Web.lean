import PatternSync.Api.Address
import PatternSync.Json.Compact
import PatternSync.Metrics.Family
import PatternSync.Time.Rfc3339

/-!
# Pages

What the operator shows to a browser: the time of its last pass, that it is alive, and its
metrics. Only reading is allowed, and there is nothing else.
-/

namespace PatternSync

/-- What the operator can show. -/
structure Display where
  registry : Registry
  /-- When the last pass began. -/
  lastEvent : Instant

/-- A page, or that there is none. -/
structure Page where
  status : Nat
  contentType : String
  body : String
  deriving DecidableEq

namespace Page

def missing : Page :=
  { status := 404, contentType := "", body := "" }

def ofJson (j : Json) : Page :=
  { status := 200, contentType := "application/json", body := j.compact }

def ofText (s : String) : Page :=
  { status := 200, contentType := "", body := s }

/-- The character that two digits behind a percent sign stand for. -/
def decodedChar? (high low : Char) : Option Char := do
  let n := 16 * (← Text.hexValue? high) + (← Text.hexValue? low)
  let c := Char.ofNat n
  if c.isAlphanum then some c else none

/-- A path in which letters and digits are not escaped. -/
def decodePath : List Char → List Char
  | '%' :: high :: low :: rest =>
    match decodedChar? high low with
    | some c => c :: decodePath rest
    | none => '%' :: decodePath (high :: low :: rest)
  | c :: rest => c :: decodePath rest
  | [] => []

end Page

namespace Display

/-- The time of the last pass. -/
def lastEventPage (d : Display) : Page :=
  .ofJson (.object [("last_event", .str d.lastEvent.text)])

def metricsPage (d : Display) : Page :=
  .ofText (String.join (d.registry.families.map Family.text))

def pageAt (d : Display) (path : String) : Page :=
  match String.ofList (Page.decodePath path.toList) with
  | "/" => d.lastEventPage
  | "/health" => .ofJson (.str "healthy")
  | "/metrics" => d.metricsPage
  | _ => .missing

/-- The page for a request, whose address may name the server too. -/
def page (d : Display) (method address : String) : Page :=
  match Address.ofText address with
  | .ok a => if method = "GET" then d.pageAt a.path else .missing
  | .error _ => .missing

end Display

end PatternSync
