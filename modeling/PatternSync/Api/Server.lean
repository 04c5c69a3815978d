import PatternSync.Api.Call
import PatternSync.Json.Merge

/-!
# An API server in memory

A server that keeps its objects under their paths. Every write gives an object a new version, and
a merge patch that names another version than the stored one is refused, so no writer overwrites
what it has not seen. Faults take the place of single answers.
-/

namespace PatternSync

/-- A fault takes the place of the answer to the first request that it fits. -/
structure ServerFault where
  method : Option String := none
  /-- The end of the path. -/
  suffix : Option String := none
  answer : Answer
  deriving DecidableEq

structure Server where
  objects : Keyed Json := []
  faults : List ServerFault := []
  /-- A fault of the network keeps all requests from the server. -/
  network : Option NetworkFault := none
  /-- The requests that have arrived, in their order. -/
  requests : List Request := []
  deriving DecidableEq

/-! ## Versions of objects -/

namespace Json

/-- The version in the metadata of an object; null if there is none. -/
def version (j : Json) : Json :=
  orNull (j.at? ["metadata", "resourceVersion"])

/-- The object with another version in its metadata. -/
def withVersion (j : Json) (version : String) : Json :=
  let metadata := (orNull (j.member? "metadata")).members
  .obj (Keyed.put "metadata" (.obj (Keyed.put "resourceVersion" (.str version) metadata)) j.members)

def versionNumber? (version : Json) : Option Nat :=
  match version.text? with
  | some s =>
    if s ≠ "" ∧ s.toList.all Char.isDigit then some (Text.digitsValue s.toList) else none
  | none => none

/-- The version after this one; a version that is no number starts again at one. -/
def nextVersion (version : Json) : String :=
  match version.versionNumber? with
  | some n => toString (n + 1)
  | none => "1"

end Json

/-- Cuts an ending off a text, if it has it. -/
def withoutSuffix? (suffix s : String) : Option String :=
  if suffix.toList.isSuffixOf s.toList then
    some (String.ofList (s.toList.take (s.length - suffix.length)))
  else none

namespace ServerFault

def fits (f : ServerFault) (r : Request) : Bool :=
  f.method.all (· == r.verb.method)
    && f.suffix.all fun suffix => (withoutSuffix? suffix r.target.path).isSome

/-- The first fault that fits a request, and the others. -/
def take? (r : Request) : List ServerFault → Option (ServerFault × List ServerFault)
  | [] => none
  | f :: rest =>
    if f.fits r then some (f, rest) else (take? r rest).map fun (g, others) => (g, f :: others)

end ServerFault

namespace Server

/-! ## Answering -/

def refuse (code : Nat) (reason message : String) : Answer :=
  .reply code (.document (.object
    [ ("kind", .str "Status"), ("apiVersion", .str "v1"), ("metadata", .object []),
      ("status", .str "Failure"), ("message", .str message), ("reason", .str reason),
      ("code", .int code) ]))

/-- There is nothing under the path. -/
def notFound (path : String) : Answer :=
  refuse 404 "NotFound" (path ++ " not found")

/-- Someone else has changed the object. -/
def conflict : Answer :=
  refuse 409 "Conflict" "the object has been modified"

def patternList (objects : Keyed Json) : Json :=
  .object
    [ ("apiVersion", .str Pattern.apiVersion),
      ("kind", .str "PatternList"),
      ("metadata", .object [("resourceVersion", .str "1000")]),
      ("items", .arr ((objects.map Prod.snd).filter fun j =>
        j.member? "kind" = some (.str "Pattern"))) ]

/-- Stores a new object under the name it bears; an event is not kept. -/
def create (path : String) (document : Json) (objects : Keyed Json) : Keyed Json × Answer :=
  if (withoutSuffix? "/events" path).isSome then (objects, .reply 201 (.document document))
  else
    let created := document.withVersion "1"
    (Keyed.put (path ++ "/" ++ created.textAt ["metadata", "name"]) created objects,
      .reply 201 (.document created))

/-- An object after a patch, or the refusal of the patch. -/
def patched (stored : Json) : Verb → Except Answer Json
  | .merge change =>
    if change.version ≠ .null ∧ change.version ≠ stored.version then .error conflict
    else .ok (stored.merge change)
  | .patch ops =>
    (PatchOp.applyAll stored ops).mapError fun op =>
      refuse 422 "Invalid" ("json patch failed at " ++ op.path)
  | .applyStatus document =>
    .ok (.obj (Keyed.put "status" (Json.orNull (document.member? "status")) stored.members))
  | _ => .ok stored

/-- Changes an object by a patch. The status of an object is a part of it. -/
def change (path : String) (verb : Verb) (objects : Keyed Json) : Keyed Json × Answer :=
  let place := (withoutSuffix? "/status" path).getD path
  match Keyed.get? objects place with
  | none => (objects, notFound path)
  | some stored =>
    match patched stored verb with
    | .error refusal => (objects, refusal)
    | .ok j =>
      let changed := j.withVersion j.version.nextVersion
      (Keyed.put place changed objects, .reply 200 (.document changed))

/-- The objects after a request, and the answer to it. -/
def serve (r : Request) (objects : Keyed Json) : Keyed Json × Answer :=
  let path := r.target.path
  match r.verb with
  | .get =>
    if path = Call.patternsPath then (objects, .reply 200 (.document (patternList objects)))
    else
      match Keyed.get? objects path with
      | some j => (objects, .reply 200 (.document j))
      | none => (objects, notFound path)
  | .delete =>
    match Keyed.get? objects path with
    | some j => (Keyed.erase path objects, .reply 200 (.document j))
    | none => (objects, notFound path)
  | .create document => create path document objects
  | verb => change path verb objects

/-- A merge patch that names another version than the stored one is refused. -/
theorem patched_merge_of_ne {stored change : Json} (hnamed : change.version ≠ .null)
    (h : change.version ≠ stored.version) : patched stored (.merge change) = .error conflict := by
  simp [patched, hnamed, h]

/-- The server after a request, and the answer to it. -/
def answer (s : Server) (r : Request) : Server × Answer :=
  match s.network with
  | some fault => (s, .unreachable fault)
  | none =>
    let s := { s with requests := s.requests ++ [r] }
    match ServerFault.take? r s.faults with
    | some (fault, others) => ({ s with faults := others }, fault.answer)
    | none =>
      let (objects, answer) := serve r s.objects
      ({ s with objects }, answer)

/-- The server after a call, and what came of the call. A call without a proper target fails
before it reaches the server. -/
def call (s : Server) (c : Call) : Server × Except ApiFailure Json :=
  match c.request with
  | .error p => (s, .error (.target p))
  | .ok r =>
    let (s, answer) := s.answer r
    (s, answer.result c.read)

end Server

end PatternSync
