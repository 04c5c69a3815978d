import PatternSync.Api.Address
import PatternSync.Json.Patch

/-!
# Requests

What the API server is asked: a verb with the document it carries, and the target it concerns.
A target is written as an address without a server: a path and, behind a question mark, a query.
-/

namespace PatternSync

/-! ## Targets -/

/-- The path and the query of a request. -/
structure Target where
  path : String
  query : Option String := none
  deriving DecidableEq

namespace Target

/-- The target that a text spells, a path and what belongs to it. -/
def ofText (s : String) : Except AddressProblem Target :=
  (Address.ofText s).map fun a => { path := a.path, query := a.query }

end Target

/-! ## Verbs -/

/-- What to do with a target. -/
inductive Verb where
  | get
  | delete
  | create (document : Json)
  /-- Merge a patch into the object. -/
  | merge (patch : Json)
  /-- Apply the operations of a patch. -/
  | patch (ops : List PatchOp)
  /-- Record the status in a document, of which the operator is the only author. -/
  | applyStatus (document : Json)
  deriving DecidableEq

namespace Verb

def method : Verb → String
  | get => "GET"
  | delete => "DELETE"
  | create _ => "POST"
  | merge _ | patch _ | applyStatus _ => "PATCH"

/-- The document that the request carries. -/
def body? : Verb → Option Json
  | get => none
  | delete => some (.object [])
  | create document => some document
  | merge change => some change
  | patch ops => some (.arr (ops.map PatchOp.toJson))
  | applyStatus document => some document

def contentType? : Verb → Option String
  | get => none
  | delete | create _ => some "application/json"
  | merge _ => some "application/merge-patch+json"
  | patch _ => some "application/json-patch+json"
  | applyStatus _ => some "application/apply-patch+yaml"

end Verb

structure Request where
  verb : Verb
  target : Target
  deriving DecidableEq

end PatternSync
