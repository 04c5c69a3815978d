import PatternSync.Json.Pointer

/-!
# JSON patches

A JSON patch is a list of operations that are applied one after another; the first that fails
makes the whole patch fail.
-/

namespace PatternSync

/-- One operation of a JSON patch; the path is the text of a pointer. -/
inductive PatchOp where
  | test (path : String) (value : Json)
  | add (path : String) (value : Json)
  | remove (path : String)
  deriving DecidableEq

namespace PatchOp

def path : PatchOp → String
  | test p _ => p
  | add p _ => p
  | remove p => p

def toJson : PatchOp → Json
  | test p v => .object [("op", .str "test"), ("path", .str p), ("value", v)]
  | add p v => .object [("op", .str "add"), ("path", .str p), ("value", v)]
  | remove p => .object [("op", .str "remove"), ("path", .str p)]

/-- The value after the operation, if it succeeds. A missing part passes the test for null. -/
def applied? (j : Json) (op : PatchOp) : Option Json :=
  (Pointer.ofText? op.path).bind fun p =>
    match op with
    | test _ v => if Json.orNull (j.at? p) = v then some j else none
    | add _ v =>
      if p = [] then some v
      else j.changeAround? (fun around token => around.addChild? token v) p
    | remove _ => j.changeAround? Json.removeChild? p

/-- The value after all operations, or the first that fails. -/
def applyAll (j : Json) : List PatchOp → Except PatchOp Json
  | [] => .ok j
  | op :: rest =>
    match op.applied? j with
    | some j => applyAll j rest
    | none => .error op

end PatchOp

end PatternSync
