import PatternSync.Reconcile.Teardown

/-!
# The finalizer protocol

A pattern bears the finalizer of the operator before anything is deployed for it, and loses it only
after everything is torn down. Which of the four cases a pass is in depends on the finalizer and
on the deletion time alone.
-/

namespace PatternSync

namespace Pattern

/-- The position of the finalizer among those of the pattern. -/
def finalizerIndex? (p : Pattern) : Option Nat :=
  p.metadata.finalizerList.idxOf? finalizer

/-- The patch that adds the finalizer, provided that the finalizers are still those of `p`. -/
def addFinalizer (p : Pattern) : List PatchOp :=
  let list := p.metadata.finalizerList
  if list.isEmpty then
    [ .test "/metadata/finalizers" .null,
      .add "/metadata/finalizers" (.arr [.str finalizer]) ]
  else
    [ .test "/metadata/finalizers" (.arr (list.map .str)),
      .add "/metadata/finalizers/-" (.str finalizer) ]

/-- The patch that removes the finalizer from its position, provided that it is still there. -/
def removeFinalizer (index : Nat) : List PatchOp :=
  let path := "/metadata/finalizers/" ++ toString index
  [.test path (.str finalizer), .remove path]

end Pattern

namespace Attempt

/-- A failure around the finalizer. -/
def finalizerFailure (f : FinalizerFailure) : Failure :=
  .plain (.finalizer f)

/-- The name of a pattern, without which it cannot be changed. -/
def nameOf (p : Pattern) : Attempt String :=
  match p.metadata.name with
  | some name => return name
  | none => throw (finalizerFailure .unnamed)

/-- Changes the finalizers of a pattern. -/
def patchFinalizers (ns name : String) (ops : List PatchOp)
    (failure : ApiFailure → FinalizerFailure) : Attempt Unit := do
  match ← Pass.ask (.patchPattern ns name ops) with
  | .ok _ => return ()
  | .error f => throw (finalizerFailure (failure f))

/-- A pass over a pattern in a namespace. -/
def finalize (p : Pattern) (ns : String) (around : Surroundings) : Attempt Requeue := do
  match p.finalizerIndex?, p.metadata.isDeleting with
  | some _, false => converge p ns around
  | some index, true =>
    let name ← nameOf p
    let requeue ← tearDown p ns around
    patchFinalizers ns name (Pattern.removeFinalizer index) .removing
    return requeue
  | none, false =>
    patchFinalizers ns (← nameOf p) p.addFinalizer .adding
    return .onChange
  | none, true => return .onChange

end Attempt

end PatternSync
