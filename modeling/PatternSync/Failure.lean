import PatternSync.Api.Failure
import PatternSync.Text.Lowercase

/-!
# Failed passes

Why a pass over a pattern failed, and whether it is to be tried again after a time of its own.
A failure has several views: its message, its spelling as a value, the messages of the causes
behind it, and a label for counting that carries nothing but the kind of its cause.
-/

namespace PatternSync

open Text Wire

mutual

/-- What went wrong. -/
inductive Cause where
  | serialization (p : TextProblem)
  | api (f : ApiFailure)
  | finalizer (f : FinalizerFailure)
  | metadataMissing (text : String)
  | invalidSettings (text : String)

/-- What went wrong around a finalizer. -/
inductive FinalizerFailure where
  | unnamed
  | adding (f : ApiFailure)
  | removing (f : ApiFailure)
  | applying (f : Failure)
  | cleaning (f : Failure)

/-- A failed pass; one with a time of its own is tried again after so many milliseconds. -/
inductive Failure where
  | plain (cause : Cause)
  | requeue (cause : Cause) (millis : Nat)

end

/-- The spelling of a span of time in milliseconds, in seconds from one second on. -/
def durationText (millis : Nat) : String :=
  if millis = 0 then "0ns"
  else if millis < 1000 then toString millis ++ "ms"
  else thousandthsText millis ++ "s"

/-! ## Messages -/

mutual

def Cause.message : Cause → String
  | .serialization p => "JsonSerializationError: " ++ p.message
  | .api f => "Kube Error: " ++ f.message
  | .finalizer f => "Finalizer Error: " ++ f.message
  | .metadataMissing text => "MetadataMissing: " ++ text
  | .invalidSettings text => "InvalidConfig: " ++ text

def FinalizerFailure.message : FinalizerFailure → String
  | .unnamed => "object has no name"
  | .adding f => "failed to add finalizer: " ++ f.message
  | .removing f => "failed to remove finalizer: " ++ f.message
  | .applying f => "failed to apply object: " ++ f.message
  | .cleaning f => "failed to clean up object: " ++ f.message

def Failure.message : Failure → String
  | .plain c => "Standard Error: " ++ c.message
  | .requeue c _ => "Error With Requeue: " ++ c.message

end

/-! ## Spelling as values -/

mutual

def Cause.debug : Cause → String
  | .serialization p => "JsonSerializationError(" ++ p.debug ++ ")"
  | .api f => "KubeError(" ++ f.debug ++ ")"
  | .finalizer f => "FinalizerError(" ++ f.debug ++ ")"
  | .metadataMissing text => "MetadataMissing(" ++ quoted text ++ ")"
  | .invalidSettings text => "InvalidConfig(" ++ quoted text ++ ")"

def FinalizerFailure.debug : FinalizerFailure → String
  | .unnamed => "UnnamedObject"
  | .adding f => "AddFinalizer(" ++ f.debug ++ ")"
  | .removing f => "RemoveFinalizer(" ++ f.debug ++ ")"
  | .applying f => "ApplyFailed(" ++ f.debug ++ ")"
  | .cleaning f => "CleanupFailed(" ++ f.debug ++ ")"

def Failure.debug : Failure → String
  | .plain c => "StdError(" ++ c.debug ++ ")"
  | .requeue c millis =>
    "ErrorWithRequeue(ErrorWithRequeue \x7b duration: " ++ durationText millis ++ ", error: "
      ++ c.debug ++ " \x7d)"

end

/-! ## Causes -/

mutual

def Cause.causes : Cause → List String
  | .serialization p => [p.message]
  | .api f => f.message :: f.causes
  | .finalizer f => f.message :: f.causes
  | .metadataMissing _ => []
  | .invalidSettings _ => []

/-- The messages of the causes behind a failure around a finalizer. -/
def FinalizerFailure.causes : FinalizerFailure → List String
  | .unnamed => []
  | .adding f => f.message :: f.causes
  | .removing f => f.message :: f.causes
  | .applying f => f.message :: f.causes
  | .cleaning f => f.message :: f.causes

/-- The messages of the causes behind a failed pass, the outermost first. A cause with a time of
its own hides what is behind it. -/
def Failure.causes : Failure → List String
  | .plain c => c.message :: c.causes
  | .requeue c _ => [c.message]

end

/-! ## Kinds and labels -/

namespace Cause

def kind : Cause → String
  | serialization _ => "JsonSerializationError"
  | api _ => "KubeError"
  | finalizer _ => "FinalizerError"
  | metadataMissing _ => "MetadataMissing"
  | invalidSettings _ => "InvalidConfig"

/-- The spelling of the cause in lower case. -/
def label (c : Cause) : String :=
  lowercase c.debug

end Cause

namespace Failure

def cause : Failure → Cause
  | plain c => c
  | requeue c _ => c

/-- The time after which to try again, if the failure has one of its own. -/
def requeueMillis? : Failure → Option Nat
  | plain _ => none
  | requeue _ millis => some millis

/-- The label under which the failure is counted: the label of its cause up to the first
parenthesis. -/
def label (f : Failure) : String :=
  String.ofList (f.cause.label.toList.takeWhile (· ≠ '('))

/-- A failed call of the API server. -/
def ofApi (f : ApiFailure) : Failure :=
  plain (.api f)

end Failure

end PatternSync
