import PatternSync.Json.Lexeme
import PatternSync.Text.Quoted
import PatternSync.Time.Rfc3339

/-!
# Why a document does not have the wanted form

The causes for which a document is refused, and their wording.
-/

namespace PatternSync.Wire

open Text

/-- What a document holds where something else is wanted. -/
inductive Found where
  | null
  | bool (value : Bool)
  | num (value : Number)
  | str (value : String)
  | list
  | map
  deriving DecidableEq

namespace Found

/-- What kind of value stands there. -/
def ofJson : Json → Found
  | .null => null
  | .bool b => bool b
  | .num n => num n
  | .str s => str s
  | .arr _ => list
  | .obj _ => map

def message : Found → String
  | null => "null"
  | bool b => "boolean `" ++ toString b ++ "`"
  | num (.int i) => "integer `" ++ toString i ++ "`"
  | num (.double d) => "floating point `" ++ d.text ++ "`"
  | str s => "string " ++ quoted s
  | list => "sequence"
  | map => "map"

end Found

/-- Why a document is refused. -/
inductive Problem where
  | wrongType (found : Found) (wanted : String)
  | wrongValue (found : Found) (wanted : String)
  | wrongLength (count : Nat) (wanted : String)
  | missing (name : String)
  | repeated (name : String)
  | unknownVariant (found : String) (variants : List String)
  | time (problem : TimeProblem)
  | form (problem : SyntaxProblem)
  deriving DecidableEq

namespace Problem

/-- A name between backticks. -/
def ticked (name : String) : String :=
  "`" ++ name ++ "`"

/-- The wording of the names that would have been right. -/
def oneOf : List String → String
  | [] => "there are no variants"
  | [a] => "expected " ++ ticked a
  | [a, b] => "expected " ++ ticked a ++ " or " ++ ticked b
  | names => "expected one of " ++ ", ".intercalate (names.map ticked)

def message : Problem → String
  | wrongType found wanted => "invalid type: " ++ found.message ++ ", expected " ++ wanted
  | wrongValue found wanted => "invalid value: " ++ found.message ++ ", expected " ++ wanted
  | wrongLength count wanted => "invalid length " ++ toString count ++ ", expected " ++ wanted
  | missing name => "missing field " ++ ticked name
  | repeated name => "duplicate field " ++ ticked name
  | unknownVariant found variants =>
    "unknown variant " ++ ticked found ++ ", " ++ oneOf variants
  | time problem => problem.message
  | form problem => problem.message

end Problem

end PatternSync.Wire
