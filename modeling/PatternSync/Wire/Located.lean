import PatternSync.Json.Lexeme
import PatternSync.Wire.Problem

/-!
# Problems of a text

Where in a JSON text a problem was noticed: after how many bytes, and at which line and column.
-/

namespace PatternSync.Wire

open Text

/-- A problem and the number of bytes read when it was noticed. -/
structure Fault where
  problem : Problem
  offset : Nat
  deriving DecidableEq

def Fault.ofSyntax (f : SyntaxFault) : Fault :=
  { problem := .form f.problem, offset := f.offset }

structure TextProblem where
  problem : Problem
  line : Nat
  column : Nat
  deriving DecidableEq

namespace TextProblem

def message (p : TextProblem) : String :=
  p.problem.message ++ " at line " ++ toString p.line ++ " column " ++ toString p.column

def debug (p : TextProblem) : String :=
  "Error(" ++ quoted p.problem.message ++ ", line: " ++ toString p.line ++ ", column: "
    ++ toString p.column ++ ")"

end TextProblem

/-- Line and column reached after so many bytes. -/
def placeOf (line column : Nat) : List Char → Nat → Nat × Nat
  | [], _ => (line, column)
  | c :: rest, offset =>
    if offset < c.utf8Size then (line, column + offset)
    else if c = '\n' then placeOf (line + 1) 0 rest (offset - c.utf8Size)
    else placeOf line (column + c.utf8Size) rest (offset - c.utf8Size)

def Fault.inText (s : String) (f : Fault) : TextProblem :=
  let (line, column) := placeOf 1 0 s.toList f.offset
  { problem := f.problem, line, column }

end PatternSync.Wire
