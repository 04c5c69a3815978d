/-!
# Sets of numbers as run lengths

A set of code points is written as the lengths of its alternating runs: first how many numbers
lie outside, then how many lie inside, then outside again, and so on. What follows the last run
lies outside.
-/

namespace PatternSync.Text

/-- Whether `n` falls into a run of the set; `inside` tells on which side the first run lies. -/
def inRuns (inside : Bool) : List Nat → Nat → Bool
  | [], _ => false
  | run :: rest, n => if n < run then inside else inRuns (!inside) rest (n - run)

/-- Whether the character belongs to the set of code points with these run lengths. -/
def charInRuns (runs : List Nat) (c : Char) : Bool :=
  inRuns false runs c.toNat

end PatternSync.Text
