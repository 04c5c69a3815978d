import PatternSync.Text.Digits

/-!
# Decimal numbers

Digits with a point among them or without, and a power of ten behind them or none. Digits may be
missing on one side of the point, but not on both.
-/

namespace PatternSync.Text

/-- The number `digits · 10 ^ power`. -/
structure Decimal where
  digits : Nat
  power : Int
  deriving DecidableEq, Repr

namespace Decimal

/-- The power of ten at the end of a number. -/
def power? : List Char → Option Int
  | [] => some 0
  | c :: cs => do
    if c != 'e' && c != 'E' then none
    let (negative, digits) := match cs with
      | '-' :: rest => (true, rest)
      | '+' :: rest => (false, rest)
      | _ => (false, cs)
    if digits.isEmpty || !digits.all Char.isDigit then none
    return if negative then -(digitsValue digits : Int) else digitsValue digits

/-- The number that the characters spell without a sign. -/
def ofChars? (cs : List Char) : Option Decimal := do
  let whole := cs.takeWhile Char.isDigit
  let rest := cs.drop whole.length
  let fraction := if rest.head? = some '.' then (rest.drop 1).takeWhile Char.isDigit else []
  let rest := if rest.head? = some '.' then rest.drop (1 + fraction.length) else rest
  if whole.isEmpty && fraction.isEmpty then none
  return { digits := digitsValue (whole ++ fraction)
           power := (← power? rest) - fraction.length }

example : ofChars? "1.50e3".toList = some { digits := 150, power := 1 } := by decide

example : ofChars? ".".toList = none := by decide

end Decimal

end PatternSync.Text
