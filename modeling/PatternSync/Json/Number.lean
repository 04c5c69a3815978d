import PatternSync.Json.Double

/-!
# Numbers of a JSON document

A number written without point and exponent is an integer if it fits into 64 bits, with or without
a sign; every other number is a double. The two kinds are never equal.
-/

namespace PatternSync

/-- A number of a JSON document. -/
inductive Number where
  | int (value : Int)
  | double (value : Double)
  deriving DecidableEq, Repr, Inhabited

namespace Number

def text : Number → String
  | int i => toString i
  | double d => d.text

/-- The number behind the greatest one of 64 bits, `2 ^ 64`. -/
def wordLimit : Nat := 18446744073709551616

/-- Digits as long as their number fits into 64 bits, and the digits that are left. -/
def fitDigits (value : Nat) : List Nat → Nat × List Nat
  | [] => (value, [])
  | d :: ds =>
    if 10 * value + d < wordLimit then fitDigits (10 * value + d) ds else (value, d :: ds)

/-- The power of ten, rounded. -/
def powerOfTen (n : Nat) : Double :=
  (Double.ofRatio false (Nat.pow 10 n) 1).getD default

/-- A double scaled by a power of ten. One step scales by `10 ^ 308` at most; `steps` bounds
their number. Nothing if the result is too great. -/
def scaled (x : Double) (power : Int) : Nat → Option Double
  | 0 => some x
  | steps + 1 =>
    if power.natAbs ≤ 308 then
      if 0 ≤ power then x.times (powerOfTen power.natAbs)
      else x.dividedBy (powerOfTen power.natAbs)
    else if x.mantissa = 0 then some x
    else if 0 ≤ power then none
    else (x.dividedBy (powerOfTen 308)).bind (scaled · (power + 308) steps)

/-- The double of a number with an exponent or a point: the significant digits that fit into 64
bits are rounded first and scaled then. Further digits count only by their places. -/
def ofDecimal (negative : Bool) (whole fraction : List Nat) (exponent : Int) : Option Number :=
  let (n, cut) := fitDigits 0 whole
  let (n, rest) := fitDigits n fraction
  let power : Int := exponent + cut.length - (fraction.length - rest.length : Nat)
  if 400 < power ∧ n ≠ 0 then none
  else
    ((Double.ofRatio negative n 1).bind
      (scaled · (max power (-4000)) 20)).map .double

/-- The number of digits without point and exponent. A negative zero and numbers beyond 64 bits
are doubles. -/
def ofDigits (negative : Bool) (whole : List Nat) : Option Number :=
  let (n, cut) := fitDigits 0 whole
  if cut.isEmpty ∧ negative = false then some (.int n)
  else if cut.isEmpty ∧ n ≠ 0 ∧ n ≤ wordLimit / 2 then some (.int (-(n : Int)))
  else ofDecimal negative whole [] 0

end Number

end PatternSync
