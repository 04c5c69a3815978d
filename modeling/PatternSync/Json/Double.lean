/-!
# Binary floating point numbers

Finite numbers of double precision as exact dyadic values, with rounding of a ratio to the nearest
of them, ties to even. All arithmetic is on natural numbers.
-/

namespace PatternSync

/-- The number `± mantissa · 2 ^ exponent`. The mantissa has 53 bits, or fewer when the exponent
is the least one. -/
structure Double where
  negative : Bool
  mantissa : Nat
  exponent : Int
  deriving DecidableEq, Repr, Inhabited

namespace Double

def leastExponent : Int := -1074

def greatestExponent : Int := 971

/-- The number behind the greatest mantissa, `2 ^ 53`. -/
def mantissaLimit : Nat := 9007199254740992

/-- The quotient rounded to the nearest whole number, a half to the even neighbour. -/
def roundedQuotient (num den : Nat) : Nat :=
  let q := num / den
  let twice := 2 * (num % den)
  if twice < den then q
  else if den < twice then q + 1
  else if q % 2 = 0 then q
  else q + 1

/-- The ratio in units of `2 ^ exponent`, as another ratio. -/
def inUnits (exponent : Int) (num den : Nat) : Nat × Nat :=
  if 0 ≤ exponent then (num, den * Nat.pow 2 exponent.toNat)
  else (num * Nat.pow 2 (-exponent).toNat, den)

/-- The exponent at which the ratio has a mantissa of 53 bits, or the least one. -/
def exponentOf (num den : Nat) : Int :=
  let guess : Int := (num.log2 : Int) - den.log2 - 53
  let (a, b) := inUnits guess num den
  max leastExponent (if a / b < mantissaLimit then guess else guess + 1)

/-- The magnitude nearest to a ratio; nothing when it is too great to be finite. -/
def ofRatio (negative : Bool) (num den : Nat) : Option Double :=
  if num = 0 then some { negative, mantissa := 0, exponent := leastExponent }
  else
    let e := exponentOf num den
    let (a, b) := inUnits e num den
    let m := roundedQuotient a b
    let (m, e) := if m = mantissaLimit then (mantissaLimit / 2, e + 1) else (m, e)
    if e ≤ greatestExponent then some { negative, mantissa := m, exponent := e } else none

/-- The magnitude as an exact ratio. -/
def toRatio (d : Double) : Nat × Nat :=
  if 0 ≤ d.exponent then (d.mantissa * Nat.pow 2 d.exponent.toNat, 1)
  else (d.mantissa, Nat.pow 2 (-d.exponent).toNat)

/-- The rounded product of two magnitudes, with the sign of the first. -/
def times (x y : Double) : Option Double :=
  ofRatio x.negative (x.toRatio.1 * y.toRatio.1) (x.toRatio.2 * y.toRatio.2)

/-- The rounded quotient of two magnitudes, with the sign of the first. -/
def dividedBy (x y : Double) : Option Double :=
  ofRatio x.negative (x.toRatio.1 * y.toRatio.2) (x.toRatio.2 * y.toRatio.1)

/-! ## The shortest digits -/

/-- The least `k ≥ from` with `num / den < 10 ^ k`, where `steps` bounds the search. -/
def decimalPlaces (num den : Nat) : Nat → Int → Int
  | 0, k => k
  | steps + 1, k =>
    let (a, b) := if 0 ≤ k then (num, den * Nat.pow 10 k.toNat)
      else (num * Nat.pow 10 (-k).toNat, den)
    if a < b then k else decimalPlaces num den steps (k + 1)

/-- Whether the decimal number `digits · 10 ^ power` rounds to the magnitude of `d`. -/
def readsBack (d : Double) (digits : Nat) (power : Int) : Bool :=
  let (a, b) := if 0 ≤ power then (digits * Nat.pow 10 power.toNat, 1)
    else (digits, Nat.pow 10 (-power).toNat)
  ofRatio d.negative a b == some d

/-- The decimal numbers with `count` digits on both sides of the magnitude, the nearer first.
`point` is the number of digits before the decimal point. -/
def neighbours (d : Double) (point : Int) (count : Nat) : List Nat :=
  let power := point - count
  let (num, den) := d.toRatio
  let (a, b) := if 0 ≤ power then (num, den * Nat.pow 10 power.toNat)
    else (num * Nat.pow 10 (-power).toNat, den)
  let low := a / b
  let near := roundedQuotient a b
  if near = low then [low, low + 1] else [low + 1, low]

/-- The fewest digits, from `count` on, whose decimal number reads back; `steps` bounds the
search. -/
def shortestFrom (d : Double) (point : Int) : Nat → Nat → Nat × Int
  | 0, count => ((neighbours d point count).headD 0, point - count)
  | steps + 1, count =>
    match (neighbours d point count).find? (readsBack d · (point - count)) with
    | some digits => (digits, point - count)
    | none => shortestFrom d point steps (count + 1)

/-- Digits and power of ten of the shortest decimal number that reads back. -/
def shortest (d : Double) : Nat × Int :=
  let (num, den) := d.toRatio
  shortestFrom d (decimalPlaces num den 640 (-324)) 16 1

/-- A number of digits without the zeros at their end, which move into the power. -/
def stripZeros : Nat → Nat × Int → Nat × Int
  | 0, r => r
  | steps + 1, (digits, power) =>
    if digits ≠ 0 ∧ digits % 10 = 0 then stripZeros steps (digits / 10, power + 1)
    else (digits, power)

/-- The text of a number: positional between `1e-5` and `1e16`, always with a point there, and
with an exponent beyond, which has a sign of either kind. -/
def text (d : Double) : String :=
  let sign := if d.negative then "-" else ""
  if d.mantissa = 0 then sign ++ "0.0"
  else
    let (digits, power) := stripZeros 20 d.shortest
    let ds := (toString digits).toList
    let point : Int := ds.length + power
    let zeros := fun (n : Int) => List.replicate n.toNat '0'
    let body : List Char :=
      if 0 ≤ power ∧ point ≤ 16 then ds ++ zeros power ++ ['.', '0']
      else if 0 < point ∧ point ≤ 16 then
        ds.take point.toNat ++ ['.'] ++ ds.drop point.toNat
      else if -5 < point ∧ point ≤ 0 then ['0', '.'] ++ zeros (-point) ++ ds
      else
        let mantissa := match ds with
          | [c] => [c]
          | c :: rest => c :: '.' :: rest
          | [] => []
        mantissa ++ ['e'] ++ (if 0 < point then ['+'] else []) ++ (toString (point - 1)).toList
    sign ++ String.ofList body

end Double

end PatternSync
