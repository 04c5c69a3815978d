/-!
# Digits

Writing numbers with a least width or with decimals, and reading digits and runs of them.
-/

namespace PatternSync.Text

/-- The decimal digits of `n`, with zeros in front up to `width` digits. -/
def padded (width n : Nat) : String :=
  let digits := toString n
  String.ofList (List.replicate (width - digits.length) '0') ++ digits

def digitValue (c : Char) : Nat :=
  c.toNat - '0'.toNat

def digitsValue (cs : List Char) : Nat :=
  cs.foldl (fun n c => 10 * n + digitValue c) 0

theorem digitsValue_eq (cs : List Char) : digitsValue cs = Nat.ofDigitChars 10 cs 0 := rfl

/-- The value of a digit in base sixteen. -/
def hexValue? (c : Char) : Option Nat :=
  if c.isDigit then some (digitValue c)
  else if 'a' ≤ c ∧ c ≤ 'f' then some (c.toNat - 'a'.toNat + 10)
  else if 'A' ≤ c ∧ c ≤ 'F' then some (c.toNat - 'A'.toNat + 10)
  else none

/-- So many thousandths as a decimal number, with no more decimals than needed. -/
def thousandthsText (n : Nat) : String :=
  let part := n % 1000
  let fraction :=
    if part = 0 then ""
    else if part % 100 = 0 then "." ++ padded 1 (part / 100)
    else if part % 10 = 0 then "." ++ padded 2 (part / 10)
    else "." ++ padded 3 part
  toString (n / 1000) ++ fraction

end PatternSync.Text
