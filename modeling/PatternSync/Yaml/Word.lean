import PatternSync.Text.Decimal
import PatternSync.Yaml.Value

/-!
# What words stand for

A plain text is a word: null, a truth value or a number if it is spelt like one, and otherwise a
text. Digits behind a zero make a text.
-/

namespace PatternSync.Yaml

open PatternSync.Text

namespace Word

def nulls : List String :=
  ["null", "Null", "NULL", "~"]

/-- The truth value that a word spells. -/
def bool? (s : String) : Option Bool :=
  if s ∈ ["true", "True", "TRUE"] then some true
  else if s ∈ ["false", "False", "FALSE"] then some false
  else none

/-! ## Whole numbers -/

/-- The number of at least one digit in a base. -/
def digitsIn? (base : Nat) (cs : List Char) : Option Nat := do
  let ds ← cs.mapM hexValue?
  if ds.isEmpty || ds.any (base ≤ ·) then none
  else return ds.foldl (fun n d => base * n + d) 0

/-- A number without a sign, in base ten, or in the base that a letter behind a zero tells. -/
def magnitude? : List Char → Option Nat
  | '0' :: 'x' :: cs => digitsIn? 16 cs
  | '0' :: 'o' :: cs => digitsIn? 8 cs
  | '0' :: 'b' :: cs => digitsIn? 2 cs
  | cs => digitsIn? 10 cs

/-- Whether digits follow a zero and nothing else is there but a sign. -/
def hasExtraZero (cs : List Char) : Bool :=
  let digits := if cs.head?.any ("+-".toList.contains ·) then cs.drop 1 else cs
  1 < digits.length && digits.head? == some '0' && digits.all Char.isDigit

/-- The whole number that a word spells, with a sign or without. -/
def whole? (cs : List Char) : Option Int :=
  if hasExtraZero cs then none
  else
    match cs with
    | '+' :: rest => (magnitude? rest).map Int.ofNat
    | '-' :: rest => (magnitude? rest).map fun n => -(n : Int)
    | cs => (magnitude? cs).map Int.ofNat

example : whole? "-0x1F".toList = some (-31) := by decide

example : whole? "007".toList = none := by decide

/-- Whether the number fits into so many bits, with a sign or without. -/
def fits (bits : Nat) (i : Int) : Bool :=
  -(Nat.pow 2 (bits - 1) : Int) ≤ i && i < (Nat.pow 2 bits : Int)

/-! ## Other numbers -/

/-- The double nearest to `digits · 10 ^ power`; nothing when it is too great to be finite. -/
def nearest? (negative : Bool) (digits : Nat) (power : Int) : Option Double :=
  let places : Int := (toString digits).length
  if digits = 0 ∨ power + places < -400 then Double.ofRatio negative 0 1
  else if 400 < power + places then none
  else if 0 ≤ power then Double.ofRatio negative (digits * Nat.pow 10 power.toNat) 1
  else Double.ofRatio negative digits (Nat.pow 10 (-power).toNat)

/-- The double that digits with a point and a power of ten spell. -/
def decimal? (negative : Bool) (cs : List Char) : Option Double := do
  let d ← Decimal.ofChars? cs
  nearest? negative d.digits d.power

/-- The number with a point or beyond all bounds that a word spells. -/
def real? (cs : List Char) : Option Value :=
  let infinite := [".inf", ".Inf", ".INF"]
  match cs with
  | '+' :: rest =>
    if String.ofList rest ∈ infinite then some (.infinity false)
    else (decimal? false rest).map fun d => .num (.double d)
  | '-' :: rest =>
    if String.ofList rest ∈ infinite then some (.infinity true)
    else (decimal? true rest).map fun d => .num (.double d)
  | cs =>
    if String.ofList cs ∈ infinite then some (.infinity false)
    else if String.ofList cs ∈ [".nan", ".NaN", ".NAN"] then some .notNumber
    else (decimal? false cs).map fun d => .num (.double d)

end Word

namespace Value

/-- The value of a word that is no whole number of up to 64 bits. -/
def ofOtherWord (s : String) : Value :=
  if Word.hasExtraZero s.toList then text s else (Word.real? s.toList).getD (text s)

/-- The value of a word. There are no whole numbers between 64 and 128 bits, and greater ones are
rounded. -/
def ofWord? (s : String) : Option Value :=
  if s = "" ∨ s ∈ Word.nulls then some null
  else
    match Word.bool? s, Word.whole? s.toList with
    | some b, _ => some (bool b)
    | none, some i =>
      if Word.fits 64 i then some (num (.int i))
      else if Word.fits 128 i then none
      else some (ofOtherWord s)
    | none, none => some (ofOtherWord s)

/-- The value of a text whose tag says that it is a whole number. -/
def ofWholeWord? (s : String) : Option Value := do
  let i ← Word.whole? s.toList
  if Word.fits 64 i then return num (.int i) else none

end Value

end PatternSync.Yaml
