/-!
# Bytes as letters

The usual spelling of bytes by 64 letters, three bytes to four letters. Only the canonical spelling
is read: the last group is filled up with equals signs, and the bits that its letters have to spare
are zero.
-/

namespace PatternSync.Text

/-- The six bits that a letter stands for. -/
def base64Value? (c : Char) : Option Nat :=
  if c.isUpper then some (c.toNat - 'A'.toNat)
  else if c.isLower then some (c.toNat - 'a'.toNat + 26)
  else if c.isDigit then some (c.toNat - '0'.toNat + 52)
  else if c = '+' then some 62
  else if c = '/' then some 63
  else none

/-- The bytes that groups of four letters spell. -/
def base64Bytes? : List Char → Option (List UInt8)
  | [] => some []
  | [a, b, '=', '='] => do
    let (m, n) := (← base64Value? a, ← base64Value? b)
    if n % 16 = 0 then some [.ofNat (m * 4 + n / 16)] else none
  | [a, b, c, '='] => do
    let (m, n, p) := (← base64Value? a, ← base64Value? b, ← base64Value? c)
    if p % 4 = 0 then some [.ofNat (m * 4 + n / 16), .ofNat (n % 16 * 16 + p / 4)] else none
  | a :: b :: c :: d :: rest => do
    let (m, n, p, q) :=
      (← base64Value? a, ← base64Value? b, ← base64Value? c, ← base64Value? d)
    let others ← base64Bytes? rest
    return .ofNat (m * 4 + n / 16) :: .ofNat (n % 16 * 16 + p / 4) :: .ofNat (p % 4 * 64 + q)
      :: others
  | _ => none

/-- The bytes that a text spells. -/
def base64? (s : String) : Option (List UInt8) :=
  base64Bytes? s.toList

example : base64? "aGVsbG8=" = some [104, 101, 108, 108, 111] := by decide

example : base64? "aGVsbG9=" = none := by decide

end PatternSync.Text
