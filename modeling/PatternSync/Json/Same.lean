import PatternSync.Json.Basic

/-!
# Values that count as the same

Zero is the same number with either sign. Apart from that two values are the same if they are
equal.
-/

namespace PatternSync

/-- Whether two numbers are the same; an integer is never the same as a double. -/
def Number.same : Number → Number → Bool
  | .int a, .int b => a == b
  | .double a, .double b => a == b || (a.mantissa == 0 && b.mantissa == 0)
  | _, _ => false

namespace Json

mutual

def same : Json → Json → Bool
  | .num a, .num b => a.same b
  | .arr as, .arr bs => sameItems as bs
  | .obj as, .obj bs => sameMembers as bs
  | a, b => a == b

def sameItems : List Json → List Json → Bool
  | [], [] => true
  | a :: as, b :: bs => a.same b && sameItems as bs
  | _, _ => false

def sameMembers : List (String × Json) → List (String × Json) → Bool
  | [], [] => true
  | (k, a) :: as, (l, b) :: bs => k == l && a.same b && sameMembers as bs
  | _, _ => false

end

end Json

theorem Number.same_self (n : Number) : n.same n = true := by
  cases n <;> simp [Number.same]

namespace Json

mutual

theorem same_self : (j : Json) → j.same j = true
  | .null => by simp [same]
  | .bool _ => by simp [same]
  | .num n => by simp [same, Number.same_self]
  | .str _ => by simp [same]
  | .arr items => by simp [same, sameItems_self items]
  | .obj members => by simp [same, sameMembers_self members]

theorem sameItems_self : (items : List Json) → sameItems items items = true
  | [] => rfl
  | j :: rest => by simp [sameItems, same_self j, sameItems_self rest]

theorem sameMembers_self : (members : List (String × Json)) → sameMembers members members = true
  | [] => rfl
  | (_, j) :: rest => by simp [sameMembers, same_self j, sameMembers_self rest]

end

end Json

end PatternSync
