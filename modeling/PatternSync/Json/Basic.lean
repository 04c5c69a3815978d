import PatternSync.Json.Number
import PatternSync.Keyed

/-!
# JSON documents

A document is a value; the members of an object stand in key order. An absent member, a member
that is null and an empty text are three different things.
-/

namespace PatternSync

inductive Json where
  | null
  | bool (value : Bool)
  | num (value : Number)
  | str (value : String)
  | arr (items : List Json)
  | obj (members : List (String × Json))
  deriving Inhabited

namespace Json

/-! ## Equality -/

mutual

def decEq : (a b : Json) → Decidable (a = b)
  | null, null => isTrue rfl
  | bool a, bool b => decidable_of_iff (a = b) (by simp)
  | num a, num b => decidable_of_iff (a = b) (by simp)
  | str a, str b => decidable_of_iff (a = b) (by simp)
  | arr as, arr bs =>
    match decEqItems as bs with
    | isTrue h => isTrue (by rw [h])
    | isFalse h => isFalse (by simpa using h)
  | obj as, obj bs =>
    match decEqMembers as bs with
    | isTrue h => isTrue (by rw [h])
    | isFalse h => isFalse (by simpa using h)
  | null, bool _ | null, num _ | null, str _ | null, arr _ | null, obj _
  | bool _, null | bool _, num _ | bool _, str _ | bool _, arr _ | bool _, obj _
  | num _, null | num _, bool _ | num _, str _ | num _, arr _ | num _, obj _
  | str _, null | str _, bool _ | str _, num _ | str _, arr _ | str _, obj _
  | arr _, null | arr _, bool _ | arr _, num _ | arr _, str _ | arr _, obj _
  | obj _, null | obj _, bool _ | obj _, num _ | obj _, str _ | obj _, arr _ =>
    isFalse (by simp)

def decEqItems : (as bs : List Json) → Decidable (as = bs)
  | [], [] => isTrue rfl
  | [], _ :: _ | _ :: _, [] => isFalse (by simp)
  | a :: as, b :: bs =>
    match decEq a b, decEqItems as bs with
    | isTrue h, isTrue t => isTrue (by rw [h, t])
    | isFalse h, _ => isFalse (by simp [h])
    | _, isFalse t => isFalse (by simp [t])

def decEqMembers : (as bs : List (String × Json)) → Decidable (as = bs)
  | [], [] => isTrue rfl
  | [], _ :: _ | _ :: _, [] => isFalse (by simp)
  | (k, a) :: as, (l, b) :: bs =>
    if hk : k = l then
      match decEq a b, decEqMembers as bs with
      | isTrue h, isTrue t => isTrue (by rw [hk, h, t])
      | isFalse h, _ => isFalse (by simp [h])
      | _, isFalse t => isFalse (by simp [t])
    else isFalse (by simp [hk])

end

instance : DecidableEq Json := decEq

/-! ## Building objects -/

/-- The object with these members; of two with one key the later stays. -/
def object (members : List (String × Json)) : Json :=
  .obj (Keyed.ofList members)

def objectOf (members : List (String × Option Json)) : Json :=
  object (members.filterMap fun (k, v) => v.map (k, ·))

def int (i : Int) : Json :=
  .num (.int i)

/-- An optional value, null when it is missing. -/
def orNull (v : Option Json) : Json :=
  v.getD .null

/-- A text, left out when it is empty. -/
def textUnlessEmpty (s : String) : Option Json :=
  if s = "" then none else some (.str s)

/-- A list, left out when it is empty. -/
def listUnlessEmpty (items : List Json) : Option Json :=
  if items.isEmpty then none else some (.arr items)

def ofTexts (entries : Keyed String) : Json :=
  .obj (entries.map fun (k, v) => (k, .str v))

/-! ## Looking into a value -/

/-- The member of an object under a key. -/
def member? (j : Json) (key : String) : Option Json :=
  match j with
  | .obj members => Keyed.get? members key
  | _ => none

/-- The text, if the value is one. -/
def text? : Json → Option String
  | .str s => some s
  | _ => none

/-- The items, if the value is a list. -/
def items? : Json → Option (List Json)
  | .arr items => some items
  | _ => none

/-- The members of an object; no other value has any. -/
def members : Json → Keyed Json
  | .obj members => members
  | _ => []

def isNull : Json → Bool
  | .null => true
  | _ => false

end Json

end PatternSync
