import PatternSync.Text.Base64
import PatternSync.Wire.Problem

/-!
# Shapes of documents

A shape says which documents a kind of record is read from: the names of its fields, whether they
may be absent or null, and the shapes of their values. `Shape.check` visits the members of an
object in their order and reports the first problem; only when all are right does it look for a
required field that is absent. What a shape accepts can be read by total functions.
-/

namespace PatternSync.Wire

/-- A range of whole numbers with a name. -/
structure WholeRange where
  name : String
  least : Int
  greatest : Int
  deriving DecidableEq

namespace WholeRange

/-- Whole numbers of 32 bits without a sign. -/
def u32 : WholeRange := { name := "u32", least := 0, greatest := 4294967295 }

/-- Whole numbers of 16 bits without a sign. -/
def u16 : WholeRange := { name := "u16", least := 0, greatest := 65535 }

/-- Whole numbers of 32 bits with a sign. -/
def i32 : WholeRange := { name := "i32", least := -2147483648, greatest := 2147483647 }

/-- Whole numbers of 64 bits with a sign. -/
def i64 : WholeRange :=
  { name := "i64", least := -9223372036854775808, greatest := 9223372036854775807 }

end WholeRange

/-- Whether a field may be absent. A `keyed` field may be absent from an object, but a list of
field values has to reach it. -/
inductive Presence where
  | required
  | keyed
  | optional
  deriving DecidableEq

/-- What a record does with members it does not know, and whether the list of its field values may
stand for it. -/
inductive Layout where
  /-- Unknown members are ignored; a list of the values, in the order of the fields, will do. -/
  | listable
  /-- Unknown members are kept. -/
  | keeping
  /-- Unknown members are ignored; in a text a member may stand there twice. -/
  | lenient
  deriving DecidableEq

inductive Shape where
  | anything
  | bool
  | string
  | word (text : String)
  | whole (range : WholeRange)
  | time
  | base64
  | choice (variants : List String)
  | nullable (inner : Shape)
  | list (item : Shape)
  | dict (value : Shape)
  | record (wanted : String) (layout : Layout) (fields : List (String × Presence × Shape))

namespace Shape

/-- How messages name an instant. -/
def timeWanted : String :=
  "an RFC 3339 formatted date and time string"

/-- How messages name bytes spelt by letters. -/
def base64Wanted : String :=
  "a base64-encoded string"

/-- How messages name a record given by too few values. -/
def wantedOf (wanted : String) (count : Nat) : String :=
  wanted ++ " with " ++ toString count ++ " elements"

/-- The document is something else than wanted. -/
def refuse (j : Json) (wanted : String) : Except Problem Unit :=
  .error (.wrongType (.ofJson j) wanted)

/-- A whole number within a range. -/
def checkWhole (range : WholeRange) : Number → Except Problem Unit
  | .int i =>
    if range.least ≤ i ∧ i ≤ range.greatest then .ok ()
    else .error (.wrongValue (.num (.int i)) range.name)
  | .double d => .error (.wrongType (.num (.double d)) range.name)

/-- The spelling of an instant. -/
def checkTime (s : String) : Except Problem Unit :=
  match Instant.ofText s with
  | .ok _ => .ok ()
  | .error p => .error (.time p)

/-- One of the names. -/
def checkVariant (variants : List String) (name : String) : Except Problem Unit :=
  if name ∈ variants then .ok () else .error (.unknownVariant name variants)

/-- A name may also be the only key of an object, over null. -/
def checkChoice (variants : List String) : Json → Except Problem Unit
  | .str s => checkVariant variants s
  | .obj [(name, value)] => do
    checkVariant variants name
    if value.isNull then .ok () else refuse value "unit"
  | .obj _ => .error (.wrongValue .map "map with a single key")
  | j => refuse j "string or map"

/-- A required field that the members lack, in the order of the fields. -/
def missing? (members : Keyed Json) (fields : List (String × Presence × Shape)) :
    Option String :=
  (fields.find? fun (name, presence, _) =>
    presence = .required ∧ (Keyed.get? members name).isNone).map Prod.fst

/-- All required fields are there. -/
def checkPresent (members : Keyed Json) (fields : List (String × Presence × Shape)) :
    Except Problem Unit :=
  match missing? members fields with
  | some name => .error (.missing name)
  | none => .ok ()

mutual

/-- Whether the document has the shape, or the first problem. -/
def check : Shape → Json → Except Problem Unit
  | anything, _ => .ok ()
  | bool, .bool _ => .ok ()
  | bool, j => refuse j "a boolean"
  | string, .str _ => .ok ()
  | string, j => refuse j "a string"
  | word text, .str s => if s = text then .ok () else .error (.wrongValue (.str s) text)
  | word _, j => refuse j "a string"
  | whole range, .num n => checkWhole range n
  | whole range, j => refuse j range.name
  | time, .str s => checkTime s
  | time, j => refuse j timeWanted
  | base64, .str s =>
    if (Text.base64? s).isSome then .ok () else .error (.wrongValue (.str s) base64Wanted)
  | base64, j => refuse j base64Wanted
  | choice variants, j => checkChoice variants j
  | nullable _, .null => .ok ()
  | nullable inner, j => inner.check j
  | list item, .arr items => items.forM fun j => item.check j
  | list _, j => refuse j "a sequence"
  | dict value, .obj members => members.forM fun (_, j) => value.check j
  | dict _, j => refuse j "a map"
  | record _ _ fields, .obj members => do
    members.forM fun (key, j) => checkMember fields key j
    checkPresent members fields
  | record wanted .listable fields, .arr items =>
    checkListed (wantedOf wanted fields.length) items.length 0 fields items
  | record wanted _ _, j => refuse j wanted

/-- Whether a member has the shape of the field it names. -/
def checkMember : List (String × Presence × Shape) → String → Json → Except Problem Unit
  | [], _, _ => .ok ()
  | (name, _, shape) :: rest, key, j =>
    if name = key then shape.check j else checkMember rest key j

/-- Whether the values of a list have the shapes of the fields from number `index` on. Fields at
the end may be left out if they may be absent. -/
def checkListed (wanted : String) (total index : Nat) :
    List (String × Presence × Shape) → List Json → Except Problem Unit
  | [], items =>
    if items.isEmpty then .ok () else .error (.wrongLength total "fewer elements in array")
  | (_, _, shape) :: rest, j :: items => do
    shape.check j
    checkListed wanted total (index + 1) rest items
  | (_, presence, _) :: rest, [] =>
    if presence = .optional then checkListed wanted total (index + 1) rest []
    else .error (.wrongLength index wanted)

end

def fieldNames : Shape → List String
  | record _ _ fields => fields.map Prod.fst
  | _ => []

/-- The value of a field in a document of the shape, whether it is an object or a list. -/
def field? (shape : Shape) (j : Json) (name : String) : Option Json :=
  match j with
  | .obj members => Keyed.get? members name
  | .arr items => (shape.fieldNames.idxOf? name).bind (items[·]?)
  | _ => none

/-- The members of a document that are no fields of the record. -/
def unknownMembers (shape : Shape) (j : Json) : Keyed Json :=
  j.members.filter fun (key, _) => key ∉ shape.fieldNames

end Shape

/-! ## Reading fields -/

/-- A field of a text, or the text it stands for when absent. -/
def textOr (absent : String) (field : Option Json) : String :=
  (field.bind Json.text?).getD absent

/-- A field that is true or false. -/
def flagOr (absent : Bool) : Option Json → Bool
  | some (.bool b) => b
  | _ => absent

/-- A field of a whole number. -/
def wholeOr (absent : Int) : Option Json → Int
  | some (.num (.int i)) => i
  | _ => absent

/-- A field that may be null, which counts as absent. -/
def optional {α : Type} (read : Json → α) : Option Json → Option α
  | none => none
  | some .null => none
  | some j => some (read j)

/-- A field of a list; an absent one is empty. -/
def listOf {α : Type} (read : Json → α) : Option Json → List α
  | some (.arr items) => items.map read
  | _ => []

/-- The text of a value, empty if it is none. -/
def text (j : Json) : String :=
  j.text?.getD ""

/-- Whether the value is true. -/
def flag (j : Json) : Bool :=
  flagOr false (some j)

def textMap (j : Json) : Keyed String :=
  j.members.map fun (key, value) => (key, text value)

/-- The instant that a value spells. -/
def instant (j : Json) : Instant :=
  match Instant.ofText (text j) with
  | .ok t => t
  | .error _ => default

/-- A document of a shape as the record it stands for, or the first problem. -/
def decode {α : Type} (shape : Shape) (read : Json → α) (j : Json) : Except Problem α := do
  shape.check j
  return read j

end PatternSync.Wire
