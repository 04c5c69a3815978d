import PatternSync.Json.Nesting
import PatternSync.Wire.Located
import PatternSync.Wire.Shape

/-!
# Reading a text of a shape

A JSON text is checked against a shape while it is read, so the first problem in the order of the
text wins, be it a wrong value or a fault of form. What the shape ignores is skipped. A problem of
a record as a whole, such as a missing field, is noticed where the record has been left.
-/

namespace PatternSync.Wire

/-- A reader of a text, which may also find fault with the content. -/
abbrev TextReader := StateT Cursor (Except Fault)

instance : MonadLift Scan TextReader where
  monadLift scan := fun c => (scan.run c).mapError Fault.ofSyntax

/-- A reader of a record; a problem of the record as a whole has no place yet. -/
abbrev RecordReader := ExceptT Problem TextReader

namespace TextReader

/-- Refuses the text for a problem noticed at the place reached. -/
def refuse {α : Type} (problem : Problem) : TextReader α := do
  throw { problem, offset := (← get).offset }

/-- Refuses the text if a check has found a problem. -/
def accept : Except Problem Unit → TextReader Unit
  | .ok _ => return
  | .error problem => refuse problem

/-- How deep lists and objects may be nested. -/
def depthLimit : Nat := 127

/-- Reads a list or an object with one level less to go. -/
def nested {α : Type} (read : Nat → TextReader α) : Nat → TextReader α
  | 0 => Scan.failNext .tooDeep
  | depth + 1 => read depth

/-- The next value as far as a message shows it: of a list or an object no more than its kind,
without reading it. -/
def glimpse : TextReader Json := do
  match ← Scan.peek with
  | some '[' => return .arr []
  | some '{' => return .obj []
  | _ => Scan.plain

/-- Leaves a record: behind its end if it is in order, otherwise as far as its end can be seen. -/
def leave {α : Type} (approach finish : Scan Unit) (record : RecordReader α) : TextReader α := do
  match ← record.run with
  | .ok a => finish; return a
  | .error problem => approach; refuse problem

def itemsFrom (read : TextReader Json) : Nat → Bool → TextReader (List Json)
  | 0, _ => return []
  | steps + 1, first => do
    if ← Scan.nextItem first then
      let item ← read
      return item :: (← itemsFrom read steps false)
    else return []

def items (read : TextReader Json) : TextReader Json := do
  Scan.skip
  let values ← itemsFrom read (← Scan.steps) true
  Scan.listEnd
  return .arr values

/-- The members of an object, each value read by its key; those without a value are dropped.
`allow` gets a key and the keys before it. -/
def membersFrom (allow : String → List String → Except Problem Unit)
    (read : String → RecordReader (Option Json)) :
    Nat → List String → RecordReader (List (String × Json))
  | 0, _ => return []
  | steps + 1, seen => do
    if ← (Scan.nextKey seen.isEmpty : Scan Bool) then
      let key ← (Scan.string : Scan String)
      allow key seen
      (Scan.colon : Scan Unit)
      let value ← read key
      let rest ← membersFrom allow read steps (key :: seen)
      return (value.map (key, ·)).toList ++ rest
    else return []

/-- An object, each value read by its key. -/
def members (allow : String → List String → Except Problem Unit)
    (read : String → RecordReader (Option Json))
    (check : List (String × Json) → Except Problem Unit) : TextReader Json := do
  Scan.skip
  leave Scan.approachObjectEnd Scan.objectEnd do
    let found ← membersFrom allow read (← (Scan.steps : Scan Nat)) []
    check found
    return .object found

/-- An object without fixed keys. -/
def entries (read : TextReader Json) : TextReader Json :=
  members (fun _ _ => .ok ()) (fun _ => ExceptT.lift (some <$> read)) fun _ => .ok ()

def any : Nat → TextReader Json
  | 0 => do
    Scan.gap
    if ← Scan.sees fun c => c == '[' || c == '{' then Scan.failNext .tooDeep
    Scan.plain
  | depth + 1 => do
    Scan.gap
    match ← Scan.peek with
    | some '[' => items (any depth)
    | some '{' => entries (any depth)
    | _ => Scan.plain

/-- The next value if it is null. -/
def unit : TextReader Unit := do
  Scan.gap
  let found ← glimpse
  if !found.isNull then refuse (.wrongType (.ofJson found) "unit")

/-- One of the names. -/
def variant (variants : List String) : TextReader String := do
  Scan.gap
  match ← glimpse with
  | .str name => accept (Shape.checkVariant variants name); return name
  | found => refuse (.wrongType (.ofJson found) "variant identifier")

/-- One of the names, or an object with one of them as its only key, over null. -/
def choice (variants : List String) (depth : Nat) : TextReader Json := do
  Scan.gap
  match ← Scan.peek with
  | none => Scan.fail .endInValue
  | some '"' => return .str (← variant variants)
  | some '{' =>
    let name ← depth |> nested fun _ => do
      Scan.skip
      let name ← variant variants
      Scan.colon
      unit
      return name
    Scan.gap
    match ← Scan.peek with
    | none => Scan.fail .endInObject
    | some '}' => Scan.skip
    | some _ => Scan.fail .valueExpected
    return .obj [(name, .null)]
  | some _ => Scan.failNext .valueExpected

end TextReader

namespace Shape

open TextReader

/-- A value without parts, or the problem that the shape has with the value. -/
def readPlain (shape : Shape) : TextReader Json := do
  Scan.gap
  let found ← glimpse
  accept (shape.check found)
  return found

/-- Whether a key may follow those before it. -/
def allowKey (layout : Layout) (names : List String) (key : String) (seen : List String) :
    Except Problem Unit :=
  if layout ≠ .lenient ∧ key ∈ names ∧ key ∈ seen then .error (.repeated key) else .ok ()

/-- Whether a word is the wanted one is looked at by the record it belongs to. -/
def checkWord (shape : Shape) (j : Json) : Except Problem Unit :=
  match shape with
  | word text => (word text).check j
  | _ => .ok ()

mutual

/-- Reads a value of the shape; `depth` more levels may be opened. -/
def read : Shape → Nat → TextReader Json
  | anything, depth => any depth
  | word _, _ => readPlain string
  | choice variants, depth => TextReader.choice variants depth
  | nullable inner, depth => do
    Scan.gap
    if ← Scan.sees (· == 'n') then Scan.plain else inner.read depth
  | list item, depth => do
    Scan.gap
    if ← Scan.sees (· == '[') then depth |> nested fun depth => items (item.read depth)
    else readPlain (list item)
  | dict value, depth => do
    Scan.gap
    if ← Scan.sees (· == '{') then depth |> nested fun depth => entries (value.read depth)
    else readPlain (dict value)
  | record wanted layout fields, depth => do
    Scan.gap
    match ← Scan.peek, layout with
    | some '{', _ =>
      depth |> nested fun depth =>
        members (allowKey layout (fields.map Prod.fst))
          (fun key => readMember layout fields key depth)
          fun found => checkPresent found fields
    | some '[', .listable =>
      depth |> nested fun depth => do
        Scan.skip
        leave Scan.approachListEnd Scan.listEnd do
          return .arr (← readListed (wantedOf wanted fields.length) 0 fields depth)
    | some '[', .lenient =>
      depth |> nested fun _ => do
        Scan.skip
        leave Scan.approachListEnd Scan.listEnd (throw (.wrongType .list wanted))
    | _, _ => readPlain (record wanted layout fields)
  | shape, _ => readPlain shape

/-- Reads a member of a record by the field it names; an unknown one is ignored or kept. -/
def readMember (layout : Layout) :
    List (String × Presence × Shape) → String → Nat → RecordReader (Option Json)
  | [], _, depth =>
    ExceptT.lift <|
      if layout = .keeping then some <$> any depth
      else do
        Scan.skipValue
        return none
  | (name, _, shape) :: rest, key, depth =>
    if name = key then do
      let j ← shape.read depth
      shape.checkWord j
      return some j
    else readMember layout rest key depth

/-- Reads the values of the fields from number `index` on, as long as there are any. -/
def readListed (wanted : String) (index : Nat) :
    List (String × Presence × Shape) → Nat → RecordReader (List Json)
  | [], _ => return []
  | (_, presence, shape) :: rest, depth => do
    if ← (Scan.nextItem (index == 0) : Scan Bool) then
      let j ← shape.read depth
      return j :: (← readListed wanted (index + 1) rest depth)
    else if presence = .optional then readListed wanted (index + 1) rest depth
    else throw (.wrongLength index wanted)

end

/-- A text of the shape up to its end. -/
def readText (shape : Shape) : TextReader Json := do
  let j ← shape.read depthLimit
  Scan.gap
  if !(← get).rest.isEmpty then Scan.failNext .trailingText
  return j

/-- The value of a text of the shape, without what the shape ignores, or the first problem in
it. -/
def ofText (shape : Shape) (s : String) : Except TextProblem Json :=
  match shape.readText.run (.ofText s) with
  | .ok (j, _) => .ok j
  | .error f => .error (f.inText s)

end Shape

end PatternSync.Wire
