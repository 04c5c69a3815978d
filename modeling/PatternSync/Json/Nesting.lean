import PatternSync.Json.Lexeme

/-!
# Lists and objects of a JSON text

What stands between the values of a JSON text: brackets, commas, keys and colons; and skipping a
value with all its parts. Reading has a limit on how deep lists and objects are nested, skipping has
none.
-/

namespace PatternSync.Scan

/-! ## Entries -/

/-- Whether another item of a list follows, before which the cursor then stands; `first` tells
whether it would be the first one. -/
def nextItem (first : Bool) : Scan Bool := do
  gap
  match ← peek with
  | none => fail .endInList
  | some ']' => return false
  | some c =>
    if first then return true
    if c ≠ ',' then failNext .listCommaMissing
    skip
    gap
    match ← peek with
    | none => fail .endInValue
    | some ']' => failNext .trailingComma
    | some _ => return true

/-- Whether another key of an object follows, before which the cursor then stands; `first` tells
whether it would be the first one. -/
def nextKey (first : Bool) : Scan Bool := do
  gap
  match ← peek with
  | none => fail .endInObject
  | some '}' => return false
  | some c =>
    if !first then
      if c ≠ ',' then failNext .objectCommaMissing
      skip
      gap
    match ← peek with
    | none => fail .endInValue
    | some '"' => return true
    | some '}' => failNext .trailingComma
    | some _ => failNext .keyNoString

def colon : Scan Unit := do
  gap
  match ← peek with
  | none => fail .endInObject
  | some ':' => skip
  | some _ => failNext .colonMissing

/-! ## Ends -/

/-- Goes behind the end of a list if it stands here, and else as far as the next item. -/
def approachListEnd : Scan Unit := do
  gap
  match ← peek with
  | some ']' => skip
  | some ',' => skip; gap
  | _ => return

/-- Goes behind the end of an object if it stands here. -/
def approachObjectEnd : Scan Unit := do
  gap
  if ← sees (· == '}') then skip

/-- The end of a list of which no item is left to read. -/
def listEnd : Scan Unit := do
  gap
  match ← peek with
  | none => fail .endInList
  | some ']' => skip
  | some ',' =>
    skip
    gap
    failNext (if ← sees (· == ']') then .trailingComma else .trailingText)
  | some _ => failNext .trailingText

/-- The end of an object of which no member is left to read. -/
def objectEnd : Scan Unit := do
  gap
  match ← peek with
  | none => fail .endInObject
  | some '}' => skip
  | some ',' => failNext .trailingComma
  | some _ => failNext .trailingText

/-! ## Skipping -/

/-- What an open bracket has opened. -/
inductive Frame where
  | list
  | object
  deriving DecidableEq

namespace Frame

def closing : Frame → Char
  | list => ']'
  | object => '}'

/-- The text ends within it. -/
def endProblem : Frame → SyntaxProblem
  | list => .endInList
  | object => .endInObject

/-- Neither a comma nor its end follows an entry. -/
def commaProblem : Frame → SyntaxProblem
  | list => .listCommaMissing
  | object => .objectCommaMissing

end Frame

def skipKey : Scan Unit := do
  gap
  match ← peek with
  | none => fail .endInObject
  | some '"' => skipString; colon
  | some _ => failNext .keyNoString

mutual

/-- Skips a value and what is left of the lists and objects around it, the innermost first. -/
def skipWithin : Nat → List Frame → Scan Unit
  | 0, _ => fail .endInValue
  | steps + 1, frames => do
    gap
    match ← peek with
    | some '[' => skip; skipBehind steps true (.list :: frames)
    | some '{' => skip; skipBehind steps true (.object :: frames)
    | _ => skipPlain; skipBehind steps false frames

/-- Skips what is left of lists and objects; `fresh` tells whether the innermost has just been
opened. -/
def skipBehind : Nat → Bool → List Frame → Scan Unit
  | _, _, [] => return
  | 0, _, frame :: _ => fail frame.endProblem
  | steps + 1, fresh, frame :: frames => do
    gap
    match ← peek with
    | none => fail frame.endProblem
    | some c =>
      if c = frame.closing then
        skip
        skipBehind steps false frames
      else
        if !fresh then
          if c ≠ ',' then failNext frame.commaProblem
          skip
        if frame = .object then skipKey
        skipWithin steps (frame :: frames)

end

def skipValue : Scan Unit := do
  skipWithin (2 * (← steps)) []

end PatternSync.Scan
