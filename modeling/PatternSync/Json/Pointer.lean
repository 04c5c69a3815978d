import PatternSync.Json.Basic
import PatternSync.Text.Digits

/-!
# JSON pointers

A pointer names a place in a document by the keys and indices that lead to it. Reading follows
it; an edit sets or removes what it names, provided that the place around it exists.
-/

namespace PatternSync

/-- The keys and indices that lead to a place. -/
abbrev Pointer := List String

namespace Pointer

/-- Cuts a text at every slash. -/
def pieces : List Char → List (List Char)
  | [] => [[]]
  | c :: rest =>
    match pieces rest with
    | [] => [[c]]
    | piece :: more => if c = '/' then [] :: piece :: more else (c :: piece) :: more

/-- Within a token `~1` stands for a slash and `~0` for a tilde. -/
def unescape : List Char → List Char
  | '~' :: '1' :: rest => '/' :: unescape rest
  | '~' :: '0' :: rest => '~' :: unescape rest
  | c :: rest => c :: unescape rest
  | [] => []

/-- The pointer that a text spells: it is empty or starts with a slash. -/
def ofText? (s : String) : Option Pointer :=
  match s.toList with
  | [] => some []
  | '/' :: rest => some ((pieces rest).map fun p => String.ofList (unescape p))
  | _ => none

/-- The index that a token spells: digits without a zero in front. -/
def index? (token : String) : Option Nat :=
  match token.toList with
  | [] => none
  | ['0'] => some 0
  | '0' :: _ => none
  | cs => if cs.all Char.isDigit then some (Text.digitsValue cs) else none

end Pointer

namespace Json

/-- The part of a value that one token names. -/
def child? (j : Json) (token : String) : Option Json :=
  match j with
  | .obj members => Keyed.get? members token
  | .arr items => (Pointer.index? token).bind (items[·]?)
  | _ => none

/-- The part of a value that a pointer names. -/
def at? (j : Json) : Pointer → Option Json
  | [] => some j
  | token :: rest => (j.child? token).bind (at? · rest)

/-- The text at a place, empty when there is none. -/
def textAt (j : Json) (p : Pointer) : String :=
  ((j.at? p).bind text?).getD ""

/-- Puts a value in the place of an existing part. -/
def replaceChild (j : Json) (token : String) (value : Json) : Json :=
  match j with
  | .obj members => .obj (Keyed.put token value members)
  | .arr items =>
    match Pointer.index? token with
    | some i => .arr (items.set i value)
    | none => j
  | _ => j

/-- Sets a member or an existing item; `-` names the place behind the last item. -/
def setChild? (j : Json) (token : String) (value : Json) : Option Json :=
  match j with
  | .obj members => some (.obj (Keyed.put token value members))
  | .arr items =>
    if token = "-" then some (.arr (items ++ [value]))
    else (Pointer.index? token).bind fun i =>
      if i < items.length then some (.arr (items.set i value)) else none
  | _ => none

/-- Adds a member, or an item in front of the one that the token names. -/
def addChild? (j : Json) (token : String) (value : Json) : Option Json :=
  match j with
  | .obj members => some (.obj (Keyed.put token value members))
  | .arr items =>
    if token = "-" then some (.arr (items ++ [value]))
    else (Pointer.index? token).bind fun i =>
      if i ≤ items.length then some (.arr (items.take i ++ value :: items.drop i)) else none
  | _ => none

/-- Removes an existing member or item. -/
def removeChild? (j : Json) (token : String) : Option Json :=
  match j with
  | .obj members =>
    if (Keyed.get? members token).isSome then some (.obj (Keyed.erase token members)) else none
  | .arr items =>
    (Pointer.index? token).bind fun i =>
      if i < items.length then some (.arr (items.eraseIdx i)) else none
  | _ => none

/-- Changes the value around the place that a pointer names by `change`, which gets the last
token. Nothing if the value around it does not exist or refuses. -/
def changeAround? (change : Json → String → Option Json) (j : Json) : Pointer → Option Json
  | [] => none
  | [token] => change j token
  | token :: rest =>
    (j.child? token).bind fun part =>
      (changeAround? change part rest).map (j.replaceChild token)

/-- Sets or, without a value, removes what the pointer names. The empty pointer names the whole
value. -/
def edit? (j : Json) (p : Pointer) (value : Option Json) : Option Json :=
  match p, value with
  | [], v => some (orNull v)
  | p, some v => j.changeAround? (fun around token => around.setChild? token v) p
  | p, none => j.changeAround? removeChild? p

end Json

end PatternSync
