import PatternSync.Json.Same

/-!
# YAML values

What nodes stand for. Beyond the values of JSON there are numbers that are not finite, keys of any
kind, and values with a tag.
-/

namespace PatternSync.Yaml

inductive Value where
  | null
  | bool (value : Bool)
  | num (value : Number)
  | infinity (negative : Bool)
  | notNumber
  | text (value : String)
  | list (items : List Value)
  | map (entries : List (Value × Value))
  | tagged (tag : String) (content : Value)

namespace Value

mutual

/-- Whether two values are the same. The order of entries does not count. -/
def same : Value → Value → Bool
  | null, null => true
  | bool a, bool b => a == b
  | num a, num b => a.same b
  | infinity a, infinity b => a == b
  | notNumber, notNumber => true
  | text a, text b => a == b
  | list as, list bs => sameItems as bs
  | map as, map bs => as.length == bs.length && sameEntries as bs
  | tagged s a, tagged t b => s == t && a.same b
  | _, _ => false

def sameItems : List Value → List Value → Bool
  | [], [] => true
  | a :: as, b :: bs => a.same b && sameItems as bs
  | _, _ => false

/-- Whether all these entries are among others. -/
def sameEntries : List (Value × Value) → List (Value × Value) → Bool
  | [], _ => true
  | (key, value) :: rest, others =>
    others.any (fun (k, v) => key.same k && value.same v) && sameEntries rest others

end

/-- Whether no two of the values are the same. -/
def distinct : List Value → Bool
  | [] => true
  | v :: rest => !rest.any v.same && distinct rest

/-- The value without its tags. -/
def bare : Value → Value
  | tagged _ content => content.bare
  | v => v

/-- The text, if the value is one, with a tag or without. -/
def text? (v : Value) : Option String :=
  match v.bare with
  | text s => some s
  | _ => none

mutual

/-- The value as one of JSON. Keys have to be texts, and values must not have tags; numbers that
are not finite become null. -/
def json? : Value → Option Json
  | null => some .null
  | bool b => some (.bool b)
  | num n => some (.num n)
  | infinity _ => some .null
  | notNumber => some .null
  | text s => some (.str s)
  | list items => (jsonItems? items).map .arr
  | map entries => (jsonMembers? entries).map .object
  | tagged _ _ => none

def jsonItems? : List Value → Option (List Json)
  | [] => some []
  | item :: rest => do return (← item.json?) :: (← jsonItems? rest)

/-- The entries as members of an object. -/
def jsonMembers? : List (Value × Value) → Option (List (String × Json))
  | [] => some []
  | (key, value) :: rest => do
    return (← key.text?, ← value.json?) :: (← jsonMembers? rest)

end

end Value

end PatternSync.Yaml
