import PatternSync.Json.Basic
import PatternSync.Text.Digits

/-!
# Documents as YAML

A document in block style: one entry a line, the content of an entry two columns further in, and
lists at the column of the entry they belong to. Texts stand plain where nothing else could be
read into them, over several lines if they have any, and in single quotes otherwise.
-/

namespace PatternSync.Json

/-! ## Texts -/

/-- Words that would be read as something else than a text. -/
def yamlWords : List String :=
  ["null", "Null", "NULL", "~", "true", "True", "TRUE", "false", "False", "FALSE", "y", "Y", "yes",
    "Yes", "YES", "n", "N", "no", "No", "NO", "on", "On", "ON", "off", "Off", "OFF", ".nan", ".NaN",
    ".NAN", ".inf", ".Inf", ".INF", "+.inf", "-.inf", "<<", "=", "---", "..."]

/-- Whether the text could be read as a number. -/
def looksNumeric (cs : List Char) : Bool :=
  let unsigned :=
    match cs with
    | '+' :: rest | '-' :: rest => rest
    | cs => cs
  match unsigned with
  | [] => false
  | c :: _ =>
    (c.isDigit || (c == '.' && unsigned.length > 1))
      && unsigned.all fun d => d.isDigit || d == '.' || d == 'e' || d == 'E' || d == '+' || d == '-'

/-- Characters with which no plain text starts. -/
def yamlIndicators : List Char :=
  ['-', '?', ':', ',', '[', ']', '\x7b', '\x7d', '#', '&', '*', '!', '|', '>', '\'', '"', '%', '@',
    Char.ofNat 96]

/-- Whether a colon or a number sign within the text would end it. -/
def hasBreak : List Char → Bool
  | ':' :: ' ' :: _ => true
  | [':'] => true
  | ' ' :: '#' :: _ => true
  | _ :: rest => hasBreak rest
  | [] => false

/-- Whether the text can stand plain. -/
def isPlain (s : String) : Bool :=
  let cs := s.toList
  match cs with
  | [] => false
  | c :: _ =>
    !yamlIndicators.contains c && c != ' ' && cs.getLast? != some ' ' && !hasBreak cs
      && !yamlWords.contains s && !looksNumeric cs && cs.all fun d => 0x20 ≤ d.toNat

/-- The text in single quotes, in which a quote is written twice. -/
def singleQuoted (s : String) : String :=
  String.ofList ('\'' :: s.toList.flatMap (fun c => if c == '\'' then ['\'', '\''] else [c])
    ++ ['\''])

/-- A column of so many blanks. -/
def indentation (n : Nat) : String :=
  String.ofList (List.replicate n ' ')

/-- A text with several lines, each of them further in than the entry. -/
def textBlock (indent : Nat) (s : String) : String :=
  "|-\n" ++ "\n".intercalate ((s.splitOn "\n").map fun line =>
    if line = "" then "" else indentation indent ++ line) ++ "\n"

/-- A text behind its key or dash, up to the end of the line. -/
def yamlText (indent : Nat) (s : String) : String :=
  if s.contains '\n' then textBlock indent s
  else if isPlain s then s ++ "\n"
  else singleQuoted s ++ "\n"

/-! ## Values -/

mutual

/-- A value behind its key. Lists stand at the column of the key, objects further in. -/
def yamlBehindKey (indent : Nat) : Json → String
  | .arr [] => " []\n"
  | .obj [] => " \x7b\x7d\n"
  | .arr items => "\n" ++ yamlItems indent items
  | .obj members => "\n" ++ indentation (indent + 2) ++ yamlMembers (indent + 2) members
  | .null => " null\n"
  | .bool b => " " ++ toString b ++ "\n"
  | .num n => " " ++ n.text ++ "\n"
  | .str s => " " ++ yamlText (indent + 2) s

/-- A value behind the dash of a list. -/
def yamlBehindDash (indent : Nat) : Json → String
  | .arr [] => "[]\n"
  | .obj [] => "\x7b\x7d\n"
  | .arr items => yamlNested (indent + 2) items
  | .obj members => yamlMembers (indent + 2) members
  | .null => "null\n"
  | .bool b => toString b ++ "\n"
  | .num n => n.text ++ "\n"
  | .str s => yamlText (indent + 2) s

/-- The items of a list, each on a line of its own. -/
def yamlItems (indent : Nat) : List Json → String
  | [] => ""
  | item :: rest =>
    indentation indent ++ "- " ++ yamlBehindDash indent item ++ yamlItems indent rest

/-- The items of a list that starts within a line. -/
def yamlNested (indent : Nat) : List Json → String
  | [] => ""
  | item :: rest => "- " ++ yamlBehindDash indent item ++ yamlItems indent rest

/-- The members of an object that starts within a line. -/
def yamlMembers (indent : Nat) : List (String × Json) → String
  | [] => ""
  | (key, value) :: rest =>
    (if isPlain key then key else singleQuoted key) ++ ":" ++ yamlBehindKey indent value
      ++ yamlMoreMembers indent rest

/-- Further members, each on a line of its own. -/
def yamlMoreMembers (indent : Nat) : List (String × Json) → String
  | [] => ""
  | (key, value) :: rest =>
    indentation indent ++ (if isPlain key then key else singleQuoted key) ++ ":"
      ++ yamlBehindKey indent value ++ yamlMoreMembers indent rest

end

def yaml : Json → String
  | .obj [] => "\x7b\x7d\n"
  | .arr [] => "[]\n"
  | .obj members => yamlMembers 0 members
  | .arr items => yamlItems 0 items
  | .null => "null\n"
  | .bool b => toString b ++ "\n"
  | .num n => n.text ++ "\n"
  | .str s => yamlText 2 s

end PatternSync.Json
