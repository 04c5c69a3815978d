import PatternSync.Text.LetterCase

/-!
# Lower-casing a text

Every character is replaced by its lower case. A capital sigma becomes the final form when a
cased letter comes before it and none after it, where case-ignorable characters do not count.
-/

namespace PatternSync.Text

/-- Whether the first character that is not case-ignorable is a cased letter. -/
def startsCased (cs : List Char) : Bool :=
  match cs.dropWhile isCaseIgnorable with
  | [] => false
  | c :: _ => isCased c

/-- Lower-cases `rest`; `before` holds the characters in front of it, the nearest first. -/
def lowercaseAfter (before : List Char) : List Char → List Char
  | [] => []
  | c :: rest =>
    (if c == 'Σ' then
      [if startsCased before && !startsCased rest then 'ς' else 'σ']
    else lowerChar c) ++ lowercaseAfter (c :: before) rest

def lowercase (s : String) : String :=
  String.ofList (lowercaseAfter [] s.toList)

end PatternSync.Text
