import PatternSync.Json.Basic

/-!
# Merge patches

A merge patch is an object whose members replace those of the value it is applied to: a null
removes the member, an object is merged into it, and any other value takes its place. A patch that
is no object replaces the whole value.
-/

namespace PatternSync.Json

mutual

/-- The value after the patch. -/
def merge (target : Json) : Json → Json
  | .obj changes => .obj (mergeMembers target.members changes)
  | .null => .null
  | .bool b => .bool b
  | .num n => .num n
  | .str s => .str s
  | .arr items => .arr items

/-- The members after the changes of a patch, applied one after another. -/
def mergeMembers (members : Keyed Json) : List (String × Json) → Keyed Json
  | [] => members
  | (key, change) :: rest =>
    mergeMembers
      (if change.isNull then Keyed.erase key members
       else Keyed.put key (merge ((Keyed.get? members key).getD .null) change) members)
      rest

end

end PatternSync.Json
