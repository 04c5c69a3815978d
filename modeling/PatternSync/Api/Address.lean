/-!
# Addresses

An address names a resource of a server: in full by scheme, authority, path and query, or by path
and query alone to a server that is known. Every part has characters of its own, and what follows a
number sign does not belong to the address.
-/

namespace PatternSync

structure Address where
  scheme : Option String := none
  /-- The server, with a user in front and a port behind, if they are named. -/
  authority : Option String := none
  path : String
  query : Option String := none
  deriving DecidableEq

/-- Why a text is no address. -/
inductive AddressProblem where
  | empty
  | tooLong
  | schemeTooLong
  | badCharacter
  | badAuthority
  /-- There is no server, or something behind a server alone. -/
  | badForm
  deriving DecidableEq, Repr

namespace AddressProblem

def message : AddressProblem → String
  | empty => "empty string"
  | tooLong => "uri too long"
  | schemeTooLong => "scheme too long"
  | badCharacter => "invalid uri character"
  | badAuthority => "invalid authority"
  | badForm => "invalid format"

def debug : AddressProblem → String
  | empty => "Empty"
  | tooLong => "TooLong"
  | schemeTooLong => "SchemeTooLong"
  | badCharacter => "InvalidUriChar"
  | badAuthority => "InvalidAuthority"
  | badForm => "InvalidFormat"

end AddressProblem

namespace Address

/-! ## Characters -/

def isPathChar (c : Char) : Bool :=
  let n := c.toNat
  (0x21 ≤ n && n ≤ 0x3B && n != 0x23) || n == 0x3D || (0x40 ≤ n && n ≤ 0x5F)
    || (0x61 ≤ n && n ≤ 0x7E)

def isQueryChar (c : Char) : Bool :=
  let n := c.toNat
  n == 0x21 || (0x24 ≤ n && n ≤ 0x3B) || n == 0x3D || (0x3F ≤ n && n ≤ 0x7E)

def isSchemeChar (c : Char) : Bool :=
  c.isAlphanum || c == '+' || c == '-' || c == '.' || c == '~'

/-- Whether the character may stand in an authority without a meaning of its own there. -/
def isAuthorityChar (c : Char) : Bool :=
  c.isAlphanum || "!$&'()*+,-.;=_~".toList.contains c

def endsAuthority (c : Char) : Bool :=
  c == '/' || c == '?' || c == '#'

/-! ## Parts -/

/-- The path and the query at the end of an address. -/
def resource (cs : List Char) : Except AddressProblem (String × Option String) :=
  let cs := cs.takeWhile (· ≠ '#')
  let path := cs.takeWhile (· ≠ '?')
  let query := (cs.dropWhile (· ≠ '?')).drop 1
  if path.all isPathChar ∧ query.all isQueryChar then
    .ok (String.ofList path,
      if path.length < cs.length then some (String.ofList query) else none)
  else .error .badCharacter

/-- The scheme in front of an address, if there is one, and what follows it. -/
def splitScheme (cs : List Char) : Except AddressProblem (Option String × List Char) :=
  let name := cs.takeWhile isSchemeChar
  match cs.drop name.length with
  | ':' :: '/' :: '/' :: rest =>
    if name.length ≤ 64 then .ok (some (String.ofList name), rest) else .error .schemeTooLong
  | _ => .ok (none, cs)

/-- What the part of an authority read so far holds: the colons and whether there is a percent sign
since the last user or bracket, and whether a bracket was opened and closed. -/
structure AuthorityMarks where
  colons : Nat := 0
  percent : Bool := false
  opened : Bool := false
  closed : Bool := false

/-- Whether what follows the part with these marks makes up an authority with it. One pair of
brackets may enclose a host, a user stands in front of an at sign, and percent signs are for them
only; at most one colon is left for the port. -/
def checkAuthority (marks : AuthorityMarks) : List Char → Except AddressProblem Unit
  | [] =>
    if marks.opened = marks.closed ∧ marks.colons ≤ 1 ∧ !marks.percent then .ok ()
    else .error .badAuthority
  | ':' :: rest =>
    if marks.colons < 8 then checkAuthority { marks with colons := marks.colons + 1 } rest
    else .error .badAuthority
  | '[' :: rest =>
    if marks.percent || marks.opened then .error .badAuthority
    else checkAuthority { marks with opened := true } rest
  | ']' :: rest =>
    if marks.opened && !marks.closed then
      checkAuthority { opened := true, closed := true } rest
    else .error .badAuthority
  | '@' :: rest =>
    if rest.isEmpty then .error .badAuthority
    else checkAuthority { marks with colons := 0, percent := false } rest
  | '%' :: rest => checkAuthority { marks with percent := true } rest
  | c :: rest => if isAuthorityChar c then checkAuthority marks rest else .error .badCharacter

/-! ## Reading -/

/-- The greatest number of bytes of an address. -/
def sizeLimit : Nat := 65534

/-- An address that starts with a scheme or an authority. Without a scheme nothing follows the
authority; with one the path is never empty. -/
def ofServerText (cs : List Char) : Except AddressProblem Address := do
  let (scheme, rest) ← splitScheme cs
  let server := rest.takeWhile (!endsAuthority ·)
  checkAuthority {} server
  let authority := some (String.ofList server)
  let behind := rest.drop server.length
  match scheme with
  | none => if behind.isEmpty then return { authority, path := "" } else throw .badForm
  | some _ =>
    if server.isEmpty then throw .badForm
    let (path, query) ← resource behind
    return { scheme, authority, path := if path = "" then "/" else path, query }

def ofText (s : String) : Except AddressProblem Address := do
  if sizeLimit < s.utf8ByteSize then throw .tooLong
  match s.toList with
  | [] => throw .empty
  | ['*'] => return { path := "*" }
  | '/' :: rest =>
    let (path, query) ← resource ('/' :: rest)
    return { path, query }
  | cs => ofServerText cs

end Address

end PatternSync
