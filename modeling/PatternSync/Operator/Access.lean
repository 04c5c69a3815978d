import PatternSync.Api.Address
import PatternSync.Text.Certificate
import PatternSync.Yaml.Reading

/-!
# Access to the API server

The file that tells where the API server is and who asks it. The context in use names a cluster and
a user. Access is usable if everything in the file has its shape, if the server is there, and if
what proves the user can be had without another file or program. A file may hold several
documents, which add to each other.
-/

namespace PatternSync.Access

open Wire

/-! ## The file -/

/-- A text that may be null. -/
def wordShape : Shape :=
  .nullable .string

/-- A list of named entries, each with a part. -/
def entriesShape (part : String) (presence : Presence) (shape : Shape) : Shape :=
  .list (.record "entry" .lenient [("name", .required, .string), (part, presence, shape)])

/-- Settings of other programs. -/
def extensionsShape : Shape :=
  .nullable (entriesShape "extension" .required .anything)

/-- What is known of a cluster. -/
def clusterShape : Shape :=
  .record "cluster" .lenient
    [ ("server", .keyed, wordShape), ("insecure-skip-tls-verify", .keyed, .nullable .bool),
      ("certificate-authority", .keyed, wordShape),
      ("certificate-authority-data", .keyed, wordShape), ("proxy-url", .keyed, wordShape),
      ("tls-server-name", .keyed, wordShape), ("extensions", .keyed, extensionsShape) ]

/-- Who gives a user a token. -/
def providerShape : Shape :=
  .record "provider" .lenient
    [("name", .required, .string), ("config", .optional, .dict .string)]

/-- A program that gives a user a token. -/
def programShape : Shape :=
  .record "program" .lenient
    [ ("apiVersion", .keyed, wordShape), ("command", .keyed, wordShape),
      ("args", .keyed, .nullable (.list .string)),
      ("env", .keyed, .nullable (.list (.dict .string))),
      ("interactiveMode", .keyed, .nullable (.choice ["Never", "IfAvailable", "Always"])),
      ("provideClusterInfo", .optional, .bool) ]

/-- What is known of a user. -/
def userShape : Shape :=
  .record "user" .lenient
    [ ("username", .keyed, wordShape), ("password", .keyed, wordShape),
      ("token", .keyed, wordShape), ("tokenFile", .keyed, wordShape),
      ("client-certificate", .keyed, wordShape), ("client-certificate-data", .keyed, wordShape),
      ("client-key", .keyed, wordShape), ("client-key-data", .keyed, wordShape),
      ("as", .keyed, wordShape), ("as-groups", .keyed, .nullable (.list .string)),
      ("auth-provider", .keyed, .nullable providerShape),
      ("exec", .keyed, .nullable programShape) ]

/-- A cluster and a user that belong together. -/
def contextShape : Shape :=
  .record "context" .lenient
    [ ("cluster", .required, .string), ("user", .required, .string),
      ("namespace", .keyed, wordShape), ("extensions", .keyed, extensionsShape) ]

/-- A document of the file. -/
def shape : Shape :=
  .record "access file" .lenient
    [ ("preferences", .keyed, .nullable (.record "preferences" .lenient
        [("colors", .keyed, .nullable .bool), ("extensions", .keyed, extensionsShape)])),
      ("clusters", .optional, entriesShape "cluster" .keyed (.nullable clusterShape)),
      ("users", .optional, entriesShape "user" .keyed (.nullable userShape)),
      ("contexts", .optional, entriesShape "context" .keyed (.nullable contextShape)),
      ("current-context", .keyed, wordShape), ("extensions", .keyed, extensionsShape),
      ("kind", .keyed, wordShape), ("apiVersion", .keyed, wordShape) ]

/-! ## Looking things up -/

/-- The text of a member. -/
def word? (j : Json) (name : String) : Option String :=
  (j.member? name).bind Json.text?

/-- The texts that the documents have for a member. -/
def words (file : List Json) (name : String) : List String :=
  file.filterMap (word? · name)

/-- Whether the documents do not contradict each other in a member. -/
def agrees (file : List Json) (name : String) : Bool :=
  match words file name with
  | [] => true
  | s :: rest => rest.all (· = s)

/-- The part of the first entry with a name in one of the lists. -/
def part? (file : List Json) (entries name part : String) : Option Json := do
  let items := file.flatMap fun document => ((document.member? entries).bind Json.items?).getD []
  let entry ← items.find? fun entry => word? entry "name" = some name
  let found ← entry.member? part
  if found.isNull then none else some found

/-! ## The cluster -/

def isAddress (s : String) : Bool :=
  (Address.ofText s).isOk

/-- Whether the certificates of the authority are at hand and sound, if there are any. -/
def trustsSoundly (cluster : Json) : Bool :=
  match word? cluster "certificate-authority-data" with
  | some data => (Text.base64? data).any Text.hasSoundCertificates
  | none => (word? cluster "certificate-authority").isNone

/-- Whether the server of the cluster can be asked. -/
def canReach (cluster : Json) : Bool :=
  (word? cluster "server").any isAddress
    && (word? cluster "proxy-url").all (fun s => s = "" || isAddress s)
    && trustsSoundly cluster

/-! ## The user -/

/-- Whether the text may stand in the head of a request. -/
def isHeadText (s : String) : Bool :=
  s.toList.all fun c => c = '\t' || (0x20 ≤ c.toNat && c.toNat ≠ 0x7F)

/-- Whether a provider has left a token that can be used. One that comes with its end has to be
good for another minute. -/
def providesToken (now : Instant) (provider : Json) : Bool :=
  let setting? (name : String) := (provider.member? "config").bind (word? · name)
  let lasts (s : String) :=
    match Instant.ofText s with
    | .ok t => (now.addMinutes 1).isBefore t
    | .error _ => false
  match word? provider "name", setting? "id-token" with
  | some "oidc", some token => isHeadText token
  | some "gcp", some token => isHeadText token
  | some "gcp", none => (setting? "access-token").isSome && (setting? "expiry").any lasts
  | _, _ => false

def has (user : Json) (name : String) : Bool :=
  (user.member? name).any (!·.isNull)

/-- Whether what proves the user is at hand: a token of a provider, name and password, or a token
that stands in the file. Nothing will do as well. -/
def isProven (now : Instant) (user : Json) : Bool :=
  if has user "auth-provider" then (user.member? "auth-provider").any (providesToken now)
  else if has user "username" && has user "password" then true
  else
    match word? user "token" with
    | some token => isHeadText token
    | none => !has user "tokenFile" && !has user "exec"

def hasOwnKey (user : Json) : Bool :=
  ["client-certificate-data", "client-key-data"].all fun name =>
    ((word? user name).bind Text.base64?).isSome

/-- The names of those in whose place the user asks. -/
def representedNames (user : Json) : List String :=
  (word? user "as").toList
    ++ (((user.member? "as-groups").bind Json.items?).getD []).filterMap Json.text?

/-- Whether requests can be made as the user. -/
def canAsk (now : Instant) (user : Json) : Bool :=
  isProven now user && !hasOwnKey user && (representedNames user).all isHeadText

/-! ## The context in use -/

def leadsToServer (now : Instant) (file : List Json) : Bool :=
  (do
    let current ← (words file "current-context").head?
    let context ← part? file "contexts" current "context"
    let cluster ← part? file "clusters" (← word? context "cluster") "cluster"
    let user ← part? file "users" (← word? context "user") "user"
    return canReach cluster && canAsk now user).getD false

/-- Whether the text of the file gives access at a time. A mark of the order of bytes in front of
it does not count. -/
def isUsable (now : Instant) (text : String) : Bool :=
  let cs := text.toList
  let cs := if cs.head? = some Yaml.byteOrderMark then cs.drop 1 else cs
  match shape.ofYamlText? (String.ofList cs) with
  | none => false
  | some file => agrees file "kind" && agrees file "apiVersion" && leadsToServer now file

end PatternSync.Access
