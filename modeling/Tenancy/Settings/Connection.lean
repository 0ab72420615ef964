import Tenancy.Error
import Tenancy.Settings.Database
import Tenancy.Settings.Url

/-!
# Options of a connection

What a URL says about the connection to a database server. Its path names the database, its
parameters can override all other parts, and the time limit for statements travels in the
options that the server gets when the connection starts.
-/

namespace Tenancy

/-- Where a connection goes and what the server is told when it starts. -/
structure ConnectionOptions where
  host : String
  port : Nat
  user : String
  database : Option String
  options : Option String
deriving DecidableEq, Repr

namespace ConnectionOptions

/-- The options for a user of this host. -/
def standard (user : String) : ConnectionOptions := ⟨"localhost", 5432, user, none, none⟩

/-! ## Startup options -/

/-- Adds startup options behind those there are. -/
def appending (c : ConnectionOptions) (text : String) : ConnectionOptions :=
  { c with options := some (match c.options with
      | some before => before ++ " " ++ text
      | none => text) }

/-- Adds a startup option that sets a parameter of the session. -/
def setting (c : ConnectionOptions) (name value : String) : ConnectionOptions :=
  let text := "-c " ++ name ++ "=" ++ value
  if c.options == some "" then { c with options := some text } else c.appending text

/-! ## Parameters of the URL -/

/-- The ways to use encryption. -/
def encryptionModes : List String :=
  ["disable", "allow", "prefer", "require", "verify-ca", "verify-full"]

/-- The parameter that the name sets in brackets behind `options`. -/
def sessionParameter? (name : String) : Option String :=
  let cs := name.toList
  if "options[".toList.isPrefixOf cs && cs.getLast? == some ']' then
    some (String.ofList ((cs.drop 8).dropLast))
  else none

/-- Applies one parameter; parameters without a meaning here are passed over. -/
def applyParameter (c : ConnectionOptions) (name value : String) :
    Except String ConnectionOptions :=
  if name = "sslmode" || name = "ssl-mode" then
    if encryptionModes.contains value.toLower then .ok c
    else .error ("unknown value " ++ Text.quoted value ++ " for ssl_mode")
  else if name = "statement-cache-capacity" then
    if (Setting.readNat? Setting.limit64 value).isSome then .ok c
    else .error "invalid digit found in string"
  else if name = "host" then
    -- A path names a socket, which takes the place of the host.
    .ok (if value.startsWith "/" then c else { c with host := value })
  else if name = "hostaddr" then
    if Address.isAddress value then .ok { c with host := value }
    else .error "invalid IP address syntax"
  else if name = "port" then
    match Setting.readNat? (2 ^ 16 - 1) value with
    | some port => .ok { c with port := port }
    | none => .error "invalid digit found in string"
  else if name = "dbname" then .ok { c with database := some value }
  else if name = "user" then .ok { c with user := value }
  else if name = "options" then .ok (c.appending value)
  else match sessionParameter? name with
    | some parameter => .ok (c.setting parameter value)
    | none => .ok c

/-! ## Parts of the URL -/

/-- The text that a part of a URL stands for. -/
def decodePart (cs : List Char) : Except String String :=
  match Text.ofBytes? (Text.percentDecode cs) with
  | some text => .ok text
  | none => .error "invalid utf-8 sequence"

/-- A host that stands for a path names a socket, which takes the place of the host. -/
def applyHost (c : ConnectionOptions) (host : List Char) : Except String ConnectionOptions :=
  if (Text.percentDecode host).head? == some 0x2f then do
    let _ ← decodePart host
    pure c
  else pure { c with host := String.ofList host }

/-- The options that a URL adds to the standard ones of a user. -/
def ofUrl (user : String) (url : Url) : Except String ConnectionOptions := do
  let c := standard user
  let c ← match url.host with
    | some host => c.applyHost host
    | none => pure c
  let c := { c with port := url.port.getD c.port }
  let c ← if url.user.isEmpty then pure c else pure { c with user := ← decodePart url.user }
  let _ ← decodePart (url.password.getD [])
  let path := url.path.dropWhile (· == '/')
  let c ← if path.isEmpty then pure c else pure { c with database := some (← decodePart path) }
  url.parameters.foldlM (fun c (name, value) => c.applyParameter name value) c

/-- The options of the database settings, for the user under whose name the program runs. -/
def ofSettings (user : String) (settings : DatabaseSettings) :
    Except StoreError ConnectionOptions :=
  let read := match Url.ofText settings.url with
    | .ok url => ofUrl user url
    | .error fault => .error fault.text
  match read with
  | .error reason => .error (.configuration (.badUrl ("error with configuration: " ++ reason)))
  | .ok c => .ok (match settings.statementTimeout with
    | some timeout => c.setting "statement_timeout" (toString timeout.millis)
    | none => c)

end ConnectionOptions

end Tenancy
