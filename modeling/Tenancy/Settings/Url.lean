import Tenancy.Settings.Host

/-!
# URLs

A `Url` holds the parts of a URL as they are written, percent signs included. Blanks around a URL
and tabs and line ends within it do not belong to it; all that such a break can do is to end the
name of a drive.

How the parts are told apart depends on the scheme. The schemes of the web and of files take a
backslash for a slash and always have a path, and those of the web cannot do without a host.
-/

namespace Tenancy

/-- What kind of schemes there are. -/
inductive SchemeKind where
  | file
  | web
  | other
deriving DecidableEq, Repr

namespace SchemeKind

def ofScheme (scheme : List Char) : SchemeKind :=
  let name := String.ofList scheme
  if name = "file" then .file
  else if ["http", "https", "ws", "wss", "ftp"].contains name then .web
  else .other

/-- A slash, or what counts as one. -/
def isSlash (kind : SchemeKind) (c : Char) : Bool := c == '/' || (kind != .other && c == '\\')

end SchemeKind

/-- The parts of a URL. -/
structure Url where
  scheme : List Char
  user : List Char
  password : Option (List Char)
  host : Option (List Char)
  port : Option Nat
  path : List Char
  query : List Char
deriving DecidableEq, Repr

namespace Url

/-- A space or a control character. -/
def isControlOrSpace (c : Char) : Bool := c.toNat ≤ 0x20

/-- The text without controls and spaces at its ends. -/
def trimmed (s : String) : List Char :=
  ((s.toList.dropWhile isControlOrSpace).reverse.dropWhile isControlOrSpace).reverse

/-- A tab or a line end. -/
def isBreak (c : Char) : Bool := c == '\t' || c == '\n' || c == '\r'

def withoutBreaks (cs : List Char) : List Char := cs.filter (!isBreak ·)

/-- The characters before the first one of a kind, and the rest from it on. -/
def spanTo (p : Char → Bool) (cs : List Char) : List Char × List Char :=
  (cs.takeWhile (!p ·), cs.dropWhile (!p ·))

def isLetter (c : Char) : Bool := ('a' ≤ c && c ≤ 'z') || ('A' ≤ c && c ≤ 'Z')

def isSchemeChar (c : Char) : Bool :=
  isLetter c || Text.isDigit c || c == '+' || c == '-' || c == '.'

/-- The scheme before the first colon, and the rest after it. -/
def readScheme (cs : List Char) : Except UrlFault (List Char × List Char) :=
  let (scheme, rest) := spanTo (· == ':') cs
  match withoutBreaks scheme, rest with
  | c :: scheme, _ :: rest =>
    if isLetter c && scheme.all isSchemeChar then .ok ((c :: scheme).map Char.toLower, rest)
    else .error .noScheme
  | _, _ => .error .noScheme

/-! ## Paths -/

/-- A segment that stands for the directory itself. -/
def isHere (segment : List Char) : Bool :=
  [".", "%2e"].contains (String.ofList segment).toLower

/-- A segment that stands for the directory above. -/
def isAbove (segment : List Char) : Bool :=
  ["..", ".%2e", "%2e.", "%2e%2e"].contains (String.ofList segment).toLower

/-- A letter with a colon or a bar, the name of a drive; a backslash may follow it. -/
def isDrive : List Char → Bool
  | c :: mark :: rest =>
    isLetter c && (mark == ':' || mark == '|') && (rest.isEmpty || rest.head? == some '\\')
  | _ => false

/-- The directory above the one of these segments, the last of which comes first. No path leads
out of a drive. -/
def above : List (List Char) → List (List Char)
  | [] => []
  | last :: rest => if isDrive last then last :: rest else rest

/-- The path of a file has a colon in the name of its drive. -/
def writeSegment (kind : SchemeKind) (kept : List (List Char)) (segment : List Char) : List Char :=
  if kind = .file && kept.isEmpty && isDrive segment then
    match segment with
    | [c, _] => [c, ':']
    | _ => segment
  else segment

/-- The drive at the beginning of a segment that goes on behind a break, and the rest of the
segment. -/
def splitDrive? (segment : List Char) : Option (List Char × List Char) :=
  match segment.dropWhile isBreak with
  | c :: rest => match rest.dropWhile isBreak with
    | ':' :: rest =>
      let behind := withoutBreaks rest
      if isLetter c && rest.head?.any isBreak && !behind.isEmpty then some ([c, ':'], behind)
      else none
    | _ => none
  | [] => none

/-- Goes from the directory of the segments `kept`, the last of which comes first, to the one that
the next segment names. -/
def enter (kind : SchemeKind) (kept : List (List Char)) (segment : List Char) :
    List (List Char) :=
  match if kind = .file && kept.isEmpty then splitDrive? segment else none with
  | some (drive, behind) => [behind, drive]
  | none =>
    let segment := withoutBreaks segment
    if isAbove segment then above kept
    else if isHere segment then kept
    else writeSegment kind kept segment :: kept

/-- Resolves the segments of a path; `kept` are those before them in reverse order. A path that
ends with a segment that stands for a directory ends with a slash. -/
def resolveSegments (kind : SchemeKind) (kept : List (List Char)) :
    List (List Char) → List (List Char)
  | [] => kept.reverse
  | [last] =>
    let isDirectory := isAbove (withoutBreaks last) || isHere (withoutBreaks last)
    ((if isDirectory then [[]] else []) ++ enter kind kept last).reverse
  | segment :: rest => resolveSegments kind (enter kind kept segment) rest

/-- The path with its segments resolved, from what stands behind its first slash. -/
def resolvePath (kind : SchemeKind) (cs : List Char) : List Char :=
  let cs := cs.map fun c => if kind.isSlash c then '/' else c
  (resolveSegments kind [] (Text.pieces '/' cs)).flatMap fun segment => '/' :: segment

/-- The text of the path and the query of what comes behind the authority; a fragment is
dropped. -/
def splitPath (cs : List Char) : List Char × List Char :=
  let (front, _) := spanTo (· == '#') cs
  let (path, query) := spanTo (· == '?') front
  (path, withoutBreaks (query.drop 1))

/-- The text without a slash at its beginning. -/
def dropSlash (kind : SchemeKind) (cs : List Char) : List Char :=
  let rest := cs.dropWhile isBreak
  if rest.head?.any kind.isSlash then rest.drop 1 else cs

/-! ## Authorities -/

/-- Ends the authority of a URL. -/
def endsAuthority (kind : SchemeKind) (c : Char) : Bool := kind.isSlash c || c == '?' || c == '#'

/-- The user, the password and the rest, split at the last at-sign. -/
def splitUser (authority : List Char) : Option (List Char) × List Char :=
  if authority.contains '@' then
    let (host, user) := spanTo (· == '@') authority.reverse
    (some (user.drop 1).reverse, host.reverse)
  else (none, authority)

/-- The host and what follows it. The colons of an address of version 6 are its own. -/
def splitHost : List Char → List Char × List Char
  | '[' :: inner =>
    let (address, rest) := spanTo (· == ']') inner
    ('[' :: address ++ rest.take 1, rest.drop 1)
  | cs => spanTo (· == ':') cs

/-- Reads the port behind a host, and what follows it, which begins with a backslash if there is
anything. Without any digits there is no port. -/
def readPort (cs : List Char) : Except UrlFault (Option Nat × List Char) :=
  match cs with
  | [] => .ok (none, [])
  | ':' :: cs =>
    let (digits, rest) := spanTo (!Text.isDigit ·) cs
    if rest.head?.any (· != '\\') || 2 ^ 16 ≤ Text.digitsValue digits then .error .badPort
    else .ok (if digits.isEmpty then none else some (Text.digitsValue digits), rest)
  | _ => .error .badPort

/-- The port that a scheme has without saying so. -/
def standardPort? (scheme : List Char) : Option Nat :=
  let name := String.ofList scheme
  if name = "http" || name = "ws" then some 80
  else if name = "https" || name = "wss" then some 443
  else if name = "ftp" then some 21
  else none

/-- Reads the authority and what follows it. A user needs a host, unless it has neither a name nor
a password. -/
def ofAuthority (kind : SchemeKind) (scheme cs : List Char) : Except UrlFault Url := do
  let (authority, rest) := spanTo (endsAuthority kind) cs
  let (user, place) := splitUser authority
  let (host, behind) := splitHost place
  let named := match user with
    | none => false
    | some [] => !rest.isEmpty
    | some user => user != [':']
  if host.isEmpty && (kind = .web || named || !behind.isEmpty) then throw .emptyHost
  let host ← Host.read (kind = .web) host
  let (port, behind) ← readPort behind
  let (name, password) := spanTo (· == ':') (user.getD [])
  let (path, query) := splitPath (behind ++ rest)
  pure
    { scheme
      user := name
      password := if password.isEmpty then none else some (password.drop 1)
      host := if host.isEmpty then none else some host
      port := port.filter (standardPort? scheme != some ·)
      path := if kind = .other && path.isEmpty then [] else resolvePath kind (dropSlash kind path)
      query }

/-! ## Files -/

/-- The URL of a file with this host and path. A path that begins with a drive needs no host,
unless it is only a break that ends the name of the drive. -/
def ofFilePath (host : Option (List Char)) (path query : List Char) : Url :=
  let unbroken := resolvePath .file (withoutBreaks path)
  let host := if (Text.pieces '/' (unbroken.drop 1)).head?.any isDrive then none else host
  ⟨"file".toList, [], none, host, none, resolvePath .file path, query⟩

/-- Reads the host of a file, if there is one other than this machine, and its path. Behind a host
that is this machine the slash of the path counts as a segment, so no drive comes first there. -/
def ofFilePlace (cs : List Char) : Except UrlFault Url := do
  let (host, rest) := spanTo (endsAuthority .file) cs
  let (path, query) := splitPath rest
  let host := withoutBreaks host
  if isDrive host then
    let (path, query) := splitPath cs
    pure (ofFilePath none path query)
  else
    let host ← if host.isEmpty then pure [] else Host.read true host
    if host.isEmpty || host = "localhost".toList then pure (ofFilePath none path query)
    else pure (ofFilePath (some host) (dropSlash .file path) query)

/-- Reads the URL of a file behind its scheme. -/
def ofFile (cs : List Char) : Except UrlFault Url :=
  let slashes := (withoutBreaks cs).takeWhile SchemeKind.file.isSlash
  if 2 ≤ slashes.length then ofFilePlace (dropSlash .file (dropSlash .file cs))
  else
    let (path, query) := splitPath cs
    .ok (ofFilePath none (dropSlash .file path) query)

/-! ## Whole URLs -/

/-- The URL that the text writes. -/
def ofText (s : String) : Except UrlFault Url := do
  let (scheme, rest) ← readScheme (trimmed s)
  match SchemeKind.ofScheme scheme, withoutBreaks rest with
  | .file, _ => ofFile rest
  | .web, rest => ofAuthority .web scheme (rest.dropWhile SchemeKind.web.isSlash)
  | .other, '/' :: '/' :: rest => ofAuthority .other scheme rest
  | .other, rest =>
    let (path, query) := splitPath rest
    let path := match path with
      | '/' :: path => resolvePath .other path
      | _ => path
    pure ⟨scheme, [], none, none, none, path, query⟩

/-! ## Parameters -/

/-- The text of one side of a parameter: a plus sign is a space. -/
def parameterText (cs : List Char) : String :=
  Text.ofBytesReplacing (Text.percentDecode (cs.map fun c => if c = '+' then ' ' else c))

/-- The parameters of the query in their order. -/
def parameters (u : Url) : List (String × String) :=
  ((Text.pieces '&' u.query).filter (!·.isEmpty)).map fun pair =>
    let (name, value) := spanTo (· == '=') pair
    (parameterText name, parameterText (value.drop 1))

end Url

end Tenancy
