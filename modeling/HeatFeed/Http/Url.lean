import HeatFeed.Http.Host
import HeatFeed.Text.Blank
import HeatFeed.Text.Digits

/-!
# URLs

Absolute URLs. Reading a URL brings it into one form: the scheme in lower case, the host and the
port in their one form, a path without dot segments, and characters that may not stand in a part
written as octets. The schemes of the web and of files have rules of their own: both kinds of slash
separate, a path starts with a slash, and the usual port is left out.
-/

namespace HeatFeed.Http

/-- Why a text is not a URL. -/
inductive UrlFault where
  | relative
  | host (fault : HostFault)
  | port
  deriving DecidableEq

/-- The text of the fault. -/
def UrlFault.message : UrlFault → String
  | .relative => "relative URL without a base"
  | .host fault => fault.message
  | .port => "invalid port number"

/-- A URL: a host, if it has one, and a path that may be any text if it has none. -/
structure Url where
  scheme : String
  user : String
  password : String
  host : Option Host
  port : Option Nat
  path : String
  query : Option String
  fragment : Option String
  deriving DecidableEq

namespace Url

/-! ### Schemes -/

/-- The usual ports of the schemes of the web. -/
def usualPorts : List (String × Nat) :=
  [("http", 80), ("https", 443), ("ws", 80), ("wss", 443), ("ftp", 21)]

/-- The scheme of files. -/
def fileScheme : String := "file"

/-- Schemes with rules of their own. -/
def isSpecial (scheme : String) : Bool :=
  scheme == fileScheme || (usualPorts.lookup scheme).isSome

/-- The text without control characters and spaces at its ends, and without tabs and line ends. -/
def strip (s : String) : List Char :=
  let inner := Text.dropEndWhile (· ≤ ' ') (s.toList.dropWhile (· ≤ ' '))
  inner.filter fun c => c ≠ '\t' ∧ c ≠ '\n' ∧ c ≠ '\r'

/-- The scheme in lower case and what follows the colon. -/
def splitScheme (cs : List Char) : Option (String × List Char) :=
  let (scheme, rest) := cs.span fun c => c.isAlphanum || c == '+' || c == '-' || c == '.'
  match scheme, rest with
  | c :: _, ':' :: rest =>
    if c.isAlpha then some (String.ofList (scheme.map Char.toLower), rest) else none
  | _, _ => none

/-! ### Splitting -/

/-- What stands before the first `mark`, and what stands behind it. -/
def splitAt (mark : Char) (cs : List Char) : List Char × Option (List Char) :=
  match cs.span (· ≠ mark) with
  | (before, _ :: after) => (before, some after)
  | (before, []) => (before, none)

/-- What stands before the last `mark`, and what stands behind it. -/
def splitAtLast (mark : Char) (cs : List Char) : Option (List Char) × List Char :=
  match splitAt mark cs.reverse with
  | (after, some before) => (some before.reverse, after.reverse)
  | (all, none) => (none, all.reverse)

/-- The characters that separate the segments of a path. -/
def isSlash (special : Bool) (c : Char) : Bool := c == '/' || (special && c == '\\')

/-- The host and what follows it: a colon and the port. A colon in brackets belongs to the host. -/
def splitHost : Bool → List Char → List Char × Option (List Char)
  | _, [] => ([], none)
  | inBrackets, c :: cs =>
    if c = ':' ∧ !inBrackets then ([], some cs)
    else
      let (host, port) := splitHost (c == '[' || (inBrackets && c != ']')) cs
      (c :: host, port)

/-! ### Paths -/

/-- The segment that stands for its own place. -/
def isSingleDot (segment : List Char) : Bool :=
  let s := String.ofList (segment.map Char.toLower)
  s == "." || s == "%2e"

/-- The segment that stands for the place above. -/
def isDoubleDot (segment : List Char) : Bool :=
  let s := String.ofList (segment.map Char.toLower)
  s == ".." || s == ".%2e" || s == "%2e." || s == "%2e%2e"

/-- The segment that names a drive. -/
def isDrive : List Char → Bool
  | [c, d] => c.isAlpha && (d == ':' || d == '|')
  | _ => false

/-- The path above one, which does not leave a drive. -/
def above (path : List (List Char)) : List (List Char) :=
  if (path.getLast?.map isDrive).getD false then path else path.dropLast

/-- Adds a segment to a path. The path of a file has a colon behind a drive. -/
def addSegment (file : Bool) (path : List (List Char)) (segment : List Char) (last : Bool) :
    List (List Char) :=
  if isDoubleDot segment then above path ++ (if last then [[]] else [])
  else if isSingleDot segment then path ++ (if last then [[]] else [])
  else if file && isDrive segment then path ++ [segment.take 1 ++ [':']]
  else path ++ [Percent.encode Percent.inPath segment]

/-- Adds all segments to a path. -/
def addSegments (file : Bool) (path : List (List Char)) : List (List Char) → List (List Char)
  | [] => path
  | [segment] => addSegment file path segment true
  | segment :: rest => addSegments file (addSegment file path segment false) rest

/-- The path that segments give. -/
def join (path : List (List Char)) : String := String.ofList (path.flatMap ('/' :: ·))

/-- A path without a slash at its start. -/
def dropSlash (special : Bool) : List Char → List Char
  | c :: cs => if isSlash special c then cs else c :: cs
  | [] => []

/-- The path that a text spells, which may start with a slash. -/
def readPath (special : Bool) (cs : List Char) : String :=
  join (addSegments false [] ((dropSlash special cs).splitOnP (isSlash special)))

/-- The path of a file. Only one slash at its start counts. -/
def readFilePath (cs : List Char) : String :=
  let path := join (addSegments true [] (cs.splitOnP (isSlash true)))
  String.ofList ('/' :: path.toList.dropWhile (· == '/'))

/-! ### Authorities -/

/-- The number of a port; none if it is missing or the usual one of the scheme. -/
def readPort (scheme : String) (cs : List Char) : Except UrlFault (Option Nat) :=
  if cs = [] then .ok none
  else if cs.head? = some '+' then .error .port
  else match Digits.parse Digits.bound16 cs with
    | .error _ => .error .port
    | .ok n => .ok (if usualPorts.lookup scheme = some n then none else some n)

/-- The host of a scheme of either kind. -/
def readHost (special : Bool) (cs : List Char) : Except UrlFault Host :=
  (if special then Host.readWeb cs else Host.readOther cs).mapError .host

/-- Reads what stands between the slashes of a URL: credentials, host and port. A port or
credentials need a host, and so does a scheme of the web. A backslash ends the port. -/
def readAuthority (scheme : String) (authority path : List Char) : Except UrlFault Url := do
  let special := isSpecial scheme
  let (credentials, rest) := splitAtLast '@' authority
  let (user, password) := splitAt ':' (credentials.getD [])
  let (host, port) := splitHost false rest
  if host = [] ∧ (special ∨ port.isSome ∨ (credentials.isSome ∧ credentials ≠ some [':'])) then
    .error (.host .empty)
  let (digits, more) := (port.getD []).span (· ≠ '\\')
  let path := more ++ path
  return {
    scheme
    user := String.ofList (Percent.encode Percent.inCredentials user)
    password := String.ofList (Percent.encode Percent.inCredentials (password.getD []))
    host := some (← readHost special host)
    port := ← readPort scheme digits
    path := if !special ∧ path = [] then "" else readPath special path
    query := none
    fragment := none }

/-- A URL without credentials and port. -/
def plain (scheme : String) (host : Option Host) (path : String) : Url :=
  ⟨scheme, "", "", host, none, path, none, none⟩

/-- The host of a file; that of the own machine is left out. -/
def readFileHost (cs : List Char) : Except UrlFault Host := do
  if cs = [] then return .nameless
  let host ← readHost true cs
  return if host = .name "localhost" then .nameless else host

/-- Reads what follows the scheme of a file. A drive belongs to no host. -/
def readFile (cs : List Char) : Except UrlFault Url := do
  let (slashes, rest) := cs.span (isSlash true)
  if slashes.length < 2 then return plain fileScheme (some .nameless) (readFilePath cs)
  let (host, path) := (slashes.drop 2 ++ rest).span (!isSlash true ·)
  if isDrive host then return plain fileScheme (some .nameless) (readFilePath (host ++ path))
  let host ← readFileHost host
  let hasDrive := (path.splitOnP (isSlash true)).any isDrive
  return plain fileScheme (some (if hasDrive then .nameless else host)) (readFilePath path)

/-! ### Whole URLs -/

/-- Reads what follows the scheme, up to the query. -/
def readHierarchy (scheme : String) (cs : List Char) : Except UrlFault Url :=
  if scheme = fileScheme then readFile cs
  else if isSpecial scheme then
    let (authority, path) := (cs.dropWhile (isSlash true)).span (!isSlash true ·)
    readAuthority scheme authority path
  else match cs with
    | '/' :: '/' :: rest =>
      let (authority, path) := rest.span (· ≠ '/')
      readAuthority scheme authority path
    | '/' :: rest => .ok (plain scheme none (readPath false ('/' :: rest)))
    | cs => .ok (plain scheme none (String.ofList (Percent.encode Percent.isControl cs)))

/-- The URL that a text spells. -/
def ofText (s : String) : Except UrlFault Url :=
  match splitScheme (strip s) with
  | none => .error .relative
  | some (scheme, rest) => do
    let (rest, fragment) := splitAt '#' rest
    let (rest, query) := splitAt '?' rest
    let u ← readHierarchy scheme rest
    let inQuery := if isSpecial scheme then Percent.inWebQuery else Percent.inQuery
    return { u with
      query := query.map fun q => String.ofList (Percent.encode inQuery q)
      fragment := fragment.map fun f => String.ofList (Percent.encode Percent.inFragment f) }

/-! ### Writing -/

/-- Host and port, as the `host` header gives them. -/
def authority (u : Url) : String :=
  (u.host.map Host.text).getD "" ++ (u.port.map fun p => ":" ++ toString p).getD ""

/-- The credentials before the host. -/
def credentials (u : Url) : String :=
  if u.user = "" ∧ u.password = "" then ""
  else u.user ++ (if u.password = "" then "" else ":" ++ u.password) ++ "@"

/-- What stands before the path. A path that starts with two slashes is kept from being read as a
host. -/
def origin (u : Url) : String :=
  u.scheme ++ ":" ++
    match u.host with
    | some _ => "//" ++ u.credentials ++ u.authority
    | none => if "//".isPrefixOf u.path then "/." else ""

/-- What is asked for: all but the fragment. -/
def target (u : Url) : String := u.origin ++ u.path ++ (u.query.map ("?" ++ ·)).getD ""

/-- The one form of a URL. -/
def text (u : Url) : String := u.target ++ (u.fragment.map ("#" ++ ·)).getD ""

/-! ### Requests -/

/-- Whether a request can be made for the scheme. -/
def isRequestable (u : Url) : Bool := u.scheme == "http" || u.scheme == "https"

/-- The user and the password that the credentials spell. Credentials that are not text spell none. -/
def login? (u : Url) : Option (String × String) := do
  let user ← Percent.decode? u.user
  let password := (Percent.decode? u.password).getD ""
  if user = "" ∧ password = "" then none else some (user, password)

/-- The URL without credentials that spell a user and a password, for these are sent in a header. -/
def withoutLogin (u : Url) : Url :=
  if u.login?.isSome then { u with user := "", password := "" } else u

/-- Characters that a URL may not have in the name of its host to be sent, though it may be read. -/
def isUnsendable (c : Char) : Bool := c == '"' || c == '\x60' || c == '\x7b' || c == '\x7d'

/-- The greatest number of octets of a URL that can be sent. -/
def maxLength : Nat := 65534

/-- Whether the URL can be sent. -/
def isSendable (u : Url) : Bool :=
  !u.authority.toList.any isUnsendable && u.text.utf8ByteSize ≤ maxLength

end Url

end HeatFeed.Http
