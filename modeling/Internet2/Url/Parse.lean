import Internet2.Url.Encoding
import Internet2.Net.IpAddr

/-!
The URL parser of the url crate, for the non-special schemes the locator uses.

It follows the basic URL parser of the URL Standard as the crate implements it:
authority, opaque host, port, path segments, query and fragment.
-/

namespace Internet2

/-- A parsed URL, with the parts the crate's accessors return. -/
structure Url where
  scheme : String
  username : String
  password : String
  /-- The host; `some ""` is the empty host of `lnpz:///path`. -/
  host : Option String
  port : Option UInt16
  /-- The serialized path, as `Url::path` returns it. -/
  path : String
  query : Option String
  fragment : Option String
  deriving DecidableEq

namespace Url

/-- The host as `Url::host_str` returns it: an empty host counts as none. -/
def hostStr (url : Url) : Option String :=
  match url.host with
  | some "" => none
  | host => host

/-! ## Reading the input -/

/-- The input with C0 controls and spaces trimmed from both ends, and tabs and newlines dropped. -/
def preprocess (input : List Char) : List Char :=
  (((input.dropWhile isC0ControlOrSpace).reverse.dropWhile isC0ControlOrSpace).reverse).filter
    (fun c => !isTabOrNewline c)

/-- Characters a scheme is made of after its first letter. -/
def isSchemeChar (c : Char) : Bool := isAsciiAlphanumeric c || c = '+' || c = '-' || c = '.'

/-- The scheme at the front of the input, lower-cased, and what follows its `:`. -/
def readScheme : List Char → Option (String × List Char)
  | [] => none
  | first :: rest =>
    if isAsciiAlpha first then
      match (first :: rest).dropWhile isSchemeChar with
      | ':' :: after => some (((first :: rest).takeWhile isSchemeChar).map Char.toLower |>.asString, after)
      | _ => none
    else none

/-- The schemes the URL Standard treats apart. -/
def isSpecialScheme (scheme : String) : Bool :=
  ["ftp", "file", "http", "https", "ws", "wss"].contains scheme

/-- Whether a character ends the part of the input it stands in. -/
def endsPath (c : Char) : Bool := c = '?' || c = '#'

/-- Whether a character ends the authority. -/
def endsAuthority (c : Char) : Bool := c = '/' || endsPath c

/-! ## Authority -/

/-- The text split at its last occurrence of a character, when there is one. -/
def splitLast (sep : Char) (text : List Char) : Option (List Char × List Char) :=
  match text.reverse.dropWhile (· ≠ sep) with
  | _ :: before => some (before.reverse, (text.reverse.takeWhile (· ≠ sep)).reverse)
  | [] => none

/-- The host at the front of host and port: up to the first `:` outside brackets. -/
def splitHost : Bool → List Char → List Char × List Char
  | _, [] => ([], [])
  | inside, c :: rest =>
    if c = ':' ∧ inside = false then ([], c :: rest)
    else
      let (host, after) := splitHost (if c = '[' then true else if c = ']' then false else inside) rest
      (c :: host, after)

/-- Code points an opaque host may not contain. -/
def isForbiddenHost (c : Char) : Bool := "\x00\t\n\r #/:<>?@[\\]^|".toList.contains c

/-- An IPv6 address as a URL writes it: hexadecimal, the first longest zero run as `::`. -/
def ipv6Text (addr : Ipv6Addr) : String := compressedHex addr.segments

/-- The host a text names, as `Host::parse_opaque`: a bracketed IPv6 address or an opaque host. -/
def parseHost (text : List Char) : Option String :=
  match text with
  | '[' :: inner =>
    if inner.getLast? = some ']' then
      match readIpv6 inner.dropLast with
      | some (addr, []) => some ("[" ++ ipv6Text addr ++ "]")
      | _ => none
    else none
  | _ => if text.any isForbiddenHost then none else some (percentEncode controls text).asString

/-- The port a text names: none for no digits, and a failure for anything but digits up to 65535. -/
def parsePort (text : List Char) : Option (Option UInt16) :=
  if text = [] then some none
  else if text.all isAsciiDigit ∧ digitsValue 10 text < 65536 then
    some (some (digitsValue 10 text).toUInt16)
  else none

/-- Username, password, host and port, read from the authority between `//` and the path. -/
def parseAuthority (authority : List Char) : Option (String × String × String × Option UInt16) := do
  let (userinfo, hostPort) := match splitLast '@' authority with
    | some (userinfo, hostPort) => (some userinfo, hostPort)
    | none => (none, authority)
  if userinfo.isSome ∧ hostPort = [] then none
  let (hostText, afterHost) := splitHost false hostPort
  let portText := afterHost.drop 1
  if afterHost ≠ [] ∧ hostText = [] then none
  let host ← parseHost hostText
  let port ← parsePort portText
  let userinfo := userinfo.getD []
  let username := percentEncode userinfoSet (userinfo.takeWhile (· ≠ ':'))
  let password := percentEncode userinfoSet ((userinfo.dropWhile (· ≠ ':')).drop 1)
  pure (username.asString, password.asString, host, port)

/-! ## Path -/

/-- A single-dot path segment: `.` or `%2e`. -/
def isSingleDot (segment : List Char) : Bool :=
  (segment.map Char.toLower) ∈ [".".toList, "%2e".toList]

/-- A double-dot path segment: `..` with either dot possibly written `%2e`. -/
def isDoubleDot (segment : List Char) : Bool :=
  (segment.map Char.toLower) ∈ ["..".toList, ".%2e".toList, "%2e.".toList, "%2e%2e".toList]

/-- One segment of the path state: dot segments move up or stay, the rest are appended. -/
def pathStep (path : List (List Char)) (segment : List Char) (last : Bool) : List (List Char) :=
  if isDoubleDot segment then
    if last then path.dropLast ++ [[]] else path.dropLast
  else if isSingleDot segment then
    if last then path ++ [[]] else path
  else path ++ [segment]

/-- The segments of a path after its first `/`, each percent-encoded, dot segments resolved. -/
def pathSegments (path : List (List Char)) : List (List Char) → List (List Char)
  | [] => path
  | [segment] => pathStep path (percentEncode pathSet segment) true
  | segment :: rest => pathSegments (pathStep path (percentEncode pathSet segment) false) rest

/-- A path of segments written out, each after a `/`. -/
def serializePath (segments : List (List Char)) : List Char :=
  segments.flatMap ('/' :: ·)

/-- The path read from the text after its first `/`, serialized. -/
def parsePath (text : List Char) : List Char :=
  serializePath (pathSegments [] (text.splitOn '/'))

/-! ## The parser -/

/-- Query and fragment, read from the text after the path. -/
def parseQueryFragment : List Char → Option String × Option String
  | '?' :: rest =>
    (some (percentEncode querySet (rest.takeWhile (· ≠ '#'))).asString,
      match rest.dropWhile (· ≠ '#') with
      | _ :: fragment => some (percentEncode fragmentSet fragment).asString
      | [] => none)
  | '#' :: fragment => (none, some (percentEncode fragmentSet fragment).asString)
  | _ => (none, none)

/-- A URL of a non-special scheme, from the text after its scheme's `:`. -/
def parseNonSpecial (scheme : String) (rest : List Char) : Option Url :=
  match rest with
  | '/' :: '/' :: afterSlashes => do
    let authority := afterSlashes.takeWhile (fun c => !endsAuthority c)
    let afterAuthority := afterSlashes.dropWhile (fun c => !endsAuthority c)
    let (username, password, host, port) ← parseAuthority authority
    let pathText := afterAuthority.takeWhile (fun c => !endsPath c)
    let path := match pathText with
      | '/' :: segments => parsePath segments
      | _ => []
    let (query, fragment) := parseQueryFragment (afterAuthority.dropWhile (fun c => !endsPath c))
    pure ⟨scheme, username, password, some host, port, path.asString, query, fragment⟩
  | '/' :: afterSlash =>
    let path := parsePath (afterSlash.takeWhile (fun c => !endsPath c))
    let (query, fragment) := parseQueryFragment (afterSlash.dropWhile (fun c => !endsPath c))
    some ⟨scheme, "", "", none, none, path.asString, query, fragment⟩
  | _ =>
    let path := percentEncode controls (rest.takeWhile (fun c => !endsPath c))
    let (query, fragment) := parseQueryFragment (rest.dropWhile (fun c => !endsPath c))
    some ⟨scheme, "", "", none, none, path.asString, query, fragment⟩

/--
The URL a string is, as `Url::parse` reads it, for the non-special schemes.

Special schemes follow other rules, which are not modelled: the locator only hands this
parser strings with one of its own schemes.
-/
def parse (input : String) : Option Url := do
  let (scheme, rest) ← readScheme (preprocess input.toList)
  if isSpecialScheme scheme then none
  parseNonSpecial scheme rest

/-- The name-value pairs of the query, as `Url::query_pairs`. -/
def queryPairs (url : Url) : List (String × String) :=
  parsePairs ((url.query.getD "").toList.flatMap String.utf8EncodeChar)

/-- The URL written out, as `Url::as_str` and `Display for Url` give it. -/
def serialize (url : Url) : String :=
  let userinfo := if url.username = "" ∧ url.password = "" then ""
    else url.username ++ (if url.password = "" then "" else ":" ++ url.password) ++ "@"
  let authority := match url.host with
    | some host => "//" ++ userinfo ++ host ++ (match url.port with
        | some port => ":" ++ decimal port.toNat
        | none => "")
    | none => if url.path.startsWith "//" then "/." else ""
  url.scheme ++ ":" ++ authority ++ url.path ++
    (match url.query with | some query => "?" ++ query | none => "") ++
    (match url.fragment with | some fragment => "#" ++ fragment | none => "")

end Url

end Internet2
