import RunLog.Http
import RunLog.Json.Writer
import RunLog.StandIn.Host

/-!
# The target of a request

A stand-in for the library that forms requests needs the URL that a request is sent to.  It is the
URL of the backend followed by a path and by parameters, taken apart again: the host is normalised,
dot segments are resolved, everything that may not stand in a URL is escaped, and escapes of
characters that need none are undone.  A URL that begins like another scheme is left alone, and so
are its parameters.
-/

namespace RunLog

/-- Why a URL cannot be taken apart. -/
inductive TargetFault
  /-- The port is too large. -/
  | port (url : Text)
  /-- What stands between the credentials and the path is no host with a port. -/
  | hostAndPort (written : Text)
  /-- The host is refused. -/
  | host (fault : HostFault)
  /-- There is no host. -/
  | noHost (url : Text)
  /-- The host begins with a wildcard or an empty label. -/
  | firstLabel
  deriving DecidableEq, Repr

/-- The text of a fault. -/
def TargetFault.message : TargetFault → Text
  | port url => "Failed to parse: " ++ url
  | hostAndPort written => "Failed to parse: " ++ written.quoted ++ " is not a valid host or port"
  | host fault => "Failed to parse: " ++ fault.message
  | noHost url => "Invalid URL " ++ url.quoted ++ ": No host supplied"
  | firstLabel => "URL has an invalid label."

namespace RequestFault

/-- The URL cannot be taken apart. -/
def invalidUrl (fault : TargetFault) : RequestFault :=
  ⟨.invalidUrl, fault.message⟩

/-- The URL has no scheme. -/
def missingScheme (url : Text) : RequestFault :=
  ⟨.missingScheme,
    "Invalid URL " ++ url.quoted ++ ": No scheme supplied. Perhaps you meant https://" ++ url
      ++ "?"⟩

/-- Nothing is known about the scheme of the URL. -/
def unknownScheme (url : Text) : RequestFault :=
  ⟨.unknownScheme, "No connection adapters were found for " ++ url.quoted⟩

/-- A header would not end where it should. -/
def invalidHeader (value : Text) : RequestFault :=
  ⟨.invalidHeader,
    "Invalid leading whitespace, reserved character(s), or return character(s) in header value: "
      ++ value.quoted⟩

/-- The URL is sound, but its authority is not any more once it is normalised. -/
def authority : RequestFault :=
  ⟨.unsoundAuthority, []⟩

/-- A text has no form in the bytes it has to be sent in. -/
def unencodable : RequestFault :=
  ⟨.unencodable, []⟩

end RequestFault

namespace Target

/-! ## Parameters -/

/-- The texts that stand for a value in a list: the text of a scalar, the texts in another list,
the names of an object. -/
def innerTexts : Json → List Text
  | .null => []
  | .list items => items.map Json.display
  | .object members => members.map (·.1)
  | value => [value.display]

/-- The texts that stand for the value of a parameter. -/
def valueTexts : Json → List Text
  | .list items => items.flatMap innerTexts
  | .object members => members.map (·.1)
  | value => innerTexts value

/-- One name and value, encoded; none if a text has no UTF-8 form. -/
def encodePair? (name value : Text) : Option Text := do
  let left ← name.utf8?
  let right ← value.utf8?
  some (Percent.encodeForm left ++ "=" ++ Percent.encodeForm right)

/-- The parameters of a request, encoded; none if a text has no UTF-8 form. -/
def encodeParameters? (parameters : List Parameter) : Option Text :=
  let pairs := parameters.flatMap fun (name, value) =>
    (valueTexts value).map fun text => (name, text)
  (pairs.mapM fun (name, value) => encodePair? name value).map (Text.join "&")

/-! ## Taking a URL apart -/

/-- The parts of a URL that a request is sent to. -/
structure Parts where
  /-- The scheme, if the URL has one. -/
  scheme : Option Text
  /-- The credentials before the host, possibly empty. -/
  userInfo : Text
  /-- The host. -/
  host : Text
  /-- The port, unless it is the default one. -/
  port : Option Nat
  /-- The path. -/
  path : Text
  /-- The query, without its question mark. -/
  query : Text
  /-- The fragment, without its number sign. -/
  fragment : Text
  deriving DecidableEq, Repr

/-- Whether a code point may stand in credentials. -/
def isUserInfoPoint (point : CodePoint) : Bool :=
  Percent.isUnreserved point || point.isOneOf "!$&'()*+,;=:"

/-- Whether a code point may stand in a path. -/
def isPathPoint (point : CodePoint) : Bool :=
  isUserInfoPoint point || point.isOneOf "@/"

/-- Whether a code point may stand in a query or a fragment. -/
def isQueryPoint (point : CodePoint) : Bool :=
  isPathPoint point || point.isOneOf "?/"

/-- The segments of a path after the dot segments are resolved; the segments so far come in
reverse. -/
def resolveSegments : List Text → List Text → List Text
  | resolved, [] => resolved.reverse
  | resolved, segment :: rest =>
    if segment == Text.ofString "." then resolveSegments resolved rest
    else if segment == Text.ofString ".." then resolveSegments (resolved.drop 1) rest
    else resolveSegments (segment :: resolved) rest

/-- A path without dot segments. -/
def resolvePath (path : Text) : Text :=
  let segments := resolveSegments [] (Text.splitAll '/' path)
  let rooted :=
    if (path.head?.map (·.is '/')).getD false && !(segments.head?.map List.isEmpty).getD false then
      [] :: segments
    else segments
  let dotted := (Text.ofString "/.").isSuffixOf path || (Text.ofString "/..").isSuffixOf path
  Text.join "/" (if dotted then rooted ++ [[]] else rooted)

/-- Whether a zone of an address holds unreserved characters and escapes only. -/
def isZone (zone : Text) : Bool :=
  !zone.isEmpty && Percent.wellFormed zone
    && zone.all fun point => Percent.isUnreserved point || point.is '%'

/-- The host in brackets, in lower case up to its zone; none unless it is an address. -/
def bracketedHost? (inside : Text) : Option Text :=
  match Text.splitFirst? '%' inside with
  | none => if Address.isVersion6 inside then some ("[" ++ inside.lowerAscii ++ "]") else none
  | some (address, written) =>
    let zone :=
      if (Text.ofString "25").isPrefixOf written && written.length != 2 then written.drop 2
      else written
    if Address.isVersion6 address && isZone zone then
      some ("[" ++ address.lowerAscii ++ "%" ++ Percent.encodePart Percent.isUnreserved zone ++ "]")
    else none

/-- The number of a port; none unless it has the form of one: digits, at most five of which follow
zeros at the start. -/
def portNumber? (written : Text) : Option Nat :=
  let significant := written.dropWhile (·.is '0')
  if written.all CodePoint.isAsciiDigit && decide (significant.length ≤ 5) then
    some (significant.foldl (fun number digit => number * 10 + (digit.val - 0x30)) 0)
  else none

/-- The host of an authority: a name that is to be normalised, or an address in brackets. -/
inductive WrittenHost
  /-- A name as it is written. -/
  | name (written : Text)
  /-- An address, normalised. -/
  | address (normal : Text)
  deriving DecidableEq, Repr

/-- The host and the port of an authority without credentials; none unless it has their form.  No
port and port 0 stand for the default one. -/
def hostAndPort? (text : Text) : Option (WrittenHost × Nat) :=
  let (host?, rest) :=
    if (text.head?.map (·.is '[')).getD false then
      match Text.splitFirst? ']' (text.drop 1) with
      | some (inside, rest) => ((bracketedHost? inside).map WrittenHost.address, rest)
      | none => (none, [])
    else
      let (name, rest) := text.span fun point => !point.is ':'
      (if Host.isName name then some (.name name) else none, rest)
  match host?, rest with
  | some host, [] => some (host, 0)
  | some host, colon :: written =>
    if colon.is ':' then (portNumber? written).map fun port => (host, port) else none
  | none, _ => none

/-- The greatest number of a port. -/
def greatestPort : Nat := 65535

/-- The host and the port of an authority without credentials, normalised; the port is none where
the default one is meant. -/
def hostAndPort (url text : Text) : Except TargetFault (Text × Option Nat) :=
  match hostAndPort? text with
  | none => .error (.hostAndPort text)
  | some (host, port) =>
    if greatestPort < port then .error (.port url)
    else
      let normal :=
        match host with
        | .name written => (Host.normalize written).mapError TargetFault.host
        | .address normal => .ok normal
      normal.map fun host => (host, if port = 0 then none else some port)

/-- Whether a URL begins with a scheme or a slash. -/
def beginsWithScheme (url : Text) : Bool :=
  match url with
  | [] => false
  | first :: others =>
    first.is '/' ||
      first.isAsciiLetter &&
        match others.dropWhile fun point =>
          point.isAsciiLetter || point.isAsciiDigit || point.isOneOf "+-" with
        | colon :: _ => colon.is ':'
        | [] => false

/-- The parts of a URL. -/
def parts (url : Text) : Except TargetFault Parts :=
  let whole : Text := if beginsWithScheme url then url else "//" ++ url
  let (scheme, rest) :=
    match BackendUrl.scheme whole with
    | ([], _) => (none, whole)
    | (scheme, rest) => (some scheme, rest)
  let (authority, rest) :=
    if (Text.ofString "//").isPrefixOf rest then
      (rest.drop 2).span fun point => !point.isOneOf "\\/?#"
    else ([], rest)
  let (path, rest) := rest.span fun point => !point.isOneOf "?#"
  let (query, rest) :=
    if (Text.ofString "?").isPrefixOf rest then (rest.drop 1).span fun point => !point.is '#'
    else ([], rest)
  let userInfo := ((Text.splitLast? '@' authority).map (·.1)).getD []
  (hostAndPort url (BackendUrl.hostAndPort authority)).map fun (host, port) =>
    { scheme
      userInfo := Percent.encodePart isUserInfoPoint userInfo
      host
      port
      path := Percent.encodePart isPathPoint (resolvePath path)
      query := Percent.encodePart isQueryPoint query
      fragment := Percent.encodePart isQueryPoint (rest.drop 1) }

/-! ## Putting a URL together -/

/-- A text with the escapes of unreserved characters undone; none if a percent sign is followed by
letters and digits that are not hexadecimal. -/
def undoEscapes? : Text → Option Text
  | [] => some []
  | percent :: high :: low :: rest =>
    let isPlain (point : CodePoint) : Bool := point.isAsciiLetter || point.isAsciiDigit
    if percent.is '%' && isPlain high && isPlain low then
      match high.hexValue?, low.hexValue? with
      | some upper, some lower =>
        let point := CodePoint.ofNat (upper * 16 + lower)
        (undoEscapes? rest).map fun after =>
          if Percent.isUnreserved point then point :: after else percent :: high :: low :: after
      | _, _ => none
    else (undoEscapes? (high :: low :: rest)).map (percent :: ·)
  | point :: rest => (undoEscapes? rest).map (point :: ·)

/-- Whether a code point may stand in a URL that is sent; percent signs are another matter. -/
def isSentPoint (point : CodePoint) : Bool :=
  Percent.isUnreserved point || point.isOneOf "!#$&'()*+,/:;=?@[]"

/-- A URL with everything escaped that may not be sent. -/
def quoteUrl (url : Text) : Text :=
  match undoEscapes? url with
  | some plain => Percent.encode (fun point => isSentPoint point || point.is '%') plain.utf8
  | none => Percent.encode isSentPoint url.utf8

/-- The URL with given parts and further parameters in its query. -/
def assemble (scheme : Text) (parts : Parts) (parameters : Text) : Text :=
  let userInfo : Text := if parts.userInfo.isEmpty then [] else parts.userInfo ++ "@"
  let port : Text := (parts.port.map fun port => (":" : Text) ++ Text.ofNat port).getD []
  let path : Text := if (parts.path.head?.map (·.is '/')).getD false then parts.path
    else "/" ++ parts.path
  let query : Text :=
    if parameters.isEmpty then parts.query
    else if parts.query.isEmpty then parameters
    else parts.query ++ "&" ++ parameters
  let queryPart : Text := if query.isEmpty then [] else "?" ++ query
  let fragmentPart : Text := if parts.fragment.isEmpty then [] else "#" ++ parts.fragment
  quoteUrl (scheme ++ "://" ++ userInfo ++ parts.host ++ port ++ path ++ queryPart
    ++ fragmentPart)

/-- Whether a URL begins like one of another scheme. -/
def isForeign (url : Text) : Bool :=
  url.any (·.is ':') && !(Text.ofString "http").isPrefixOf url.lowerAscii

/-- The URL that a request for a URL with parameters is sent to. -/
def prepare (url : Text) (parameters : List Parameter) : Except RequestFault Text := do
  let url := url.trimStart CodePoint.isBlank
  if isForeign url then return url
  let parts ← (parts url).mapError .invalidUrl
  let some scheme := parts.scheme | throw (.missingScheme url)
  if parts.host.isEmpty then throw (.invalidUrl (.noHost url))
  if (parts.host.head?.map (·.isOneOf "*.")).getD false then throw (.invalidUrl .firstLabel)
  let some encoded := encodeParameters? parameters | throw .unencodable
  return assemble scheme parts encoded

end Target
end RunLog
