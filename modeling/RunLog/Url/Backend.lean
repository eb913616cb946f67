import RunLog.Text.Blank
import RunLog.Text.Quoted
import RunLog.Url.Address

/-!
# The address of a backend

The URL of a backend is accepted when it names a host to be reached by `http` or `https`.  White
space around it and slashes at its end are dropped first.  While a URL is taken apart, tabulators
and line ends inside it are ignored, and so are control characters and spaces at its start.
-/

namespace RunLog

/-- Why a URL is refused. -/
inductive UrlFault
  /-- The authority has an opening bracket without a closing one, or the other way round. -/
  | unbalancedBrackets
  /-- The brackets hold a malformed address of a future version. -/
  | futureAddress
  /-- The brackets do not hold an address. -/
  | notAnAddress (text : Text)
  /-- The brackets hold an address that needs none. -/
  | needlessBrackets
  /-- A character of the authority would fold to a separator. -/
  | foldsToSeparator (authority : Text)
  /-- The URL has another scheme or no host. -/
  | noBackend
  deriving DecidableEq, Repr

/-- The text of a fault. -/
def UrlFault.message : UrlFault → Text
  | unbalancedBrackets => "Invalid IPv6 URL"
  | futureAddress => "IPvFuture address is invalid"
  | notAnAddress text => text.quoted ++ " does not appear to be an IPv4 or IPv6 address"
  | needlessBrackets => "An IPv4 address cannot be in brackets"
  | foldsToSeparator authority =>
    "netloc '" ++ authority ++ "' contains invalid characters under NFKC normalization"
  | noBackend => "expected http:// or https:// followed by a host"

namespace BackendUrl

/-- The part of a URL that is looked at: no control characters or spaces at its start, no
tabulators and line ends anywhere. -/
def visible (url : Text) : Text :=
  (url.trimStart fun point => point.val ≤ 0x20).filter fun point => !point.isOneOf "\t\n\r"

/-- Whether a code point may stand in a scheme. -/
def isSchemePoint (point : CodePoint) : Bool :=
  point.isAsciiLetter || point.isAsciiDigit || point.isOneOf "+-."

/-- The scheme of a URL in lower case, empty if there is none, and what follows it. -/
def scheme (url : Text) : Text × Text :=
  match Text.splitFirst? ':' url with
  | some (first :: others, rest) =>
    if first.isAsciiLetter && others.all isSchemePoint then
      (Text.lowerAscii (first :: others), rest)
    else ([], url)
  | _ => ([], url)

/-- The authority of what follows a scheme, empty if there is none. -/
def authority (rest : Text) : Text :=
  match rest with
  | first :: second :: after =>
    if first.is '/' && second.is '/' then after.takeWhile fun point => !point.isOneOf "/?#"
    else []
  | _ => []

/-- The characters that fold to text with a separator in it. -/
def foldingPoints : List Nat :=
  [0x2047, 0x2048, 0x2049, 0x2100, 0x2101, 0x2105, 0x2106, 0x2A74, 0xFE13, 0xFE16, 0xFE55, 0xFE56,
    0xFE5F, 0xFE6B, 0xFF03, 0xFF0F, 0xFF1A, 0xFF1F, 0xFF20]

/-- What follows the last `@` of an authority. -/
def hostAndPort (authority : Text) : Text :=
  ((Text.splitLast? '@' authority).map (·.2)).getD authority

/-- What stands before a separator, or all of a text without one. -/
def before (separator : Char) (text : Text) : Text :=
  text.takeWhile fun point => !point.is separator

/-- Whether a text is an address of a future version. -/
def isFutureAddress (text : Text) : Bool :=
  match Text.splitFirst? '.' (text.drop 1) with
  | some (version, rest) =>
    !version.isEmpty && (version.all fun point => point.hexValue?.isSome)
      && !rest.isEmpty && !rest.any (·.is '\n')
  | none => false

/-- Check what stands in the brackets of an authority. -/
def checkBracketed (text : Text) : Except UrlFault Unit :=
  if (text.head?.map (·.is 'v')).getD false then
    if isFutureAddress text then .ok () else .error .futureAddress
  else if Address.isVersion4 text then .error .needlessBrackets
  else if Address.isVersion6WithZone text then .ok ()
  else .error (.notAnAddress text)

/-- Check the host and the port of an authority that has brackets: nothing may stand around the
brackets but a port after them.  Without a bracket of its own the host has to be what brackets are
made for. -/
def checkBrackets (text : Text) : Except UrlFault Unit :=
  match Text.splitFirst? '[' text with
  | none => checkBracketed (before ':' text)
  | some (outside, inside) =>
    let after := (Text.splitFirst? ']' inside).elim [] (·.2)
    if outside.isEmpty && (after.head?.map (·.is ':')).getD true then
      checkBracketed (before ']' inside)
    else .error .unbalancedBrackets

/-- Check an authority. -/
def checkAuthority (authority : Text) : Except UrlFault Unit := do
  let opens := authority.any (·.is '[')
  let closes := authority.any (·.is ']')
  if opens != closes then throw .unbalancedBrackets
  if opens then checkBrackets (hostAndPort authority)
  if authority.any fun point => foldingPoints.contains point.val then
    throw (.foldsToSeparator authority)

/-- The host of an authority: what stands in brackets, or else what comes before a colon. -/
def host (authority : Text) : Text :=
  match Text.splitFirst? '[' (hostAndPort authority) with
  | some (_, inside) => before ']' inside
  | none => before ':' (hostAndPort authority)

/-- The authority of a URL. -/
def authorityOf (url : Text) : Text :=
  authority (scheme (visible url)).2

/-- The names and passwords that a URL carries before its host, both or none. -/
def credentials? (url : Text) : Option (Text × Text) :=
  ((Text.splitLast? '@' (authorityOf url)).map (·.1)).bind (Text.splitFirst? ':')

/-- A URL as it is used: without white space around it and slashes at its end. -/
def normalize (url : Text) : Text :=
  url.strip.trimEnd (·.is '/')

/-- Check that a URL names a host to be reached by `http` or `https`. -/
def check (url : Text) : Except UrlFault Unit := do
  let (scheme, rest) := scheme (visible url)
  let authority := authority rest
  checkAuthority authority
  if scheme != Text.ofString "http" && scheme != Text.ofString "https" || (host authority).isEmpty
  then throw .noBackend

end BackendUrl
end RunLog
