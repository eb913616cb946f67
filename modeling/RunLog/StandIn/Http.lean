import RunLog.Json.Reader
import RunLog.StandIn.Target
import RunLog.Text.Base64

/-!
# A stand-in for the library that sends requests

A library that forms requests and reads answers is not at hand when the program is run against a
script.  This one does its work there, the way one release of the libraries does it.  Nothing that
is proved for every sender depends on it.

The order in which faults of a request are found is fixed: the URL first, then the parameters, the
tenant, the authority of the normalised URL, the credentials and last the scheme.
-/

namespace RunLog

/-- The answer with a status and a body: UTF-8 in which brackets stand inside each other to a given
depth at most. -/
def Response.ofBody (depth : Nat) (status : Int) (body : Bytes) : Response where
  status
  text := Text.ofUtf8 body
  json :=
    match Json.readWithin depth (Text.ofUtf8 body) with
    | .ok value => .ok value
    | .error .malformed => .error (.malformed .wrongValue)
    | .error .tooDeep => .error (.malformed .tooDeep)

namespace StandIn

/-- The bytes of a text whose code points are all below 256. -/
def singleBytes? (text : Text) : Option Bytes :=
  text.mapM fun point => if point.val < 0x100 then some (UInt8.ofNat point.val) else none

/-- The header for a name and a password. -/
def basic (user password : Text) : Except RequestFault Text :=
  match singleBytes? user, singleBytes? password with
  | some user, some password => .ok ("Basic " ++ Text.base64 (user ++ 0x3A :: password))
  | _, _ => .error .unencodable

/-- The header for a request to a URL: for the given credentials, or else for those in the URL. -/
def authorization (credentials : Option Credentials) (target : Text) :
    Except RequestFault (Option Text) :=
  match credentials with
  | some credentials => (basic credentials.user credentials.password).map some
  | none =>
    match BackendUrl.credentials? target with
    | none => .ok none
    | some (user, password) =>
      let user := Percent.decode user
      let password := Percent.decode password
      if user.isEmpty && password.isEmpty then .ok none else (basic user password).map some

/-- Whether a text can be the value of a header: it is empty, or begins with something else than
white space and holds no line end. -/
def isHeaderValue (text : Text) : Bool :=
  !(text.head?.map CodePoint.isBlank).getD false && !text.any (·.isOneOf "\r\n")

/-- Refuse a tenant that cannot be named in a header. -/
def checkTenant : Option Text → Except RequestFault Unit
  | none => .ok ()
  | some tenant => if isHeaderValue tenant then .ok () else .error (.invalidHeader tenant)

/-- Refuse a normalised URL whose authority is not sound. -/
def checkTarget (target : Text) : Except RequestFault Unit :=
  (BackendUrl.checkAuthority (BackendUrl.authorityOf target)).mapError fun _ => .authority

/-- Whether requests can be sent to a URL. -/
def isSendable (target : Text) : Bool :=
  let lower := Text.lowerAscii target
  (Text.ofString "http://").isPrefixOf lower || (Text.ofString "https://").isPrefixOf lower

/-- The URL of a plain request for a URL with parameters. -/
def target (url : Text) (parameters : List Parameter) : Except RequestFault Text := do
  let target ← Target.prepare url parameters
  checkTarget target
  let _ ← authorization none target
  return target

/-- The request that a call leads to. -/
def form (call : Call) : Except RequestFault Request := do
  let target ← Target.prepare call.url call.parameters
  checkTenant call.tenant
  checkTarget target
  let authorization ← authorization call.credentials target
  if !isSendable target then throw (.unknownScheme target)
  return { url := target, authorization, tenant := call.tenant, verify := call.verify,
           timeout := call.timeout }

/-- A sender that forms requests this way and sends them in a given way. -/
def sender {ω : Type} (room : Int) (send : Request → ω → Delivery × ω) : Sender ω where
  target url parameters := (target url parameters).mapError .request
  form call _ := (form call).mapError .request
  send
  room

end StandIn
end RunLog
