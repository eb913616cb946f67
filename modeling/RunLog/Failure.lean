import RunLog.Number.Numeral
import RunLog.Url.Backend

/-!
# Failures

Everything that can go wrong is one type.  A constructor says what happened; the wording is given
by `Failure.message` alone.  Failures of the surroundings come in as `raised`, with a kind that
says which handlers take them, those of forming a request as `request`, and a failure that has no
wording of its own is `malformed`.
-/

namespace RunLog

/-- Why a setting cannot be used. -/
inductive SettingFault
  /-- No whole number. -/
  | numeral (fault : NumeralFault)
  /-- No decimal. -/
  | notDecimal (text : Text)
  /-- No truth value. -/
  | notBoolean (text : Text)
  deriving DecidableEq, Repr

/-- What is wrong with a configuration. -/
inductive ConfigurationFault
  /-- The URL of the backend is missing or blank. -/
  | blankUrl
  /-- The URL of the backend is refused. -/
  | invalidUrl (url : Text) (fault : UrlFault)
  /-- The name of the service is missing or empty. -/
  | blankServiceName
  /-- Collaborators are missing. -/
  | missingCollaborators (names : List Text)
  /-- The page size is not positive. -/
  | pageSize (size : Int)
  /-- The variable that holds the URL of the backend is missing or blank. -/
  | missingUrlVariable
  /-- The value of a variable cannot be used. -/
  | invalidVariable (name : Text) (fault : SettingFault)
  deriving DecidableEq, Repr

/-- Why a template gives no URL, with the text of the cause. -/
inductive RenderingFault
  /-- The template is no template. -/
  | invalidTemplate (detail : Text)
  /-- The rendering failed. -/
  | failed (detail : Text)
  deriving DecidableEq, Repr

/-- Why a query gives no entries although the backend answered. -/
inductive QueryFault
  /-- The status of the response is not one of success. -/
  | status (request : Text) (status : Int) (body : Text)
  /-- The body of the response cannot be read. -/
  | unreadable (status : Int) (body : Text)
  /-- The backend reports a failure in the body. -/
  | unsuccessful (detail : Text) (body : Text)
  deriving DecidableEq, Repr

/-- What was used after it was closed. -/
inductive ClosedResource
  | connection (url : Text)
  | retriever
  | buffer
  deriving DecidableEq, Repr

/-- How data is not what it has to be. -/
inductive Malformation
  /-- An object was wanted. -/
  | noObject
  /-- A value of another type was wanted. -/
  | wrongType
  /-- A name is missing. -/
  | missingName
  /-- An item is missing. -/
  | missingItem
  /-- A value of the right type is not acceptable. -/
  | wrongValue
  /-- A number is out of range. -/
  | outOfRange
  /-- There is no room for so much data. -/
  | tooLarge
  /-- Something is nested too deeply to be read. -/
  | tooDeep
  /-- Choices stand inside each other on too many levels. -/
  | tooManyLevels
  /-- A text has no form in the bytes it has to be written in. -/
  | unencodable
  /-- An operation was left to be defined. -/
  | undefinedOperation
  deriving DecidableEq, Repr

/-- The kinds of failure on the way to the backend and back. -/
inductive TransportKind
  | general
  | connection
  | timeout
  | tls
  | readTimeout
  | connectTimeout
  | proxy
  | redirects
  | chunkedEncoding
  | invalidUrl
  | contentDecoding
  deriving DecidableEq, Repr

/-- The kinds of failure that the surroundings raise. -/
inductive RaisedKind
  | general
  | configuration
  | unreachable
  | queryFailed
  | rendering
  | closed
  | transport (kind : TransportKind)
  | template
  | runtime
  | value
  | key
  | type
  | attribute
  | system
  | lookup
  | divisionByZero
  deriving DecidableEq, Repr

/-- A failure that the surroundings raise. -/
structure Raised where
  /-- The kind. -/
  kind : RaisedKind
  /-- The text. -/
  text : Text
  /-- The status of the response, for a failed query. -/
  status : Option Int
  /-- The body of the response, for a failed query. -/
  body : Text
  deriving DecidableEq, Repr

/-- The kinds of failure of forming a request. -/
inductive RequestFaultKind
  /-- The URL cannot be taken apart. -/
  | invalidUrl
  /-- The URL has no scheme. -/
  | missingScheme
  /-- Nothing is known about the scheme. -/
  | unknownScheme
  /-- A header would not end where it should. -/
  | invalidHeader
  /-- The URL can be taken apart, but what comes of it has no sound authority. -/
  | unsoundAuthority
  /-- A text has no form in the bytes it has to be sent in. -/
  | unencodable
  deriving DecidableEq, Repr

/-- Why a request cannot be formed. -/
structure RequestFault where
  /-- The kind. -/
  kind : RequestFaultKind
  /-- The text. -/
  text : Text
  deriving DecidableEq, Repr

/-- Everything that can go wrong. -/
inductive Failure
  /-- The configuration is faulty. -/
  | configuration (fault : ConfigurationFault)
  /-- The backend could not be reached: the request and the text of the cause. -/
  | unreachable (request : Text) (cause : Text)
  /-- The backend answered a query with something else than entries. -/
  | queryFailed (fault : QueryFault)
  /-- The template gave no URL. -/
  | rendering (fault : RenderingFault)
  /-- Something was used after it was closed. -/
  | closed (resource : ClosedResource)
  /-- A stream was read after it was closed. -/
  | closedStream
  /-- A request could not be formed. -/
  | request (fault : RequestFault)
  /-- Data is not what it has to be. -/
  | malformed (fault : Malformation)
  /-- A line start does not come after the last one: both with offset and number. -/
  | lineOrder (offset line : Int) (lastOffset lastLine : Int)
  /-- The surroundings raised a failure. -/
  | raised (raised : Raised)
  /-- The number of steps that was allowed did not suffice. -/
  | unfinished
  deriving DecidableEq, Repr

/-- The text of a setting's fault. -/
def SettingFault.message : SettingFault → Text
  | numeral fault => fault.message
  | notDecimal text => "could not convert string to float: " ++ text.quoted
  | notBoolean text => "not a boolean: " ++ text.quoted

/-- The text of a configuration's fault. -/
def ConfigurationFault.message : ConfigurationFault → Text
  | blankUrl => "Loki url cannot be blank"
  | invalidUrl url fault => "Invalid Loki url " ++ url.quoted ++ ": " ++ fault.message
  | blankServiceName => "Service name cannot be blank"
  | missingCollaborators names => "Missing collaborators: " ++ Text.join ", " names
  | pageSize size => "Page size must be positive, got " ++ Text.ofInt size
  | missingUrlVariable => "LOKI_URL environment variable is required"
  | invalidVariable name fault => "Invalid value for " ++ name ++ ": " ++ fault.message

/-- The text of a rendering's fault. -/
def RenderingFault.message : RenderingFault → Text
  | invalidTemplate detail => "Invalid logs visualization URL template: " ++ detail
  | failed detail => "Failure to render logs visualization URL: " ++ detail

/-- The text of a query's fault. -/
def QueryFault.message : QueryFault → Text
  | status request code _ =>
    "Failure to query Loki (" ++ request ++ "): HTTP " ++ Text.ofInt code
  | unreadable _ _ => "Failure to parse Loki response: "
  | unsuccessful detail _ => "Loki query unsuccessful: " ++ detail

/-- The status of the response that came with a query's fault, where it matters. -/
def QueryFault.statusCode : QueryFault → Option Int
  | status _ code _ => some code
  | unreadable code _ => some code
  | unsuccessful _ _ => none

/-- The body of the response that came with a query's fault. -/
def QueryFault.body : QueryFault → Text
  | status _ _ body => body
  | unreadable _ body => body
  | unsuccessful _ body => body

/-- The text about something that is closed. -/
def ClosedResource.message : ClosedResource → Text
  | connection url => "Connection to " ++ url ++ " is closed"
  | retriever => "Loki log storage retriever is closed"
  | buffer => "Log buffer is closed"

/-- The text of a raised failure: a missing key is shown in quotes. -/
def Raised.message (raised : Raised) : Text :=
  match raised.kind with
  | .key => raised.text.quoted
  | _ => raised.text

/-- Whether a fault of forming a request counts as one of reaching the backend. -/
def RequestFault.isTransport (fault : RequestFault) : Bool :=
  match fault.kind with
  | .unsoundAuthority | .unencodable => false
  | _ => true

namespace Failure

/-- The text of a failure, where it has one. -/
def message : Failure → Option Text
  | configuration fault => some fault.message
  | unreachable target cause => some ("Failure to reach Loki (" ++ target ++ "): " ++ cause)
  | queryFailed fault => some fault.message
  | rendering fault => some fault.message
  | closed resource => some resource.message
  | closedStream => some "I/O operation on closed stream"
  | request _ => none
  | malformed _ => none
  | lineOrder offset line lastOffset lastLine =>
    some ("Line start (" ++ Text.ofInt offset ++ ", " ++ Text.ofInt line ++ ") is not after ("
      ++ Text.ofInt lastOffset ++ ", " ++ Text.ofInt lastLine ++ ")")
  | raised failure => some failure.message
  | unfinished => none

/-- The text of a failure inside the text of another one; empty where it has none. -/
def detail (failure : Failure) : Text :=
  failure.message.getD []

/-- The text of a failure where the way to the backend is reported on, which covers faults of a
request too. -/
def report : Failure → Text
  | request fault => fault.text
  | failure => failure.detail

/-- Whether a failure happened on the way to the backend or back. -/
def isTransport : Failure → Bool
  | request fault => fault.isTransport
  | raised failure =>
    match failure.kind with
    | .transport _ => true
    | _ => false
  | _ => false

/-- Whether a failure says that something was used after it was closed. -/
def isClosed : Failure → Bool
  | closed _ => true
  | raised failure => failure.kind == .closed
  | _ => false

/-- Whether a failure is one of configuration. -/
def isConfiguration : Failure → Bool
  | configuration _ => true
  | raised failure => failure.kind == .configuration
  | _ => false

/-- Whether a failure is one of an unsuitable value.  All faults of forming a request are. -/
def isValue : Failure → Bool
  | closedStream | lineOrder .. | request _ => true
  | malformed fault => fault == .wrongValue || fault == .unencodable
  | raised failure => failure.kind == .value || failure.kind == .transport .invalidUrl
  | _ => false

/-- Whether a failure is one of a template. -/
def isTemplate : Failure → Bool
  | raised failure => failure.kind == .template
  | _ => false

/-- Whether a failure says that something is not there or is of another type. -/
def isMisuse : Failure → Bool
  | malformed fault => fault == .noObject || fault == .wrongType || fault == .missingName
  | raised failure =>
    failure.kind == .key || failure.kind == .attribute || failure.kind == .type
  | _ => false

/-- Whether a failure that comes up while a link is rendered is one of rendering. -/
def isRendering (failure : Failure) : Bool :=
  failure.isTemplate || failure.isMisuse || failure.isValue

/-- What becomes of a failure while a template is compiled: one of a template says so, others
pass. -/
def whileCompiling (failure : Failure) : Failure :=
  if failure.isTemplate then .rendering (.invalidTemplate failure.detail) else failure

/-- What becomes of a failure while a link is rendered: one of rendering says so, others pass. -/
def whileRendering (failure : Failure) : Failure :=
  if failure.isRendering then .rendering (.failed failure.detail) else failure

end Failure
end RunLog
