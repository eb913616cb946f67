import RunLog.Connection
import RunLog.Link
import RunLog.Tail

/-!
# Settings

Everything that can be configured is read from a set of named texts, as an environment has them.  A
text that is missing or empty stands for the default.  The URL of the backend has no default; the
rest is read in a fixed order, and the first text that cannot be read is the one reported.
-/

namespace RunLog

/-- Named texts. -/
abbrev Environment := List (Text × Text)

/-- Everything that can be configured. -/
structure Settings where
  /-- The URL of the backend. -/
  url : Text
  /-- Whether certificates are accepted without verification. -/
  unverified : Bool := false
  /-- The name to present. -/
  user : Option Text := none
  /-- The password to present. -/
  password : Option Text := none
  /-- The tenant to name. -/
  tenant : Option Text := none
  /-- The name of the service whose lines are wanted. -/
  serviceName : Text := "jenkins"
  /-- The namespace of the service. -/
  serviceNamespace : Option Text := none
  /-- The template of the link. -/
  template : Text
  /-- How many seconds to wait before asking again. -/
  interval : Float := TailPolicy.standard.interval
  /-- How many seconds no line has to come for a log to have ended. -/
  patience : Float := TailPolicy.standard.patience
  /-- How many lines make a page. -/
  pageSize : Int := 1000
  /-- How many seconds an answer may take. -/
  timeout : Float := 30

namespace Settings

/-- The template of the link, unless another one is configured. -/
def standardTemplate : Text :=
  "\x7b\x7b grafanaUrl \x7d\x7d/explore?left=" ++
  "\x7b\"datasource\":\"loki\",\"queries\":[\x7b\"expr\":\"\x7bservice_name=\\\"\x7b\x7b serviceName \x7d\x7d\\\"\x7d " ++
  "| trace_id=\\\"\x7b\x7b traceId \x7d\x7d\\\"\"\x7d]," ++
  "\"range\":\x7b\"from\":\"\x7b\x7b (startTime.timestamp() * 1000) | int \x7d\x7d\",\"to\":\"\x7b\x7b (endTime.timestamp() * 1000) | int \x7d\x7d\"\x7d\x7d"

/-- How many lines make a page, unless configured. -/
def standardPageSize : Int := 1000

/-- How many seconds an answer may take, unless configured. -/
def standardTimeout : Float := 30

/-- The text under a name, unless it is empty. -/
def read? (environment : Environment) (name : Text) : Option Text :=
  ((environment.find? fun (candidate, _) => candidate == name).map (·.2)).filter
    fun value => !value.isEmpty

/-- The value of the text under a name. -/
def readAs {α : Type} (environment : Environment) (name : Text)
    (parse : Text → Except SettingFault α) (default : α) : Except Failure α :=
  match read? environment name with
  | none => .ok default
  | some value =>
    match parse value with
    | .ok parsed => .ok parsed
    | .error fault => .error (.configuration (.invalidVariable name fault))

/-- The words for yes. -/
def yesWords : List Text :=
  (["1", "true", "yes", "on"] : List String).map Text.ofString

/-- The words for no; white space alone is one of them. -/
def noWords : List Text :=
  (["0", "false", "no", "off", ""] : List String).map Text.ofString

/-- The truth value that a text stands for. -/
def parseBool (value : Text) : Except SettingFault Bool :=
  let word := Text.lowerAscii value.strip
  if yesWords.contains word then .ok true
  else if noWords.contains word then .ok false
  else .error (.notBoolean value)

/-- The decimal that a text stands for. -/
def parseFloat (value : Text) : Except SettingFault Float :=
  match Numeral.float? value with
  | some number => .ok number
  | none => .error (.notDecimal value)

/-- The whole number that a text stands for. -/
def parseInt (value : Text) : Except SettingFault Int :=
  (Numeral.int? value).mapError .numeral

/-- The settings in an environment. -/
def ofEnvironment (environment : Environment) : Except Failure Settings := do
  let url := (read? environment "LOKI_URL").getD []
  if url.isBlank then throw (.configuration .missingUrlVariable)
  let unverified ← readAs environment "LOKI_DISABLE_SSL_VERIFICATION" parseBool false
  let interval ← readAs environment "LOKI_TAIL_POLL_INTERVAL" parseFloat
    TailPolicy.standard.interval
  let patience ← readAs environment "LOKI_TAIL_MAX_WAIT" parseFloat TailPolicy.standard.patience
  let pageSize ← readAs environment "LOKI_QUERY_PAGE_SIZE" parseInt standardPageSize
  let timeout ← readAs environment "LOKI_REQUEST_TIMEOUT" parseFloat standardTimeout
  return { url, unverified, user := read? environment "LOKI_USERNAME",
           password := read? environment "LOKI_PASSWORD",
           tenant := read? environment "LOKI_TENANT_ID",
           serviceName := (read? environment "OTEL_SERVICE_NAME").getD "jenkins",
           serviceNamespace := read? environment "OTEL_SERVICE_NAMESPACE",
           template := (read? environment "LOKI_BUILD_LOGS_VISUALIZATION_URL_TEMPLATE").getD
             standardTemplate,
           interval, patience, pageSize, timeout }

/-- The credentials to present: none without a name. -/
def credentials (settings : Settings) : Option Credentials :=
  settings.user.map fun user => ⟨user, settings.password.getD []⟩

/-- How a growing log is followed. -/
def policy (settings : Settings) : TailPolicy Float :=
  ⟨settings.interval, settings.patience⟩

/-- A connection to the configured backend. -/
def connection (settings : Settings) : Except Failure Connection :=
  Connection.create settings.url settings.credentials settings.tenant (!settings.unverified)
    settings.timeout

/-- How the configured link is rendered. -/
def renderer (engine : TemplateEngine) (settings : Settings) : Except Failure Renderer :=
  engine.renderer settings.template

end Settings
end RunLog
