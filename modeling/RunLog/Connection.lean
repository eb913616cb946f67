import RunLog.Http
import RunLog.Url.Backend

/-!
# Connections

A connection holds where the backend is and how it is spoken to: credentials, a tenant, whether
certificates are verified, and how long an answer may take.  It has requests formed and sent; once
closed it has none.
-/

namespace RunLog

/-- A connection to the backend. -/
structure Connection where
  /-- The URL of the backend, without slashes at its end. -/
  url : Text
  /-- The credentials to present, if any. -/
  credentials : Option Credentials
  /-- The tenant to name, if any. -/
  tenant : Option Text
  /-- Whether certificates are verified. -/
  verify : Bool
  /-- How many seconds an answer may take. -/
  timeout : Float
  /-- Whether the connection is closed. -/
  closed : Bool

namespace Connection

/-- A new connection to the backend at a URL.  A blank URL and one that names no backend are
refused, and an empty tenant is none. -/
def create (url : Option Text) (credentials : Option Credentials) (tenant : Option Text)
    (verify : Bool) (timeout : Float) : Except Failure Connection :=
  match url with
  | none => .error (.configuration .blankUrl)
  | some url =>
    if url.isBlank then .error (.configuration .blankUrl)
    else
      let normal := BackendUrl.normalize url
      match BackendUrl.check normal with
      | .error fault => .error (.configuration (.invalidUrl normal fault))
      | .ok () =>
        .ok { url := normal, credentials, tenant := tenant.filter fun name => !name.isEmpty, verify,
              timeout, closed := false }

/-- What is to be warned of when a connection is made. -/
def warnings (connection : Connection) : List Text :=
  if connection.verify then []
  else ["SSL certificate and hostname verification disabled for " ++ connection.url]

/-- The URL of the backend followed by a path. -/
def address (connection : Connection) (path : Text) : Text :=
  connection.url ++ path

/-- What is asked for when a path with parameters is. -/
def call (connection : Connection) (path : Text) (parameters : List Parameter) : Call where
  url := connection.address path
  parameters
  credentials := connection.credentials
  tenant := connection.tenant
  verify := connection.verify
  timeout := connection.timeout

/-- What a request is called in diagnostics.  One that cannot be formed on the way to the backend is
called by its URL. -/
def describe {ω : Type} (sender : Sender ω) (connection : Connection) (path : Text)
    (parameters : List Parameter) : Except Failure Text :=
  match sender.target (connection.address path) parameters with
  | .ok target => .ok ("GET " ++ target)
  | .error failure =>
    if failure.isTransport then .ok ("GET " ++ connection.address path) else .error failure

/-- A connection after it is closed, which can be done once. -/
def close (connection : Connection) : Except Failure Connection :=
  if connection.closed then .error (.closed (.connection connection.url))
  else .ok { connection with closed := true }

/-- A connection after something was closed while a request was under way. -/
def during (connection : Connection) (closing : Closing) : Connection :=
  { connection with closed := connection.closed || closing.connection }

/-- What comes of asking for a path. -/
structure Exchange (ω : Type) where
  /-- The answer, or why there is none. -/
  answer : Except Failure Response
  /-- What was closed meanwhile. -/
  closing : Closing
  /-- The connection afterwards. -/
  connection : Connection
  /-- The world afterwards. -/
  world : ω

/-- Ask for a path with parameters.  A closed connection asks for nothing. -/
def execute {ω : Type} (sender : Sender ω) (connection : Connection) (path : Text)
    (parameters : List Parameter) (world : ω) : Exchange ω :=
  if connection.closed then
    ⟨.error (.closed (.connection connection.url)), .nothing, connection, world⟩
  else
    match sender.form (connection.call path parameters) world with
    | .error failure => ⟨.error failure, .nothing, connection, world⟩
    | .ok request =>
      let (delivery, world) := sender.send request world
      ⟨delivery.answer, delivery.closing, connection.during delivery.closing, world⟩

/-- The text of a connection in diagnostics; it does not show the credentials. -/
def display (connection : Connection) : Text :=
  let tenant : Text := (connection.tenant.map Text.quoted).getD "None"
  let credentials : Text := if connection.credentials.isSome then "***" else "None"
  let unverified : Text := if connection.verify then "False" else "True"
  "ConnectionProfile(url=" ++ connection.url.quoted ++ ", tenant_id=" ++ tenant ++ ", credentials="
    ++ credentials ++ ", disable_ssl_verifications=" ++ unverified ++ ")"

@[simp] theorem execute_closed {ω : Type} (sender : Sender ω) (connection : Connection)
    (path : Text) (parameters : List Parameter) (world : ω) (isClosed : connection.closed = true) :
    (connection.execute sender path parameters world).world = world := by
  simp [execute, isClosed]

end Connection
end RunLog
