import RunLog.Batch
import RunLog.Connection
import RunLog.LabelQuery

/-!
# The client

The client asks the backend for one page of a log at a time, and on request whether the backend
answers at all.
-/

namespace RunLog

/-- A client: a connection, the service whose lines are wanted, and how many lines make a page. -/
structure Client where
  /-- The connection. -/
  connection : Connection
  /-- The service. -/
  service : Service
  /-- How many lines are asked for at once. -/
  pageSize : Int

namespace Client

/-- Where entries are asked for. -/
def queryPath : Text := "/loki/api/v1/query_range"

/-- Where the backend is asked whether it answers. -/
def checkPath : Text := "/loki/api/v1/format_query"

/-- The parameters of a query. -/
def queryParameters (client : Client) (scope : Scope) (window : Window) : List Parameter :=
  [("query", .text (LabelQuery.text client.service scope)),
    ("start", .text (Text.ofInt window.start)), ("end", .text (Text.ofInt window.stop)),
    ("direction", .text "forward"), ("limit", .text (Text.ofInt client.pageSize))]

/-- The parameters of a check. -/
def checkParameters : List Parameter :=
  [("query", .text "\x7bfoo=\"bar\"\x7d")]

/-- What becomes of the answer to a query. -/
def readAnswer {ω : Type} (sender : Sender ω) (client : Client) (parameters : List Parameter)
    (window : Window) : Except Failure Response → Except Failure Batch
  | .error failure =>
    if failure.isTransport then do
      let request ← client.connection.describe sender queryPath parameters
      throw (.unreachable request failure.detail)
    else .error failure
  | .ok response =>
    if response.isSuccess then
      match response.json with
      | .ok value => Batch.ofResponse sender.room client.pageSize window value
      | .error failure =>
        if failure.isValue then .error (.queryFailed (.unreadable response.status response.text))
        else .error failure
    else do
      let request ← client.connection.describe sender queryPath parameters
      throw (.queryFailed (.status request response.status response.text))

/-- What comes of a query. -/
structure Queried (ω : Type) where
  /-- The batch, or why there is none. -/
  batch : Except Failure Batch
  /-- What was closed meanwhile. -/
  closing : Closing
  /-- The client afterwards. -/
  client : Client
  /-- The world afterwards. -/
  world : ω

/-- Ask for a page of the lines of a scope in a window. -/
def query {ω : Type} (sender : Sender ω) (client : Client) (scope : Scope) (window : Window)
    (world : ω) : Queried ω :=
  let parameters := client.queryParameters scope window
  let exchange := client.connection.execute sender queryPath parameters world
  let after := { client with connection := exchange.connection }
  ⟨after.readAnswer sender parameters window exchange.answer, exchange.closing, after,
    exchange.world⟩

/-- The outcome of a check: whether it went well, and what there is to say. -/
structure Verdict where
  /-- Whether the check went well. -/
  ok : Bool
  /-- What there is to say. -/
  message : Text
  deriving DecidableEq, Repr

/-- What comes of a check. -/
structure Checked (ω : Type) where
  /-- The outcome, or a failure that is not one of reaching the backend. -/
  verdict : Except Failure Verdict
  /-- What is to be warned of. -/
  warnings : List Text
  /-- What was closed meanwhile. -/
  closing : Closing
  /-- The client afterwards. -/
  client : Client
  /-- The world afterwards. -/
  world : ω

/-- The outcome of a check that did not reach the backend or got another answer than the expected
one. -/
def refused (request detail : Text) : Verdict :=
  ⟨false, "Failure to access Loki (" ++ request ++ "): " ++ detail⟩

/-- What becomes of the answer to a check, and what is to be warned of. -/
def judge (request : Text) : Except Failure Response → Except Failure Verdict × List Text
  | .error failure =>
    if failure.isTransport || failure.isClosed then
      (.ok (refused request failure.report),
        ["Loki connectivity check failed: " ++ failure.report])
    else (.error failure, [])
  | .ok response =>
    if response.status = 200 then (.ok ⟨true, "Loki connection successful"⟩, [])
    else (.ok (refused request response.text), [])

/-- Ask the backend whether it answers. -/
def check {ω : Type} (sender : Sender ω) (client : Client) (world : ω) : Checked ω :=
  match client.connection.describe sender checkPath checkParameters with
  | .error failure => ⟨.error failure, [], .nothing, client, world⟩
  | .ok request =>
    let exchange := client.connection.execute sender checkPath checkParameters world
    let (verdict, warnings) := judge request exchange.answer
    ⟨verdict, warnings, exchange.closing, { client with connection := exchange.connection },
      exchange.world⟩

end Client
end RunLog
