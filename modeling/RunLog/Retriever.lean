import RunLog.Buffer
import RunLog.Client
import RunLog.Settings

/-!
# The retriever

The retriever opens logs.  An open log is a buffer over a byte stream, with a header that holds the
link to it.  All logs of a retriever share its connection; closing the retriever closes the
connection and ends every log that is still being read.

Opening a log asks for its first page, so that a backend that does not answer shows at once.  When
anything fails after the iterator exists, the iterator is closed before the failure is reported.
-/

namespace RunLog

/-- What a retriever asks of the outside. -/
structure Host (ω : Type) where
  /-- Forms and sends requests. -/
  sender : Sender ω
  /-- The time, in nanoseconds. -/
  clock : ω → Int × ω
  /-- A wait of so many seconds, with its number among those of the iterator; whether the iterator
  was closed meanwhile, or why nobody waited. -/
  wait : Nat → Float → ω → Except Failure Bool × ω
  /-- The time, as a moment. -/
  now : ω → Moment × ω

/-- A client and the world outside. -/
structure Session (ω : Type) where
  /-- The client. -/
  client : Client
  /-- The world. -/
  world : ω

/-- What an iterator over the lines of a scope finds outside when it asks by way of a client. -/
def Host.surroundings {ω : Type} (host : Host ω) (scope : Scope) :
    Surroundings (Session ω) Float where
  clock session :=
    let (reading, world) := host.clock session.world
    (reading, { session with world })
  query window session :=
    let queried := session.client.query host.sender scope window session.world
    ((queried.batch, queried.closing.iterator), ⟨queried.client, queried.world⟩)
  wait number interval session :=
    let (outcome, world) := host.wait number interval session.world
    (outcome, { session with world })

/-- A log that was opened. -/
structure OpenLog where
  /-- The bytes of the log. -/
  buffer : Buffer Float
  /-- What is shown above the log. -/
  header : Header
  /-- Whether the run had finished. -/
  complete : Bool

/-- The name of the encoding of all logs. -/
def OpenLog.encoding : Text := "utf-8"

/-- A retriever. -/
structure Retriever where
  /-- The client, with the connection. -/
  client : Client
  /-- Where the values for all links come from. -/
  provider : Provider
  /-- How links are rendered. -/
  renderer : Renderer
  /-- How the bytes of a line are made. -/
  extractor : Extractor
  /-- How a growing log is followed. -/
  policy : TailPolicy Float
  /-- The logs that were opened, in order. -/
  logs : List OpenLog

namespace Retriever

/-- What a retriever is made of; what is missing is none. -/
structure Parts where
  url : Option Text
  serviceName : Option Text
  serviceNamespace : Option Text
  renderer : Option Renderer
  provider : Option Provider
  /-- Whether there is a journal to report to. -/
  journal : Bool
  extractor : Option Extractor
  credentials : Option Credentials
  tenant : Option Text
  verify : Bool
  policy : TailPolicy Float
  pageSize : Int
  timeout : Float

/-- The names of the collaborators that are missing. -/
def Parts.missing (parts : Parts) : List Text :=
  let absent (present : Bool) (name : Text) : List Text := if present then [] else [name]
  absent parts.renderer.isSome "visualization_url_template"
    ++ absent parts.provider.isSome "template_bindings_provider"
    ++ absent parts.journal "tracer"
    ++ absent parts.extractor.isSome "annotation_extractor"

/-- The parts of a retriever that are configured by settings. -/
def Parts.ofSettings (engine : TemplateEngine) (settings : Settings) (provider : Option Provider)
    (journal : Bool) (extractor : Option Extractor) : Except Failure Parts :=
  (settings.renderer engine).map fun renderer =>
    { url := settings.url, serviceName := settings.serviceName,
      serviceNamespace := settings.serviceNamespace, renderer, provider, journal, extractor,
      credentials := settings.credentials, tenant := settings.tenant,
      verify := !settings.unverified, policy := settings.policy, pageSize := settings.pageSize,
      timeout := settings.timeout }

/-- A retriever made of the given parts.  Faults are found in a fixed order: the URL is missing, the
service has no name, collaborators are missing, the page size is not positive, the URL names no
backend. -/
def create (parts : Parts) : Except Failure Retriever := do
  if (parts.url.getD []).isBlank then throw (.configuration .blankUrl)
  let some serviceName := parts.serviceName.filter fun name => !name.isEmpty
    | throw (.configuration .blankServiceName)
  let missing := Failure.configuration (.missingCollaborators parts.missing)
  if !parts.journal then throw missing
  let some renderer := parts.renderer | throw missing
  let some provider := parts.provider | throw missing
  let some extractor := parts.extractor | throw missing
  if parts.pageSize ≤ 0 then throw (.configuration (.pageSize parts.pageSize))
  let connection ← Connection.create parts.url parts.credentials parts.tenant parts.verify
    parts.timeout
  return { client := ⟨connection, ⟨serviceName, parts.serviceNamespace⟩, parts.pageSize⟩,
           provider, renderer, extractor, policy := parts.policy, logs := [] }

/-- Whether a retriever is closed. -/
def closed (retriever : Retriever) : Bool :=
  retriever.client.connection.closed

/-- A log whose iterator is closed. -/
def endLog (log : OpenLog) : OpenLog :=
  let stream := log.buffer.stream
  { log with
    buffer := { log.buffer with stream := { stream with iterator := stream.iterator.close } } }

/-- A retriever with another client.  Once its connection is closed, every log is ended. -/
def withClient (retriever : Retriever) (client : Client) : Retriever :=
  { retriever with
    client
    logs := if client.connection.closed then retriever.logs.map endLog else retriever.logs }

/-- What comes of an operation on a retriever. -/
structure Result (ω α : Type) where
  /-- The retriever afterwards. -/
  retriever : Retriever
  /-- The world afterwards. -/
  world : ω
  /-- What the journal holds. -/
  notices : List Notice
  /-- The result, or a failure. -/
  outcome : Except Failure α

/-! ## Opening logs -/

/-- Which log is to be opened. -/
structure Wanted where
  /-- Which lines are wanted. -/
  scope : Scope
  /-- The span of the run. -/
  span : Text

/-- The values of a log that its link is rendered with. -/
def localBindings {ω : Type} (host : Host ω) (service : Service) (wanted : Wanted) (world : ω) :
    Except Failure LocalBindings × ω :=
  let scope := wanted.scope
  let (stop, world) :=
    match scope.stop with
    | some stop => (stop.toUtc?, world)
    | none =>
      let (now, world) := host.now world
      (now.toUtc?, world)
  match scope.start.toUtc?, stop with
  | some start, some stop =>
    (.ok ⟨scope.trace, wanted.span, start, stop, some service.name, service.space⟩, world)
  | _, _ => (.error (.malformed .outOfRange), world)

/-- What comes of preparing a log. -/
structure Prepared (ω : Type) where
  /-- The iterator afterwards. -/
  iterator : Iterator Float
  /-- The client and the world afterwards. -/
  session : Session ω
  /-- What happened. -/
  events : List (Event Float)
  /-- The header of the log, or a failure. -/
  outcome : Except Failure Header

/-- Ask for the first page of a log and make its header. -/
def prepare {ω : Type} (host : Host ω) (retriever : Retriever) (wanted : Wanted)
    (iterator : Iterator Float) (world : ω) : Prepared ω :=
  let step := iterator.prefetch (host.surroundings wanted.scope) ⟨retriever.client, world⟩
  match step.failure with
  | some failure => ⟨step.iterator, step.world, step.events, .error failure⟩
  | none =>
    let (ofLog, world) := localBindings host retriever.client.service wanted step.world.world
    let session : Session ω := { step.world with world }
    ⟨step.iterator, session, step.events,
      ofLog.bind fun ofLog => Header.create retriever.provider retriever.renderer ofLog⟩

/-- The span of opening a log.  A failure is reported before the work ends. -/
def openingSpan (work : Work) (scope : Scope) (failure : Option Failure) : Span :=
  let run : List (Text × Attribute) :=
    [("ci.pipeline.id", .text scope.pipeline), ("ci.pipeline.run.number", .int scope.run)]
  let step : List (Text × Attribute) :=
    (scope.step.map fun step => (Text.ofString "jenkins.step.id", Attribute.text step)).toList
  let begun := Span.start work none
    (run ++ step ++ [(Text.ofString "complete", Attribute.bool scope.complete)])
  let reported :=
    match failure with
    | some failure => (begun.record failure).fail failure false
    | none => begun
  reported.finish failure

/-- The failure of an outcome. -/
def failureOf {α : Type} : Except Failure α → Option Failure
  | .ok _ => none
  | .error failure => some failure

/-- What comes of opening a log. -/
structure Opening (ω : Type) where
  /-- What comes of it for the retriever; the number of the log among those of the retriever. -/
  result : Result ω Nat
  /-- The buffer that there was already when a failure came, as it was left. -/
  abandoned : Option (Buffer Float)

/-- Open a log with an iterator over its lines.  When anything fails, the buffer is closed before
the failure is passed on. -/
def openWith {ω : Type} (host : Host ω) (work : Work) (wanted : Wanted) (retriever : Retriever)
    (iterator : Iterator Float) (world : ω) : Opening ω :=
  let prepared := prepare host retriever wanted iterator world
  let buffer := Buffer.start (ByteStream.start prepared.iterator retriever.extractor)
  let span := openingSpan work wanted.scope (failureOf prepared.outcome)
  let notices := Notice.ofEvents wanted.scope (some work) prepared.events ++ [.span span]
  match prepared.outcome with
  | .error failure =>
    ⟨⟨retriever.withClient prepared.session.client, prepared.session.world, notices,
      .error failure⟩, some buffer.close⟩
  | .ok header =>
    let log : OpenLog := ⟨buffer, header, wanted.scope.complete⟩
    let extended := { retriever with logs := retriever.logs ++ [log] }
    ⟨⟨extended.withClient prepared.session.client, prepared.session.world, notices,
      .ok retriever.logs.length⟩, none⟩

/-- Open a log, with what is left of it if that fails. -/
def opening {ω : Type} (host : Host ω) (work : Work) (wanted : Wanted) (retriever : Retriever)
    (world : ω) : Opening ω :=
  let refuse (failure : Failure) : Opening ω :=
    ⟨⟨retriever, world, [.span (openingSpan work wanted.scope (some failure))], .error failure⟩,
      none⟩
  if retriever.closed then refuse (.closed .retriever)
  else
    match Iterator.start wanted.scope retriever.policy with
    | .error failure => refuse failure
    | .ok iterator => openWith host work wanted retriever iterator world

/-- Open a log; its number among the logs of the retriever. -/
def openLog {ω : Type} (host : Host ω) (work : Work) (wanted : Wanted) (retriever : Retriever)
    (world : ω) : Result ω Nat :=
  (opening host work wanted retriever world).result

/-! ## Using logs -/

/-- Use the buffer of a log. -/
def useLog {ω α : Type} (host : Host ω) (number : Nat) (retriever : Retriever) (world : ω)
    (use : Surroundings (Session ω) Float → Buffer Float → Session ω → Buffer.Use (Session ω) α) :
    Option (Result ω α) :=
  retriever.logs[number]?.map fun log =>
    let env := host.surroundings log.buffer.stream.iterator.scope
    let used := use env log.buffer ⟨retriever.client, world⟩
    let updated :=
      { retriever with logs := retriever.logs.set number { log with buffer := used.buffer } }
    ⟨updated.withClient used.world.client, used.world.world, used.notices, used.outcome⟩

/-- Ask the backend whether it answers. -/
def check {ω : Type} (host : Host ω) (retriever : Retriever) (world : ω) :
    Result ω Client.Verdict :=
  let checked := retriever.client.check host.sender world
  ⟨retriever.withClient checked.client, checked.world, checked.warnings.map .warning,
    checked.verdict⟩

/-- Close a retriever and end its logs.  A retriever can be closed once. -/
def close (retriever : Retriever) : Retriever × Except Failure Unit :=
  let ended := { retriever with logs := retriever.logs.map endLog }
  match retriever.client.connection.close with
  | .ok connection => (ended.withClient { retriever.client with connection }, .ok ())
  | .error failure => (ended, .error failure)

/-- Close a retriever unless it is closed. -/
def leave (retriever : Retriever) : Retriever × Except Failure Unit :=
  if retriever.closed then (retriever, .ok ()) else retriever.close

@[simp] theorem closed_withClient (retriever : Retriever) (client : Client) :
    (retriever.withClient client).closed = client.connection.closed := rfl

end Retriever
end RunLog
