import RunLog.Proofs.Closing
import RunLog.Proofs.Worlds

/-!
# Credentials do not show

Beside a run stands another one, in which other credentials are presented and everything else is the
same.  Nothing that is handed out or reported tells the two runs apart, and the requests differ only
in the header that proves who is asking.

The library that forms requests is taken to put credentials into that header and to use them for
nothing else.  The credentials have to be ones of single bytes.  Others do show, since no request
can be formed with them.
-/

namespace RunLog

/-! ## Requests -/

/-- A request without the header that proves who is asking. -/
def Request.anonymous (request : Request) : Request :=
  { request with authorization := none }

namespace Sender

variable {ω : Type}

/-- Credentials of single bytes come into a request as the header that proves who is asking, and
take no other part in forming it. -/
def PresentsInHeader (sender : Sender ω) : Prop :=
  ∀ own other : Credentials, own.IsLatin → other.IsLatin → ∀ (call : Call) (world : ω),
    (sender.form { call with credentials := some other } world).map Request.anonymous
      = (sender.form { call with credentials := some own } world).map Request.anonymous

/-- What becomes of a request does not depend on who is asking. -/
def Indifferent (sender : Sender ω) : Prop :=
  ∀ request request' world, request'.anonymous = request.anonymous →
    sender.send request' world = sender.send request world

/-- A sender that collects the requests. -/
def collecting (sender : Sender ω) : Sender (ω × List Request) where
  target := sender.target
  form call world := sender.form call world.1
  send request world :=
    let (delivery, later) := sender.send request world.1
    (delivery, later, world.2 ++ [request])
  room := sender.room

end Sender

/-- Two worlds in which the same has happened, whoever asked. -/
structure Indistinct {ω : Type} (first second : ω × List Request) : Prop where
  world : second.1 = first.1
  requests : second.2.map Request.anonymous = first.2.map Request.anonymous

/-! ## Connections -/

namespace Connection

/-- A connection that presents credentials. -/
def presenting (credentials : Credentials) (connection : Connection) : Connection :=
  { connection with credentials := some credentials }

/-- Credentials take no part in making a connection. -/
theorem create_presenting (credentials : Credentials) (url tenant : Option Text) (verify : Bool)
    (timeout : Float) :
    create url (some credentials) tenant verify timeout
      = (create url none tenant verify timeout).map (presenting credentials) := by
  unfold create
  split
  · rfl
  · dsimp only
    split
    · rfl
    · split <;> rfl

/-- A request is described without credentials. -/
@[simp] theorem describe_presenting {ω : Type} (sender : Sender ω) (credentials : Credentials)
    (connection : Connection) (path : Text) (parameters : List Parameter) :
    (connection.presenting credentials).describe sender path parameters
      = connection.describe sender path parameters := rfl

theorem close_presenting (credentials : Credentials) (connection : Connection) :
    (connection.presenting credentials).close = connection.close.map (presenting credentials) := by
  unfold close presenting
  split <;> rfl

section Asking

variable {own other : Credentials} (latin : own.IsLatin) (otherLatin : other.IsLatin) {ω : Type}
  {sender : Sender ω} (inHeader : sender.PresentsInHeader) (connection : Connection) (path : Text)
  (parameters : List Parameter)
include latin otherLatin inHeader

/-- Whoever asks, the request is the same but for the header, or fails to be formed alike. -/
theorem form_presenting (world : ω) :
    (∃ failure,
        sender.form ((connection.presenting own).call path parameters) world = .error failure
        ∧ sender.form ((connection.presenting other).call path parameters) world = .error failure)
      ∨ ∃ request request',
        sender.form ((connection.presenting own).call path parameters) world = .ok request
        ∧ sender.form ((connection.presenting other).call path parameters) world = .ok request'
        ∧ request'.anonymous = request.anonymous := by
  have same : (sender.form ((connection.presenting other).call path parameters) world).map
      Request.anonymous
        = (sender.form ((connection.presenting own).call path parameters) world).map
          Request.anonymous :=
    inHeader own other latin otherLatin (connection.call path parameters) world
  cases formed : sender.form ((connection.presenting own).call path parameters) world <;>
    cases formed' : sender.form ((connection.presenting other).call path parameters) world <;>
    simp_all [Except.map]

/-- Whoever asks, what comes of it is the same. -/
theorem execute_presenting (indifferent : sender.Indifferent) {world world' : ω × List Request}
    (indistinct : Indistinct world world') :
    ∃ answer closing later afterwards afterwards',
      (connection.presenting own).execute sender.collecting path parameters world
          = ⟨answer, closing, presenting own later, afterwards⟩
        ∧ (connection.presenting other).execute sender.collecting path parameters world'
          = ⟨answer, closing, presenting other later, afterwards'⟩
        ∧ Indistinct afterwards afterwards' := by
  unfold execute
  cases closed : connection.closed with
  | true => exact ⟨_, _, connection, _, _, if_pos closed, if_pos closed, indistinct⟩
  | false =>
    rw [if_neg (by simp [presenting, closed]), if_neg (by simp [presenting, closed])]
    simp only [Sender.collecting, indistinct.world]
    rcases form_presenting latin otherLatin inHeader connection path parameters world.1
      with ⟨failure, formed, formed'⟩ | ⟨request, request', formed, formed', same⟩
    · rw [formed, formed']
      exact ⟨_, _, connection, _, _, rfl, rfl, indistinct⟩
    · have sameDelivery : sender.send request' world.1 = sender.send request world.1 :=
        indifferent request request' world.1 same
      rw [formed, formed']
      simp only [sameDelivery]
      refine ⟨_, _, connection.during (sender.send request world.1).1.closing, _, _, rfl, rfl,
        rfl, ?_⟩
      simp [indistinct.requests, same]

end Asking

end Connection

/-! ## The stand-in -/

/-- The stand-in presents credentials in their header. -/
theorem StandIn.presentsInHeader {ω : Type} (room : Int) (send : Request → ω → Delivery × ω) :
    (StandIn.sender room send).PresentsInHeader := by
  intro own other latin otherLatin call world
  obtain ⟨-, header, written⟩ := (basic_eq own).resolve_right fun unwritten => unwritten.1 latin
  obtain ⟨-, header', written'⟩ :=
    (basic_eq other).resolve_right fun unwritten => unwritten.1 otherLatin
  simp only [sender, form, authorization, written, written', bind, Except.bind, Except.map]
  cases Target.prepare call.url call.parameters with
  | error fault => rfl
  | ok target =>
    dsimp only
    cases checkTenant call.tenant with
    | error fault => rfl
    | ok _ =>
      dsimp only
      cases checkTarget target with
      | error fault => rfl
      | ok _ => cases isSendable target <;> rfl

/-! ## Clients -/

namespace Client

/-- A client that presents credentials. -/
def presenting (credentials : Credentials) (client : Client) : Client :=
  { client with connection := client.connection.presenting credentials }

/-- What can be done with a client by itself. -/
inductive Action
  /-- Ask for a page of the lines of a scope in a window. -/
  | query (scope : Scope) (window : Window)
  /-- Ask the backend whether it answers. -/
  | check
  /-- Close the connection. -/
  | close

/-- What a client hands out. -/
inductive Output
  /-- A page. -/
  | page (batch : Batch)
  /-- The outcome of a check. -/
  | verdict (verdict : Verdict)
  /-- Nothing. -/
  | nothing

/-- What comes of an operation on a client. -/
structure Result (ω : Type) where
  /-- The client afterwards. -/
  client : Client
  /-- The world afterwards. -/
  world : ω
  /-- What is to be warned of. -/
  warnings : List Text
  /-- What was closed meanwhile. -/
  closing : Closing
  /-- The result, or a failure. -/
  outcome : Except Failure Output

/-- Do something with a client. -/
def act {ω : Type} (sender : Sender ω) (client : Client) (world : ω) : Action → Result ω
  | .query scope window =>
    let queried := client.query sender scope window world
    ⟨queried.client, queried.world, [], queried.closing, queried.batch.map .page⟩
  | .check =>
    let checked := client.check sender world
    ⟨checked.client, checked.world, checked.warnings, checked.closing,
      checked.verdict.map .verdict⟩
  | .close =>
    match client.connection.close with
    | .ok connection => ⟨{ client with connection }, world, [], .nothing, .ok .nothing⟩
    | .error failure => ⟨client, world, [], .nothing, .error failure⟩

/-- Do several things with a client, whether or not they succeed. -/
def acts {ω : Type} (sender : Sender ω) (actions : List Action) (state : Client × ω) : Client × ω :=
  actions.foldl (fun state action =>
    let result := act sender state.1 state.2 action
    (result.client, result.world)) state

/-- Two results that differ only in the credentials that the clients present and in the header of
the requests. -/
structure Result.Alike {ω : Type} (own other : Credentials)
    (first second : Result (ω × List Request)) : Prop where
  client : ∃ client : Client, first.client = client.presenting own
    ∧ second.client = client.presenting other
  world : Indistinct first.world second.world
  warnings : second.warnings = first.warnings
  closing : second.closing = first.closing
  outcome : second.outcome = first.outcome

theorem Result.Alike.display {ω : Type} {own other : Credentials}
    {first second : Result (ω × List Request)} (alike : Result.Alike own other first second) :
    second.client.connection.display = first.client.connection.display := by
  obtain ⟨client, eq, eq'⟩ := alike.client
  rw [eq, eq']
  rfl

section Asking

variable {own other : Credentials} (latin : own.IsLatin) (otherLatin : other.IsLatin)
  {ω : Type} {sender : Sender ω} (inHeader : sender.PresentsInHeader)
  (indifferent : sender.Indifferent) (client : Client) {world world' : ω × List Request}
  (indistinct : Indistinct world world')
include latin otherLatin inHeader indifferent indistinct

theorem query_presenting (scope : Scope) (window : Window) :
    ∃ batch closing later afterwards afterwards',
      (client.presenting own).query sender.collecting scope window world
          = ⟨batch, closing, presenting own later, afterwards⟩
        ∧ (client.presenting other).query sender.collecting scope window world'
          = ⟨batch, closing, presenting other later, afterwards'⟩
        ∧ Indistinct afterwards afterwards' := by
  obtain ⟨answer, closing, later, afterwards, afterwards', asked, asked', still⟩ :=
    client.connection.execute_presenting latin otherLatin inHeader queryPath
      (client.queryParameters scope window) indifferent indistinct
  let after : Client := { client with connection := later }
  let parameters := client.queryParameters scope window
  let batch := after.readAnswer sender.collecting parameters window answer
  refine ⟨batch, closing, after, afterwards, afterwards', ?_, ?_, still⟩
  · simp only [query, presenting, queryParameters] at asked ⊢
    rw [asked]
    rfl
  · simp only [query, presenting, queryParameters] at asked' ⊢
    rw [asked']
    rfl

theorem check_presenting :
    ∃ verdict warnings closing later afterwards afterwards',
      (client.presenting own).check sender.collecting world
          = ⟨verdict, warnings, closing, presenting own later, afterwards⟩
        ∧ (client.presenting other).check sender.collecting world'
          = ⟨verdict, warnings, closing, presenting other later, afterwards'⟩
        ∧ Indistinct afterwards afterwards' := by
  simp only [check, presenting, Connection.describe_presenting]
  cases client.connection.describe sender.collecting checkPath checkParameters with
  | error failure => exact ⟨_, _, _, client, _, _, rfl, rfl, indistinct⟩
  | ok request =>
    obtain ⟨answer, closing, later, afterwards, afterwards', asked, asked', still⟩ :=
      client.connection.execute_presenting latin otherLatin inHeader checkPath checkParameters
        indifferent indistinct
    simp only [asked, asked']
    exact ⟨_, _, _, { client with connection := later }, _, _, rfl, rfl, still⟩

/-- One operation. -/
theorem act_presenting (action : Action) :
    Result.Alike own other (act sender.collecting (client.presenting own) world action)
      (act sender.collecting (client.presenting other) world' action) := by
  cases action with
  | query scope window =>
    obtain ⟨batch, closing, later, afterwards, afterwards', asked, asked', still⟩ :=
      client.query_presenting latin otherLatin inHeader indifferent indistinct scope window
    simp only [act, asked, asked']
    exact ⟨⟨later, rfl, rfl⟩, still, rfl, rfl, rfl⟩
  | check =>
    obtain ⟨verdict, warnings, closing, later, afterwards, afterwards', asked, asked', still⟩ :=
      client.check_presenting latin otherLatin inHeader indifferent indistinct
    simp only [act, asked, asked']
    exact ⟨⟨later, rfl, rfl⟩, still, rfl, rfl, rfl⟩
  | close =>
    simp only [act, presenting, Connection.close_presenting]
    cases client.connection.close with
    | ok connection =>
      exact ⟨⟨{ client with connection }, rfl, rfl⟩, indistinct, rfl, rfl, rfl⟩
    | error failure => exact ⟨⟨client, rfl, rfl⟩, indistinct, rfl, rfl, rfl⟩

/-- Any number of operations. -/
theorem acts_presenting (actions : List Action) :
    let state := acts sender.collecting actions (client.presenting own, world)
    let state' := acts sender.collecting actions (client.presenting other, world')
    ∃ later : Client, state.1 = later.presenting own ∧ state'.1 = later.presenting other
      ∧ Indistinct state.2 state'.2 := by
  induction actions generalizing client world world' with
  | nil => exact ⟨client, rfl, rfl, indistinct⟩
  | cons action rest inductionHypothesis =>
    obtain ⟨⟨later, eq, eq'⟩, still, -⟩ :=
      act_presenting latin otherLatin inHeader indifferent client indistinct action
    have onward := inductionHypothesis later still
    rw [← eq, ← eq'] at onward
    exact onward

end Asking

end Client

/-! ## Retrievers -/

/-- An outside that collects the requests. -/
def Outside.collecting {ω : Type} (outside : Outside ω) : Outside (ω × List Request) where
  sender := outside.sender.collecting
  clock world := ((outside.clock world.1).1, (outside.clock world.1).2, world.2)
  wait number interval world :=
    ((outside.wait number interval world.1).1, (outside.wait number interval world.1).2, world.2)
  now world := ((outside.now world.1).1, (outside.now world.1).2, world.2)
  shuts number world := outside.shuts number world.1

/-- Two sessions that differ only in the credentials that the clients present and in the header of
the requests. -/
structure Session.Alike {ω : Type} (own other : Credentials)
    (first second : Session (ω × List Request)) : Prop where
  client : ∃ client : Client, first.client = client.presenting own
    ∧ second.client = client.presenting other
  world : Indistinct first.world second.world

section Surroundings

variable {own other : Credentials} (latin : own.IsLatin) (otherLatin : other.IsLatin)
  {ω : Type} {outside : Outside ω} (inHeader : outside.sender.PresentsInHeader)
  (indifferent : outside.sender.Indifferent) (scope : Scope)
include latin otherLatin inHeader indifferent

/-- An iterator gets the same answers, whoever asks. -/
theorem Outside.agree_host :
    (outside.collecting.toHost.surroundings scope).Agree (Session.Alike own other)
      (outside.collecting.toHost.surroundings scope) where
  clock session session' alike := by
    obtain ⟨client, same, requests⟩ := alike
    simp only [Host.surroundings, collecting, same]
    exact ⟨trivial, client, rfl, requests⟩
  query window session session' alike := by
    obtain ⟨⟨client, eq, eq'⟩, indistinct⟩ := alike
    obtain ⟨batch, closing, later, afterwards, afterwards', asked, asked', still⟩ :=
      client.query_presenting latin otherLatin inHeader indifferent indistinct scope window
    simp only [Host.surroundings, collecting, eq, eq', asked, asked']
    exact ⟨trivial, ⟨later, rfl, rfl⟩, still⟩
  wait number interval session session' alike := by
    obtain ⟨client, same, requests⟩ := alike
    simp only [Host.surroundings, collecting, same]
    exact ⟨trivial, client, rfl, requests⟩

theorem Outside.agree_surroundings :
    (outside.collecting.surroundings scope).Agree (Session.Alike own other)
      (outside.collecting.surroundings scope) where
  clock := (agree_host latin otherLatin inHeader indifferent scope).clock
  query := (agree_host latin otherLatin inHeader indifferent scope).query
  wait number interval session session' alike := by
    obtain ⟨⟨client, eq, eq'⟩, same, requests⟩ := alike
    simp only [surroundings, Host.surroundings, collecting, same]
    obtain ⟨outcome, later⟩ := outside.wait number interval session.world.1
    cases outcome with
    | error failure => exact ⟨rfl, ⟨client, eq, eq'⟩, rfl, requests⟩
    | ok closes =>
      by_cases shuts : outside.shuts number session.world.1 = true
      · let shut : Client := { client with connection := { client.connection with closed := true } }
        simp only [shuts, if_true]
        refine ⟨trivial, ⟨shut, ?_, ?_⟩, rfl, requests⟩
        · simp only [Session.shut, eq]
          rfl
        · simp only [Session.shut, eq']
          rfl
      · simp only [shuts, Bool.false_eq_true, if_false]
        exact ⟨trivial, ⟨client, eq, eq'⟩, rfl, requests⟩

end Surroundings

namespace Retriever

/-- A retriever whose client presents credentials. -/
def presenting (credentials : Credentials) (retriever : Retriever) : Retriever :=
  { retriever with client := retriever.client.presenting credentials }

/-- Credentials take no part in making a retriever. -/
theorem create_presenting (credentials : Credentials) (parts : Parts) :
    create { parts with credentials := some credentials }
      = (create { parts with credentials := none }).map (presenting credentials) := by
  have missing (given : Option Credentials) :
      Parts.missing { parts with credentials := given } = parts.missing := rfl
  have makes := Connection.create_presenting credentials parts.url parts.tenant parts.verify
    parts.timeout
  cases made : Connection.create parts.url none parts.tenant parts.verify parts.timeout
  all_goals
    simp only [made, Except.map] at makes
    simp only [create, missing, made, makes, bind, Except.bind, throw, throwThe,
      MonadExceptOf.throw, pure, Except.pure]
    -- the tests are the same with and without credentials
    repeat' split
    all_goals rfl

@[simp] theorem closed_presenting (credentials : Credentials) (retriever : Retriever) :
    (retriever.presenting credentials).closed = retriever.closed := rfl

@[simp] theorem policy_presenting (credentials : Credentials) (retriever : Retriever) :
    (retriever.presenting credentials).policy = retriever.policy := rfl

theorem close_presenting (credentials : Credentials) (retriever : Retriever) :
    (retriever.presenting credentials).close
      = (retriever.close.1.presenting credentials, retriever.close.2) := by
  simp only [close, presenting, Client.presenting, Connection.close_presenting]
  cases retriever.client.connection.close <;> rfl

theorem leave_presenting (credentials : Credentials) (retriever : Retriever) :
    (retriever.presenting credentials).leave
      = (retriever.leave.1.presenting credentials, retriever.leave.2) := by
  simp only [leave, closed_presenting, close_presenting]
  split <;> rfl

/-- Two results that differ only in the credentials that are presented and in the header of the
requests. -/
structure Result.Alike {ω α : Type} (own other : Credentials)
    (first second : Result (ω × List Request) α) : Prop where
  retriever : ∃ retriever : Retriever, first.retriever = retriever.presenting own
    ∧ second.retriever = retriever.presenting other
  world : Indistinct first.world second.world
  notices : second.notices = first.notices
  outcome : second.outcome = first.outcome

theorem Result.Alike.display {ω α : Type} {own other : Credentials}
    {first second : Result (ω × List Request) α} (alike : Result.Alike own other first second) :
    second.retriever.client.connection.display = first.retriever.client.connection.display := by
  obtain ⟨retriever, eq, eq'⟩ := alike.retriever
  rw [eq, eq']
  rfl

/-- The values of a log's link do not depend on who asks. -/
theorem localBindings_collecting {ω : Type} (outside : Outside ω) (service : Service)
    (wanted : Wanted) {world world' : ω × List Request} (indistinct : Indistinct world world') :
    let found := localBindings outside.collecting.toHost service wanted world
    let found' := localBindings outside.collecting.toHost service wanted world'
    found'.1 = found.1 ∧ Indistinct found.2 found'.2 := by
  obtain ⟨same, requests⟩ := indistinct
  simp only [localBindings, Outside.collecting, same]
  cases wanted.scope.stop with
  | some stop =>
    dsimp only
    split <;> exact ⟨rfl, same, requests⟩
  | none =>
    dsimp only
    split <;> exact ⟨rfl, rfl, requests⟩

section Acting

variable {own other : Credentials} (latin : own.IsLatin) (otherLatin : other.IsLatin)
  {ω : Type} {outside : Outside ω} (inHeader : outside.sender.PresentsInHeader)
  (indifferent : outside.sender.Indifferent) (retriever : Retriever)
  {world world' : ω × List Request} (indistinct : Indistinct world world')
include latin otherLatin inHeader indifferent indistinct

theorem prepare_presenting (wanted : Wanted) (iterator : Iterator Float) :
    ∃ later events outcome, ∃ sessions : Pair (@Session.Alike ω own other),
      prepare outside.collecting.toHost (retriever.presenting own) wanted iterator world
          = ⟨later, sessions.first, events, outcome⟩
        ∧ prepare outside.collecting.toHost (retriever.presenting other) wanted iterator world'
          = ⟨later, sessions.second, events, outcome⟩ := by
  obtain ⟨step, asked, asked'⟩ := iterator.exists_prefetch_pair
    (Outside.agree_host latin otherLatin inHeader indifferent wanted.scope)
    ⟨⟨retriever.client.presenting own, world⟩, ⟨retriever.client.presenting other, world'⟩,
      ⟨retriever.client, rfl, rfl⟩, indistinct⟩
  simp only [prepare, presenting, asked, asked', Iterator.Step.carried_failure]
  cases step.failure with
  | some failure => exact ⟨_, _, _, step.world, rfl, rfl⟩
  | none =>
    obtain ⟨same, still⟩ := localBindings_collecting outside retriever.client.service wanted
      step.world.related.world
    simp only [Client.presenting, Iterator.Step.carried_world, same]
    let after (session : Session (ω × List Request)) : Session (ω × List Request) :=
      { session with
        world := (localBindings outside.collecting.toHost retriever.client.service wanted
          session.world).2 }
    have alike : Session.Alike own other (after step.world.first) (after step.world.second) :=
      ⟨step.world.related.client, still⟩
    exact ⟨_, _, _, ⟨_, _, alike⟩, rfl, rfl⟩

theorem openLog_presenting (work : Work) (wanted : Wanted) :
    Result.Alike own other
      ((retriever.presenting own).openLog outside.collecting.toHost work wanted world)
      ((retriever.presenting other).openLog outside.collecting.toHost work wanted world') := by
  by_cases closed : retriever.closed = true
  · simp only [openLog, opening, closed_presenting, closed, if_true]
    exact ⟨⟨retriever, rfl, rfl⟩, indistinct, rfl, rfl⟩
  · simp only [openLog, opening, closed_presenting, policy_presenting, closed]
    cases Iterator.start wanted.scope retriever.policy with
    | error failure => exact ⟨⟨retriever, rfl, rfl⟩, indistinct, rfl, rfl⟩
    | ok iterator =>
      obtain ⟨later, events, outcome, sessions, asked, asked'⟩ :=
        prepare_presenting latin otherLatin inHeader indifferent retriever indistinct wanted
          iterator
      obtain ⟨⟨client, eq, eq'⟩, still⟩ := sessions.related
      simp only [openWith, asked, asked', eq, eq']
      cases outcome with
      | error failure => exact ⟨⟨retriever.withClient client, rfl, rfl⟩, still, rfl, rfl⟩
      | ok header =>
        let log : OpenLog :=
          ⟨Buffer.start (ByteStream.start later retriever.extractor), header, wanted.scope.complete⟩
        let extended := { retriever with logs := retriever.logs ++ [log] }
        exact ⟨⟨extended.withClient client, rfl, rfl⟩, still, rfl, rfl⟩

theorem check_presenting :
    Result.Alike own other
      ((retriever.presenting own).check outside.collecting.toHost world)
      ((retriever.presenting other).check outside.collecting.toHost world') := by
  obtain ⟨verdict, warnings, closing, later, afterwards, afterwards', asked, asked', still⟩ :=
    retriever.client.check_presenting latin otherLatin inHeader indifferent indistinct
  simp only [check, presenting, Outside.collecting, asked, asked']
  exact ⟨⟨retriever.withClient later, rfl, rfl⟩, still, rfl, rfl⟩

/-- One operation. -/
theorem act_presenting (action : Action) :
    Result.Alike own other (act outside.collecting (retriever.presenting own) world action)
      (act outside.collecting (retriever.presenting other) world' action) := by
  cases action with
  | openLog work wanted =>
    have opened := openLog_presenting latin otherLatin inHeader indifferent retriever indistinct
      work wanted
    exact { opened with outcome := congrArg (Except.map Output.log) opened.outcome }
  | useLog number usage =>
    cases found : retriever.logs[number]? with
    | none =>
      simp only [act, useLog, presenting, found]
      exact ⟨⟨retriever, rfl, rfl⟩, indistinct, rfl, rfl⟩
    | some log =>
      obtain ⟨used, asked, asked'⟩ := usage.exists_apply_pair
        (Outside.agree_surroundings latin otherLatin inHeader indifferent
          log.buffer.stream.iterator.scope) log.buffer
        ⟨⟨retriever.client.presenting own, world⟩, ⟨retriever.client.presenting other, world'⟩,
          ⟨retriever.client, rfl, rfl⟩, indistinct⟩
      obtain ⟨⟨client, eq, eq'⟩, still⟩ := used.world.related
      have there : (retriever.presenting own).logs[number]? = some log := found
      have there' : (retriever.presenting other).logs[number]? = some log := found
      rw [act_useLog outside.collecting there, act_useLog outside.collecting there']
      simp only [presenting, asked, asked', eq, eq', Buffer.Use.carried]
      let updated := { retriever with
        logs := retriever.logs.set number { log with buffer := used.buffer } }
      exact ⟨⟨updated.withClient client, rfl, rfl⟩, still, rfl, rfl⟩
  | check =>
    have checked := check_presenting latin otherLatin inHeader indifferent retriever indistinct
    exact { checked with outcome := congrArg (Except.map Output.verdict) checked.outcome }
  | close =>
    simp only [act, close_presenting]
    exact ⟨⟨retriever.close.1, rfl, rfl⟩, indistinct, rfl, rfl⟩
  | leave =>
    simp only [act, leave_presenting]
    exact ⟨⟨retriever.leave.1, rfl, rfl⟩, indistinct, rfl, rfl⟩

/-- Any number of operations. -/
theorem acts_presenting (actions : List Action) :
    let state := acts outside.collecting actions (retriever.presenting own, world)
    let state' := acts outside.collecting actions (retriever.presenting other, world')
    ∃ later : Retriever, state.1 = later.presenting own ∧ state'.1 = later.presenting other
      ∧ Indistinct state.2 state'.2 := by
  induction actions generalizing retriever world world' with
  | nil => exact ⟨retriever, rfl, rfl, indistinct⟩
  | cons action rest inductionHypothesis =>
    obtain ⟨⟨later, eq, eq'⟩, still, -⟩ :=
      act_presenting latin otherLatin inHeader indifferent retriever indistinct action
    have onward := inductionHypothesis later still
    rw [← eq, ← eq'] at onward
    exact onward

end Acting

/-- Whichever credentials are presented, retrievers are made or refused alike, and whatever is done
with them, or with a client by itself, comes to the same and leaves the same behind.  The requests
that are sent are the same but for the header that proves who is asking. -/
theorem credentials_do_not_show {own other : Credentials} (latin : own.IsLatin)
    (otherLatin : other.IsLatin) {ω : Type} {outside : Outside ω}
    (inHeader : outside.sender.PresentsInHeader) (indifferent : outside.sender.Indifferent)
    (world : ω) (parts : Parts) (client : Client) :
    let making (credentials : Credentials) := create { parts with credentials := some credentials }
    (∀ failure, making other = .error failure ↔ making own = .error failure)
      ∧ (∀ retriever stranger, making own = .ok retriever → making other = .ok stranger →
        stranger.client.connection.warnings = retriever.client.connection.warnings
          ∧ stranger.client.connection.display = retriever.client.connection.display
          ∧ ∀ actions action,
            let before := acts outside.collecting actions (retriever, (world, []))
            let before' := acts outside.collecting actions (stranger, (world, []))
            let result := act outside.collecting before.1 before.2 action
            let result' := act outside.collecting before'.1 before'.2 action
            Result.Alike own other result result'
              ∧ result'.retriever.client.connection.display
                = result.retriever.client.connection.display)
      ∧ ∀ actions action,
        let sender := outside.collecting.sender
        let before := Client.acts sender actions (client.presenting own, (world, []))
        let before' := Client.acts sender actions (client.presenting other, (world, []))
        let result := Client.act sender before.1 before.2 action
        let result' := Client.act sender before'.1 before'.2 action
        Client.Result.Alike own other result result'
          ∧ result'.client.connection.display = result.client.connection.display := by
  have sameStart : Indistinct (world, ([] : List Request)) (world, []) := ⟨rfl, rfl⟩
  refine ⟨fun failure => ?_, fun retriever stranger made made' => ?_, fun actions action => ?_⟩
  · dsimp only
    rw [create_presenting own, create_presenting other]
    cases create { parts with credentials := none } <;> simp [Except.map]
  · dsimp only at made made'
    rw [create_presenting] at made made'
    cases common : create { parts with credentials := none } with
    | error failure => simp [common, Except.map] at made
    | ok base =>
      obtain rfl : base.presenting own = retriever := by simpa [common, Except.map] using made
      obtain rfl : base.presenting other = stranger := by simpa [common, Except.map] using made'
      refine ⟨rfl, rfl, fun actions action => ?_⟩
      obtain ⟨later, eq, eq', still⟩ :=
        acts_presenting latin otherLatin inHeader indifferent base sameStart actions
      dsimp only
      rw [eq, eq']
      have alike := act_presenting latin otherLatin inHeader indifferent later still action
      exact ⟨alike, alike.display⟩
  · obtain ⟨later, eq, eq', still⟩ :=
      Client.acts_presenting latin otherLatin inHeader indifferent client sameStart actions
    have alike := Client.act_presenting latin otherLatin inHeader indifferent later still action
    rw [← eq, ← eq'] at alike
    exact ⟨alike, alike.display⟩

/-- An outside in which the backend gives everyone the same answer. -/
def sameForAll : Outside Nat where
  sender := StandIn.sender 0x100000 fun _ count =>
    (⟨.ok (.ofBody 6 200 []), .nothing, []⟩, count + 1)
  clock count := (0, count)
  wait _ _ count := (.ok false, count)
  now count := (⟨0, none⟩, count)
  shuts _ _ := false

/-- The credentials of someone who reads. -/
def reader : Credentials := ⟨"reader", "one"⟩

/-- The credentials of someone who writes. -/
def writer : Credentials := ⟨"writer", "two"⟩

/-- The parts of a retriever for a local backend. -/
def localParts : Parts where
  url := some "http://loki:3100"
  serviceName := some "jenkins"
  serviceNamespace := none
  renderer := some (.fixed .null)
  provider := some (.fixed [])
  journal := true
  extractor := some .plain
  credentials := none
  tenant := none
  verify := true
  policy := .standard
  pageSize := 1000
  timeout := 30

/-- The retriever that is made of them. -/
def localRetriever : Retriever where
  client := ⟨⟨"http://loki:3100", none, none, true, 30, false⟩, ⟨"jenkins", none⟩, 1000⟩
  provider := .fixed []
  renderer := .fixed .null
  extractor := .plain
  policy := .standard
  logs := []

/-- Two checks with different credentials come to the same, although their requests differ. -/
theorem checks_do_not_show :
    let result := act sameForAll.collecting (localRetriever.presenting reader) (0, []) .check
    let result' := act sameForAll.collecting (localRetriever.presenting writer) (0, []) .check
    result'.outcome = result.outcome ∧ result'.notices = result.notices
      ∧ result'.world.2.map Request.anonymous = result.world.2.map Request.anonymous
      ∧ result.world.2.map Request.authorization = [some (Text.ofString "Basic cmVhZGVyOm9uZQ==")]
      ∧ result'.world.2.map Request.authorization
        = [some (Text.ofString "Basic d3JpdGVyOnR3bw==")] := by
  have latin : reader.IsLatin :=
    ⟨StandIn.isSome_singleBytes?.mp rfl, StandIn.isSome_singleBytes?.mp rfl⟩
  have otherLatin : writer.IsLatin :=
    ⟨StandIn.isSome_singleBytes?.mp rfl, StandIn.isSome_singleBytes?.mp rfl⟩
  have inHeader : sameForAll.sender.PresentsInHeader := StandIn.presentsInHeader _ _
  have indifferent : sameForAll.sender.Indifferent := fun _ _ _ _ => rfl
  obtain ⟨-, always, -⟩ := @credentials_do_not_show reader writer latin otherLatin Nat
    sameForAll inHeader indifferent 0 localParts localRetriever.client
  obtain ⟨-, -, whatever⟩ :=
    always (localRetriever.presenting reader) (localRetriever.presenting writer) rfl rfl
  obtain ⟨alike, -⟩ := whatever [] .check
  exact ⟨alike.outcome, alike.notices, alike.world.requests, by decide +kernel, by decide +kernel⟩

end Retriever
end RunLog
