import RunLog.Proofs.Reading
import RunLog.SetupCheck
import RunLog.StandIn.Http

/-!
# Checks and their verdicts

A check is meant to give a verdict whatever comes of the request.  A verdict reports failures on the
way to the backend and back, and that the connection is closed.  Every other failure of describing,
forming or sending the request is passed on, and there is no verdict.

The library that forms requests gives rise to such a failure: it writes a name and a password in one
byte for each character.  So of the connections whose requests can be formed without credentials,
exactly those get a verdict whose credentials can be written so.

Where there is a verdict, it is good exactly if a response of status 200 came.  The connection that
is made for checking settings is closed in any case.
-/

namespace RunLog

/-- Every code point of a text fits into one byte. -/
def Text.IsLatin (text : Text) : Prop :=
  ∀ point ∈ text, point.val < 0x100

instance (text : Text) : Decidable text.IsLatin :=
  inferInstanceAs (Decidable (∀ point ∈ text, point.val < 0x100))

/-- A name and a password of one byte for each code point. -/
def Credentials.IsLatin (credentials : Credentials) : Prop :=
  credentials.user.IsLatin ∧ credentials.password.IsLatin

instance (credentials : Credentials) : Decidable credentials.IsLatin :=
  inferInstanceAs (Decidable (_ ∧ _))

/-! ## What is known about a sender -/

namespace Sender

variable {ω : Type}

/-- A request that is sent is answered, or fails on the way to the backend or back. -/
def FailsOnTheWay (sender : Sender ω) : Prop :=
  ∀ request world failure, (sender.send request world).1.answer = .error failure →
    failure.isTransport = true

/-- No connection is closed while a sender is at work. -/
def ClosesNothing (sender : Sender ω) : Prop :=
  ∀ request world, (sender.send request world).1.closing.connection = false

/-- A request can be formed once nobody is named in it. -/
def FormsUnnamed (sender : Sender ω) (call : Call) (world : ω) : Prop :=
  ∃ request, sender.form { call with credentials := none } world = .ok request

/-- A name and a password are written in one byte for each character, after all that can be found
fault with in a call without them. -/
structure WritesLatin (sender : Sender ω) : Prop where
  /-- Credentials that can be written so do not keep a request from being formed. -/
  written : ∀ call world, sender.FormsUnnamed call world →
    (∀ credentials ∈ call.credentials, credentials.IsLatin) →
    ∃ request, sender.form call world = .ok request
  /-- Credentials that cannot are said to have no form in bytes. -/
  unwritten : ∀ call world, sender.FormsUnnamed call world →
    (∃ credentials ∈ call.credentials, ¬credentials.IsLatin) →
    ∃ fault, fault.kind = .unencodable ∧ sender.form call world = .error (.request fault)

end Sender

namespace Failure

/-- A verdict reports a failure: it happened on the way, or something was closed. -/
def IsReported (failure : Failure) : Prop :=
  failure.isTransport = true ∨ failure.isClosed = true

/-- That a text has no form in bytes is not reported. -/
theorem not_isReported_of_unencodable {fault : RequestFault} (kind : fault.kind = .unencodable) :
    ¬(request fault).IsReported := by
  simp [IsReported, isTransport, isClosed, RequestFault.isTransport, kind]

end Failure

namespace Connection

variable {ω : Type} {sender : Sender ω} {connection : Connection} {path : Text}
  {parameters : List Parameter} {world : ω}

/-- A request can be described: if no URL is found for it, that counts as a failure on the way. -/
def Describable (sender : Sender ω) (connection : Connection) (path : Text)
    (parameters : List Parameter) : Prop :=
  ∀ failure, sender.target (connection.address path) parameters = .error failure →
    failure.isTransport = true

/-- A request is described, or that fails for a reason which is not one of the way. -/
theorem describe_cases (sender : Sender ω) (connection : Connection) (path : Text)
    (parameters : List Parameter) :
    (connection.Describable sender path parameters
        ∧ ∃ text, connection.describe sender path parameters = .ok text)
      ∨ (¬connection.Describable sender path parameters
        ∧ ∃ failure, failure.isTransport = false
          ∧ connection.describe sender path parameters = .error failure) := by
  unfold Describable describe
  cases sender.target (connection.address path) parameters with
  | ok target => exact Or.inl ⟨by simp, _, rfl⟩
  | error failure => cases isTransport : failure.isTransport <;> simp [isTransport]

/-- What comes of asking on a connection that is open. -/
theorem answer_execute (isOpen : connection.closed = false) :
    (connection.execute sender path parameters world).answer
      = sender.form (connection.call path parameters) world >>= fun request =>
          (sender.send request world).1.answer := by
  rw [execute, if_neg (by simp [isOpen])]
  cases sender.form (connection.call path parameters) world <;> rfl

theorem answer_of_formed (isOpen : connection.closed = false) {request : Request}
    (formed : sender.form (connection.call path parameters) world = .ok request) :
    (connection.execute sender path parameters world).answer
      = (sender.send request world).1.answer := by
  rw [answer_execute isOpen, formed]
  rfl

theorem answer_of_unformed (isOpen : connection.closed = false) {failure : Failure}
    (unformed : sender.form (connection.call path parameters) world = .error failure) :
    (connection.execute sender path parameters world).answer = .error failure := by
  rw [answer_execute isOpen, unformed]
  rfl

/-- A check can come to a verdict: its request can be described and, where the connection is open,
fails in ways that are reported only. -/
structure Presentable (sender : Sender ω) (connection : Connection) (world : ω) : Prop where
  /-- The request can be described. -/
  described : connection.Describable sender Client.checkPath Client.checkParameters
  /-- Where no request can be formed, that is reported. -/
  formed : connection.closed = false → ∀ failure,
    sender.form (connection.call Client.checkPath Client.checkParameters) world = .error failure →
      failure.IsReported
  /-- Where no answer comes, that is reported. -/
  delivered : connection.closed = false → ∀ request failure,
    sender.form (connection.call Client.checkPath Client.checkParameters) world = .ok request →
      (sender.send request world).1.answer = .error failure → failure.IsReported

/-- A check can come to a verdict if its request can be described and asking fails, if at all, in a
way that is reported. -/
theorem presentable_iff :
    connection.Presentable sender world
      ↔ connection.Describable sender Client.checkPath Client.checkParameters
        ∧ ∀ failure,
          (connection.execute sender Client.checkPath Client.checkParameters world).answer
            = .error failure → failure.IsReported := by
  cases isClosed : connection.closed with
  | true =>
    have refused : (connection.execute sender Client.checkPath Client.checkParameters world).answer
        = .error (.closed (.connection connection.url)) := by
      simp [execute, isClosed]
    rw [refused]
    refine ⟨fun presentable => ⟨presentable.described, fun failure isFailure => ?_⟩,
      fun both => ⟨both.1, by simp [isClosed], by simp [isClosed]⟩⟩
    cases isFailure
    exact Or.inr rfl
  | false =>
    rw [answer_execute isClosed]
    cases formed : sender.form (connection.call Client.checkPath Client.checkParameters) world with
    | error failure =>
      refine ⟨fun presentable => ⟨presentable.described, fun other same => ?_⟩,
        fun both => ⟨both.1, fun _ other same => ?_, fun _ _ _ same => ?_⟩⟩
      · cases same
        exact presentable.formed isClosed failure formed
      · cases formed.symm.trans same
        exact both.2 failure rfl
      · cases formed.symm.trans same
    | ok request =>
      refine ⟨fun presentable => ⟨presentable.described, fun failure failed =>
        presentable.delivered isClosed request failure formed failed⟩,
        fun both => ⟨both.1, fun _ _ same => ?_, fun _ _ failure same failed => ?_⟩⟩
      · cases formed.symm.trans same
      · cases formed.symm.trans same
        exact both.2 failure failed

/-- Where requests fail on the way only and a request could be formed for nobody, a check of an open
connection can come to a verdict exactly if the credentials have one byte for each character. -/
theorem presentable_iff_isLatin (failsOnTheWay : sender.FailsOnTheWay)
    (writesLatin : sender.WritesLatin) (isOpen : connection.closed = false)
    (describable : connection.Describable sender Client.checkPath Client.checkParameters)
    (unnamed : sender.FormsUnnamed (connection.call Client.checkPath Client.checkParameters)
      world) :
    connection.Presentable sender world
      ↔ ∀ credentials ∈ connection.credentials, credentials.IsLatin := by
  constructor
  · intro presentable credentials given
    by_contra notLatin
    obtain ⟨fault, kind, failed⟩ := writesLatin.unwritten _ world unnamed
      ⟨credentials, given, notLatin⟩
    exact Failure.not_isReported_of_unencodable kind (presentable.formed isOpen _ failed)
  · intro latin
    obtain ⟨request, formed⟩ := writesLatin.written _ world unnamed latin
    refine ⟨describable, fun _ failure failed => ?_, fun _ request failure _ failed =>
      Or.inl (failsOnTheWay request world failure failed)⟩
    cases formed.symm.trans failed

/-- A connection that is not made is misconfigured. -/
theorem isConfiguration_of_create {url : Option Text} {credentials : Option Credentials}
    {tenant : Option Text} {verify : Bool} {timeout : Float} {failure : Failure}
    (failed : create url credentials tenant verify timeout = .error failure) :
    failure.isConfiguration = true := by
  unfold create at failed
  split at failed
  · exact Except.error.inj failed ▸ rfl
  · split at failed
    · exact Except.error.inj failed ▸ rfl
    · dsimp only at failed
      split at failed
      · exact Except.error.inj failed ▸ rfl
      · simp at failed

/-- A connection that is made is open. -/
theorem closed_of_create {url : Option Text} {credentials : Option Credentials}
    {tenant : Option Text} {verify : Bool} {timeout : Float}
    (made : create url credentials tenant verify timeout = .ok connection) :
    connection.closed = false := by
  unfold create at made
  split at made
  · simp at made
  · split at made
    · simp at made
    · dsimp only at made
      split at made
      · simp at made
      · exact Except.ok.inj made ▸ rfl

end Connection

/-! ## The stand-in -/

namespace StandIn

theorem isSome_singleBytes? {text : Text} : (singleBytes? text).isSome = true ↔ text.IsLatin := by
  induction text with
  | nil => simp [singleBytes?, Text.IsLatin]
  | cons point rest inductionHypothesis =>
    unfold singleBytes? Text.IsLatin at *
    rw [List.mapM_cons, List.forall_mem_cons, ← inductionHypothesis]
    by_cases small : point.val < 0x100
    · cases rest.mapM fun point => if point.val < 0x100 then some (UInt8.ofNat point.val) else none
        <;> simp [small]
    · simp [small]

/-- A name and a password are written in bytes, or it fails for that reason alone. -/
theorem basic_eq (credentials : Credentials) :
    (credentials.IsLatin ∧ ∃ header, basic credentials.user credentials.password = .ok header)
      ∨ (¬credentials.IsLatin
        ∧ basic credentials.user credentials.password = .error .unencodable) := by
  unfold Credentials.IsLatin basic
  rw [← isSome_singleBytes?, ← isSome_singleBytes?]
  cases singleBytes? credentials.user <;> cases singleBytes? credentials.password <;> simp

/-- A request that can be formed for nobody is formed for credentials once they are written. -/
theorem form_eq_of_unnamed {call : Call} {credentials : Credentials} {request : Request}
    (unnamed : form { call with credentials := none } = .ok request)
    (given : call.credentials = some credentials) :
    form call = (basic credentials.user credentials.password).map fun header =>
      { request with authorization := some header } := by
  obtain ⟨target, prepared, unnamed⟩ := bind_eq_ok.mp unnamed
  obtain ⟨_, tenantFine, unnamed⟩ := bind_eq_ok.mp unnamed
  obtain ⟨_, targetFine, unnamed⟩ := bind_eq_ok.mp unnamed
  obtain ⟨_, -, unnamed⟩ := bind_eq_ok.mp unnamed
  split at unnamed
  · cases unnamed
  · next sendable =>
    cases unnamed
    unfold form
    simp only [prepared, tenantFine, targetFine, bind, Except.bind, given, authorization,
      if_neg sendable]
    cases basic credentials.user credentials.password <;> rfl

theorem sender_form_eq_ok {ω : Type} {room : Int} {send : Request → ω → Delivery × ω} {call : Call}
    {world : ω} {request : Request} :
    (sender room send).form call world = .ok request ↔ form call = .ok request := by
  simp only [sender]
  cases form call <;> simp [Except.mapError]

/-- The stand-in writes credentials in one byte for each character. -/
theorem writesLatin {ω : Type} (room : Int) (send : Request → ω → Delivery × ω) :
    (sender room send).WritesLatin where
  written call world := by
    rintro ⟨request, unnamed⟩ latin
    have unnamed := sender_form_eq_ok.mp unnamed
    cases given : call.credentials with
    | none =>
      have same : { call with credentials := none } = call := by rw [← given]
      exact ⟨request, sender_form_eq_ok.mpr (same ▸ unnamed)⟩
    | some credentials =>
      have isLatin := latin credentials given
      obtain ⟨-, header, written⟩ := (basic_eq credentials).resolve_right fun other =>
        other.1 isLatin
      have formed := form_eq_of_unnamed unnamed given
      rw [written] at formed
      exact ⟨_, sender_form_eq_ok.mpr formed⟩
  unwritten call world := by
    rintro ⟨request, unnamed⟩ ⟨credentials, given, notLatin⟩
    have failed := ((basic_eq credentials).resolve_left fun other => notLatin other.1).2
    have unformed := form_eq_of_unnamed (sender_form_eq_ok.mp unnamed) given
    refine ⟨.unencodable, rfl, ?_⟩
    simp only [sender, unformed, failed]
    rfl

end StandIn

/-! ## The check of a client -/

namespace Client

variable {ω : Type} {sender : Sender ω} {client : Client} {world : ω}

/-- A response of status 200 comes. -/
def IsAnswered (sender : Sender ω) (client : Client) (world : ω) : Prop :=
  ∃ response, (client.connection.execute sender checkPath checkParameters world).answer
      = .ok response ∧ response.status = 200

/-- The verdict on what came of a request is good exactly for a response of status 200. -/
theorem judge_ok_iff {request : Text} {answer : Except Failure Response} {verdict : Verdict}
    (given : (judge request answer).1 = .ok verdict) :
    verdict.ok = true ↔ ∃ response, answer = .ok response ∧ response.status = 200 := by
  cases answer with
  | error failure =>
    dsimp only [judge] at given
    split at given
    · cases Except.ok.inj given
      simp [refused]
    · simp at given
  | ok response =>
    dsimp only [judge] at given
    split at given <;> rename_i status <;> cases Except.ok.inj given <;> simp [refused, status]

/-- There is a verdict on every response and on every failure that is reported. -/
theorem exists_judge_iff {request : Text} {answer : Except Failure Response} :
    (∃ verdict, (judge request answer).1 = .ok verdict)
      ↔ ∀ failure, answer = .error failure → failure.IsReported := by
  cases answer with
  | error failure =>
    by_cases reported : (failure.isTransport || failure.isClosed) = true
    · refine iff_of_true ⟨_, by simp only [judge, if_pos reported]; rfl⟩ fun other same => ?_
      cases same
      simpa [Failure.IsReported] using reported
    · have passed : (judge request (.error failure)).1 = .error failure := by
        simp only [judge, if_neg reported]
      refine iff_of_false (by simp [passed]) fun isReported => reported ?_
      simpa [Failure.IsReported] using isReported failure rfl
  | ok response =>
    refine iff_of_true ?_ (by simp)
    by_cases status : response.status = 200
    · exact ⟨_, by simp only [judge, if_pos status]; rfl⟩
    · exact ⟨_, by simp only [judge, if_neg status]; rfl⟩

/-- A check gives a verdict exactly if it can come to one. -/
theorem exists_check_iff (sender : Sender ω) (client : Client) (world : ω) :
    (∃ verdict, (client.check sender world).verdict = .ok verdict)
      ↔ client.connection.Presentable sender world := by
  rw [Connection.presentable_iff]
  unfold check
  rcases client.connection.describe_cases sender checkPath checkParameters
    with ⟨describable, request, described⟩ | ⟨notDescribable, failure, -, failed⟩
  · simp only [described]
    exact exists_judge_iff.trans (and_iff_right describable).symm
  · simp only [failed]
    exact iff_of_false (by simp) fun presentable => notDescribable presentable.1

/-- The verdict of a check is good exactly if a response of status 200 came. -/
theorem check_ok_iff {verdict : Verdict}
    (given : (client.check sender world).verdict = .ok verdict) :
    verdict.ok = true ↔ client.IsAnswered sender world := by
  unfold check at given
  split at given
  · simp at given
  · exact judge_ok_iff given

/-- A check closes its connection only if that is closed meanwhile. -/
theorem check_connection (sender : Sender ω) (client : Client) (world : ω) :
    ∃ closed, (client.check sender world).client.connection
        = { client.connection with closed := client.connection.closed || closed }
      ∧ (sender.ClosesNothing → closed = false) := by
  unfold check
  split
  · exact ⟨false, by simp, fun _ => rfl⟩
  · unfold Connection.execute
    split
    · exact ⟨false, by simp, fun _ => rfl⟩
    · split
      · exact ⟨false, by simp, fun _ => rfl⟩
      · rename_i request formed
        exact ⟨(sender.send request world).1.closing.connection, rfl, fun closesNothing =>
          closesNothing request world⟩

end Client

/-! ## The check of settings -/

namespace SetupCheck

variable {ω : Type} {sender : Sender ω} {settings : Settings} {world : ω}

/-- The client that is made for a check of settings. -/
def clientOf (settings : Settings) (connection : Connection) : Client :=
  ⟨connection, ⟨settings.serviceName, settings.serviceNamespace⟩, Settings.standardPageSize⟩

/-- The connection that is checked is closed after it. -/
theorem checkConnection_connection {service : Service} {connection : Connection} :
    (checkConnection sender service connection world).connection
      = some { connection with closed := true } := by
  obtain ⟨closed, left, -⟩ := Client.check_connection sender
    ⟨connection, service, Settings.standardPageSize⟩ world
  unfold checkConnection Connection.close
  dsimp only at left ⊢
  rw [left]
  cases connection.closed || closed <;> simp

/-- The verdict on a connection is the one of the check, unless it is closed meanwhile. -/
theorem checkConnection_verdict (closesNothing : sender.ClosesNothing) {service : Service}
    {connection : Connection} (isOpen : connection.closed = false) :
    (checkConnection sender service connection world).verdict
      = (Client.check sender ⟨connection, service, Settings.standardPageSize⟩ world).verdict := by
  obtain ⟨closed, left, unlessClosed⟩ := Client.check_connection sender
    ⟨connection, service, Settings.standardPageSize⟩ world
  cases unlessClosed closesNothing
  unfold checkConnection Connection.close
  dsimp only at left ⊢
  rw [left]
  simp [isOpen]

/-- The connection that was made for a check is closed after it. -/
theorem check_connection :
    (check sender (.ok settings) world).connection
      = settings.connection.toOption.map fun connection => { connection with closed := true } := by
  unfold check
  dsimp only
  cases settings.connection with
  | error failure => rfl
  | ok connection => exact checkConnection_connection

/-- The verdict on settings is the one on the client that is made from them, unless they are faulty
or the connection is closed meanwhile. -/
theorem check_verdict (closesNothing : sender.ClosesNothing) :
    (check sender (.ok settings) world).verdict
      = match settings.connection with
        | .error failure => .ok (misconfigured failure)
        | .ok connection => ((clientOf settings connection).check sender world).verdict := by
  unfold check
  dsimp only
  cases made : settings.connection with
  | error failure => simp only [Connection.isConfiguration_of_create made, if_true]
  | ok connection =>
    exact checkConnection_verdict closesNothing (Connection.closed_of_create made)

/-- Checking a connection gives a verdict exactly if it can come to one, and the verdict is good
exactly if a response of status 200 came.  Checking settings gives the verdict on the connection
that is made from them, a bad one if none can be made, and leaves the connection closed in any case.
Where requests fail on the way only, and credentials are written in one byte for each character, a
connection whose request can be described, and formed for nobody, gets a verdict exactly if its
credentials can be written so. -/
theorem verdict_iff_presentable (sender : Sender ω) (world : ω) :
    (∀ client : Client,
        ((∃ verdict, (client.check sender world).verdict = .ok verdict)
          ↔ client.connection.Presentable sender world)
        ∧ ∀ verdict, (client.check sender world).verdict = .ok verdict →
          (verdict.ok = true ↔ client.IsAnswered sender world))
      ∧ (∀ settings : Settings,
        (check sender (.ok settings) world).connection
            = settings.connection.toOption.map (fun connection =>
                { connection with closed := true })
          ∧ (sender.ClosesNothing →
            ((∃ verdict, (check sender (.ok settings) world).verdict = .ok verdict)
              ↔ ∀ connection, settings.connection = .ok connection →
                connection.Presentable sender world)
            ∧ ∀ verdict, (check sender (.ok settings) world).verdict = .ok verdict →
              (verdict.ok = true ↔ ∃ connection, settings.connection = .ok connection
                ∧ (clientOf settings connection).IsAnswered sender world)))
      ∧ (sender.FailsOnTheWay → sender.WritesLatin → ∀ client : Client,
          client.connection.closed = false →
          client.connection.Describable sender Client.checkPath Client.checkParameters →
          sender.FormsUnnamed
            (client.connection.call Client.checkPath Client.checkParameters) world →
          ((∃ verdict, (client.check sender world).verdict = .ok verdict)
            ↔ ∀ credentials ∈ client.connection.credentials, credentials.IsLatin)) := by
  refine ⟨fun client => ⟨Client.exists_check_iff sender client world, fun verdict given =>
    Client.check_ok_iff given⟩, fun settings => ⟨check_connection, fun closesNothing => ?_⟩,
    fun failsOnTheWay writesLatin client isOpen describable unnamed =>
      (Client.exists_check_iff sender client world).trans
        (Connection.presentable_iff_isLatin failsOnTheWay writesLatin isOpen describable unnamed)⟩
  rw [check_verdict closesNothing]
  cases made : settings.connection with
  | error failure =>
    refine ⟨by simp, fun verdict given => ?_⟩
    cases Except.ok.inj given
    simp [misconfigured]
  | ok connection =>
    have exists_iff := Client.exists_check_iff sender (clientOf settings connection) world
    exact ⟨by simpa [clientOf] using exists_iff, fun verdict given => by
      simpa using Client.check_ok_iff given⟩

/-- A sender whose first request times out and whose other requests are answered. -/
def lateThenAnswering : Sender Nat :=
  StandIn.sender 0x100000 fun _ tries =>
    (⟨if tries = 0 then .error (.raised ⟨.transport .timeout, "timed out", none, []⟩)
        else .ok (.ofBody 6 200 []), .nothing, []⟩, tries + 1)

/-- Settings with a backend and credentials. -/
def localSettings (user password : Text) : Settings where
  url := "http://loki:3100"
  user := some user
  password := some password
  template := []

/-- The connection that is made for these settings. -/
def localConnection (user password : Text) : Connection where
  url := "http://loki:3100"
  credentials := some ⟨user, password⟩
  tenant := none
  verify := true
  timeout := 30
  closed := false

theorem connection_localSettings (user password : Text) :
    (localSettings user password).connection = .ok (localConnection user password) := by
  have notBlank : Text.isBlank "http://loki:3100" = false := rfl
  have normal : BackendUrl.normalize "http://loki:3100" = "http://loki:3100" := rfl
  have accepted : BackendUrl.check "http://loki:3100" = .ok () := rfl
  unfold Settings.connection Connection.create localSettings
  simp [notBlank, normal, accepted]
  rfl

/-- Where a check of the local backend is sent. -/
def localUrl : Text :=
  "http://loki:3100/loki/api/v1/format_query?query=%7Bfoo%3D%22bar%22%7D"

section

variable {ω : Type} (room : Int) (send : Request → ω → Delivery × ω) (user password : Text)

/-- The local backend can be asked for nobody. -/
theorem form_unnamed :
    StandIn.form { (localConnection user password).call Client.checkPath Client.checkParameters with
      credentials := none } = .ok ⟨localUrl, none, none, true, 30⟩ := by
  rfl

theorem describable_localConnection :
    (localConnection user password).Describable (StandIn.sender room send) Client.checkPath
      Client.checkParameters := by
  have found : (StandIn.sender room send).target
      ((localConnection user password).address Client.checkPath) Client.checkParameters
        = .ok localUrl := rfl
  intro failure failed
  cases found.symm.trans failed

theorem formsUnnamed_localConnection (world : ω) :
    (StandIn.sender room send).FormsUnnamed
      ((localConnection user password).call Client.checkPath Client.checkParameters) world :=
  ⟨_, StandIn.sender_form_eq_ok.mpr (form_unnamed user password)⟩

end

theorem lateThenAnswering_failsOnTheWay : lateThenAnswering.FailsOnTheWay := by
  intro request world failure failed
  dsimp only [lateThenAnswering, StandIn.sender] at failed
  split at failed
  · exact Except.error.inj failed ▸ rfl
  · cases failed

/-- A request that times out gets a bad verdict, the next one a good one, and a name in Chinese
none. -/
theorem lateThenAnswering_verdict_iff_presentable :
    lateThenAnswering.FailsOnTheWay
      ∧ (∃ verdict, (check lateThenAnswering (.ok (localSettings "ci" "secret")) 0).verdict
          = .ok verdict ∧ verdict.ok = false)
      ∧ (∃ verdict, (check lateThenAnswering (.ok (localSettings "ci" "secret")) 1).verdict
          = .ok verdict ∧ verdict.ok = true)
      ∧ ¬∃ verdict, ((clientOf (localSettings "用户" "x") (localConnection "用户" "x")).check
          lateThenAnswering 1).verdict = .ok verdict := by
  have failsOnTheWay := lateThenAnswering_failsOnTheWay
  have writesLatin : lateThenAnswering.WritesLatin := StandIn.writesLatin _ _
  have closesNothing : lateThenAnswering.ClosesNothing := fun _ _ => rfl
  have made := connection_localSettings "ci" "secret"
  have latin : ∀ credentials ∈ (localConnection "ci" "secret").credentials,
      credentials.IsLatin := by
    intro credentials given
    cases given
    exact ⟨StandIn.isSome_singleBytes?.mp rfl, StandIn.isSome_singleBytes?.mp rfl⟩
  have judged (world : Nat) (user password : Text) :=
    (verdict_iff_presentable lateThenAnswering world).2.2 failsOnTheWay writesLatin
      (clientOf (localSettings user password) (localConnection user password)) rfl
      (describable_localConnection _ _ _ _) (formsUnnamed_localConnection _ _ _ _ _)
  have onlyConnection (world : Nat) : ∀ connection,
      (localSettings "ci" "secret").connection = .ok connection →
        connection.Presentable lateThenAnswering world := by
    intro connection isMade
    cases made.symm.trans isMade
    exact ((verdict_iff_presentable lateThenAnswering world).1 _).1.mp
      ((judged world "ci" "secret").mpr latin)
  refine ⟨failsOnTheWay, ?_, ?_, ?_⟩
  · obtain ⟨exists_iff, ok_iff⟩ := ((verdict_iff_presentable lateThenAnswering 0).2.1
      (localSettings "ci" "secret")).2 closesNothing
    obtain ⟨verdict, given⟩ := exists_iff.mpr (onlyConnection 0)
    refine ⟨verdict, given, Bool.eq_false_iff.mpr fun good => ?_⟩
    obtain ⟨connection, isMade, response, answered, -⟩ := (ok_iff verdict given).mp good
    cases made.symm.trans isMade
    rw [Connection.answer_execute rfl] at answered
    obtain ⟨request, -, late⟩ := bind_eq_ok.mp answered
    simp [lateThenAnswering, StandIn.sender] at late
  · obtain ⟨exists_iff, ok_iff⟩ := ((verdict_iff_presentable lateThenAnswering 1).2.1
      (localSettings "ci" "secret")).2 closesNothing
    obtain ⟨verdict, given⟩ := exists_iff.mpr (onlyConnection 1)
    obtain ⟨request, formed⟩ := writesLatin.written _ 1 (formsUnnamed_localConnection _ _ _ _ _)
      latin
    have answered := Connection.answer_of_formed rfl formed
    exact ⟨verdict, given, (ok_iff verdict given).mpr ⟨_, made, _, answered, rfl⟩⟩
  · intro given
    have isLatin := (judged 1 "用户" "x").mp given ⟨"用户", "x"⟩ rfl
    exact absurd (StandIn.isSome_singleBytes?.mpr isLatin.1) (by rintro ⟨⟩)

/-- A name in Chinese gets no verdict, whatever the backend would answer. -/
theorem no_verdict_on_chinese_name :
    Connection.create (some "http://loki:3100") (some ⟨"用户", "x"⟩) none true 30
        = .ok (localConnection "用户" "x")
      ∧ ∀ (ω : Type) (room : Int) (send : Request → ω → Delivery × ω) (service : Service)
        (pageSize : Int) (world : ω),
        ((⟨localConnection "用户" "x", service, pageSize⟩ : Client).check
            (StandIn.sender room send) world).verdict
          = .error (.request .unencodable) := by
  refine ⟨connection_localSettings "用户" "x", fun ω room send service pageSize world => ?_⟩
  have written : StandIn.basic "用户" "x" = .error .unencodable := rfl
  have unformed : (StandIn.sender room send).form ((localConnection "用户" "x").call
      Client.checkPath Client.checkParameters) world = .error (.request .unencodable) := by
    have formed := StandIn.form_eq_of_unnamed (form_unnamed "用户" "x") rfl
    simp only [StandIn.sender, formed, written]
    rfl
  have refused : ((localConnection "用户" "x").execute (StandIn.sender room send) Client.checkPath
      Client.checkParameters world).answer = .error (.request .unencodable) :=
    Connection.answer_of_unformed rfl unformed
  obtain ⟨-, request, described⟩ := ((localConnection "用户" "x").describe_cases
    (StandIn.sender room send) Client.checkPath Client.checkParameters).resolve_right fun failed =>
      failed.1 (describable_localConnection _ _ _ _)
  simp only [Client.check, described, refused]
  rfl

end SetupCheck
end RunLog
