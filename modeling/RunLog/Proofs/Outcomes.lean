import RunLog.Proofs.Checking
import RunLog.Proofs.Normalising
import RunLog.Proofs.Shapes

/-!
# What a query comes to

A query is documented to come to a batch, or else to fail because the backend could not be reached,
because it answered with something else than lines, or because the connection is closed.  It comes
to something else if no request can be formed or described for another reason than one of the way,
and if a response of success is a structured value that cannot be read.
-/

namespace RunLog

/-- A failure that a query is documented to have. -/
inductive Failure.IsDocumented : Failure → Prop
  | unreachable (request cause : Text) : IsDocumented (.unreachable request cause)
  | queryFailed (fault : QueryFault) : IsDocumented (.queryFailed fault)
  | closed (resource : ClosedResource) : IsDocumented (.closed resource)
  | raised {failure : Raised} (kind : failure.kind = .unreachable ∨ failure.kind = .queryFailed
      ∨ failure.kind = .closed) : IsDocumented (.raised failure)

namespace Failure

/-- What happens on the way is not documented as it is: it is wrapped. -/
theorem not_isDocumented_of_isTransport {failure : Failure}
    (transport : failure.isTransport = true) : ¬failure.IsDocumented := by
  intro documented
  cases documented with
  | unreachable | queryFailed | closed => cases transport
  | raised kind => rcases kind with kind | kind | kind <;> simp [isTransport, kind] at transport

theorem not_isDocumented_malformed (fault : Malformation) : ¬(malformed fault).IsDocumented := by
  rintro ⟨⟩

end Failure

/-- A response of success can be made sense of: it is no structured value, and that is said, or else
it is one that reports a failure or that can be read. -/
inductive Batch.Intelligible (room : Int) (window : Window) (response : Response) : Prop
  | unreadable {failure : Failure} (read : response.json = .error failure)
      (said : failure.isValue = true ∨ failure.IsDocumented) : Intelligible room window response
  | value {payload : Json} (read : response.json = .ok payload)
      (sense : ReportsFailure payload ∨ ReadableResponse room window payload) :
    Intelligible room window response

namespace Client

/-- What a query is documented to come to: a batch or a documented failure. -/
def IsDocumented (outcome : Except Failure Batch) : Prop :=
  ∀ failure, outcome = .error failure → failure.IsDocumented

theorem isDocumented_ok (batch : Batch) : IsDocumented (.ok batch) := by
  rintro _ ⟨⟩

theorem isDocumented_error {failure : Failure} :
    IsDocumented (.error failure) ↔ failure.IsDocumented := by
  refine ⟨fun documented => documented failure rfl, fun documented _ same => ?_⟩
  cases same
  exact documented

variable {ω : Type} {sender : Sender ω} {client : Client} {scope : Scope} {window : Window}
  {world : ω} {parameters : List Parameter}

/-- A request can be named in a failure: that no URL is found for it counts as a failure on the way,
or is documented. -/
def IsNameable (sender : Sender ω) (client : Client) (parameters : List Parameter) : Prop :=
  ∀ failure, sender.target (client.connection.address queryPath) parameters = .error failure →
    failure.isTransport = true ∨ failure.IsDocumented

/-- A failure that names its request is documented if the request can be named. -/
theorem isDocumented_naming {naming : Text → Failure}
    (documented : ∀ request, (naming request).IsDocumented) :
    IsDocumented (client.connection.describe sender queryPath parameters >>= fun request =>
        throw (naming request))
      ↔ client.IsNameable sender parameters := by
  unfold IsNameable Connection.describe
  cases sender.target (client.connection.address queryPath) parameters with
  | ok target => exact iff_of_true (isDocumented_error.mpr (documented _)) (by simp)
  | error failure =>
    cases transport : failure.isTransport with
    | true =>
      simp only [transport, if_true]
      refine iff_of_true (isDocumented_error.mpr (documented _)) fun other same => ?_
      cases same
      exact Or.inl transport
    | false =>
      simp only [transport, Bool.false_eq_true, if_false]
      exact isDocumented_error.trans (by simp [transport])

/-- A failure on the way names its request, and others are passed on. -/
theorem isDocumented_ofFailure {failure : Failure} :
    IsDocumented (client.readAnswer sender parameters window (.error failure))
      ↔ failure.IsDocumented
        ∨ failure.isTransport = true ∧ client.IsNameable sender parameters := by
  cases transport : failure.isTransport with
  | true =>
    simp only [readAnswer, transport, if_true, true_and,
      failure.not_isDocumented_of_isTransport transport, false_or]
    exact isDocumented_naming fun request => .unreachable request failure.detail
  | false =>
    simp only [readAnswer, transport, Bool.false_eq_true, if_false, false_and, or_false]
    exact isDocumented_error

/-- A response of another status than success names its request. -/
theorem isDocumented_ofRefusal {response : Response} (refuses : response.isSuccess = false) :
    IsDocumented (client.readAnswer sender parameters window (.ok response))
      ↔ client.IsNameable sender parameters := by
  simp only [readAnswer, refuses, Bool.false_eq_true, if_false]
  exact isDocumented_naming fun request =>
    .queryFailed (.status request response.status response.text)

/-- What is made of a response of success is documented if sense can be made of it. -/
theorem isDocumented_ofSuccess {response : Response} (succeeds : response.isSuccess = true) :
    IsDocumented (client.readAnswer sender parameters window (.ok response))
      ↔ Batch.Intelligible sender.room window response := by
  simp only [readAnswer, succeeds, if_true]
  cases read : response.json with
  | error failure =>
    have said : Batch.Intelligible sender.room window response
        ↔ failure.isValue = true ∨ failure.IsDocumented := by
      refine ⟨?_, .unreadable read⟩
      rintro (@⟨other, isError, said⟩ | @⟨payload, isValue, -⟩)
      · cases read.symm.trans isError
        exact said
      · cases read.symm.trans isValue
    rw [said]
    cases value : failure.isValue with
    | true =>
      simp only [value, if_true]
      exact iff_of_true (isDocumented_error.mpr (.queryFailed _)) (Or.inl trivial)
    | false =>
      simp only [value, Bool.false_eq_true, if_false, false_or]
      exact isDocumented_error
  | ok payload =>
    have sensible : Batch.Intelligible sender.room window response
        ↔ Batch.ReportsFailure payload ∨ Batch.ReadableResponse sender.room window payload := by
      refine ⟨?_, .value read⟩
      rintro (@⟨other, isError, -⟩ | @⟨other, isValue, sense⟩)
      · cases read.symm.trans isError
      · cases read.symm.trans isValue
        exact sense
    rw [sensible]
    rcases Batch.ofResponse_cases sender.room client.pageSize window payload
      with ⟨fails, detail, body, outcome⟩ | ⟨readable, batch, outcome⟩
        | ⟨succeeds, notReadable, fault, outcome⟩
    all_goals simp only [outcome]
    · exact iff_of_true (isDocumented_error.mpr (.queryFailed _)) (Or.inl fails)
    · exact iff_of_true (isDocumented_ok batch) (Or.inr readable)
    · exact iff_of_false (fun documented => Failure.not_isDocumented_malformed fault
        (isDocumented_error.mp documented)) fun sense => sense.elim succeeds notReadable

/-- A query on a closed connection comes to what is documented.  In general a query does so exactly
if what asking fails with is documented, or happened on the way and the request can be named, if
sense can be made of a response of success, and if the request can be named after another
response. -/
theorem documented_iff (sender : Sender ω) (client : Client) (scope : Scope) (window : Window)
    (world : ω) :
    let parameters := client.queryParameters scope window
    let answer := (client.connection.execute sender queryPath parameters world).answer
    let outcome := (client.query sender scope window world).batch
    (client.connection.closed = true → IsDocumented outcome)
      ∧ (IsDocumented outcome
        ↔ (∀ failure, answer = .error failure → failure.IsDocumented
            ∨ failure.isTransport = true ∧ client.IsNameable sender parameters)
          ∧ ∀ response, answer = .ok response →
            (response.isSuccess = true → Batch.Intelligible sender.room window response)
            ∧ (response.isSuccess = false → client.IsNameable sender parameters)) := by
  intro parameters answer outcome
  have isOutcome : outcome = client.readAnswer sender parameters window answer :=
    batch_query sender client scope window world
  rw [isOutcome]
  refine ⟨fun isClosed => ?_, ?_⟩
  · have refused : answer = .error (.closed (.connection client.connection.url)) := by
      simp only [answer, Connection.execute, isClosed, if_true]
    rw [refused]
    exact isDocumented_ofFailure.mpr (Or.inl (.closed _))
  · cases answer with
    | error failure => simpa using isDocumented_ofFailure
    | ok response =>
      cases succeeds : response.isSuccess with
      | true => simpa [succeeds] using isDocumented_ofSuccess succeeds
      | false => simpa [succeeds] using isDocumented_ofRefusal succeeds

/-- A text is sent by a local backend in answer to every query. -/
theorem failsOnTheWay_answering (clock : Nat → Int) (texts : Nat → Window → Text) :
    (Host.answering clock texts).sender.FailsOnTheWay := by
  rintro _ _ _ ⟨⟩

/-- A response of success in which a name stands for a time and a line. -/
def terseText : Text :=
  "\x7b\"data\":\x7b\"result\":[\x7b\"values\":\x7b\"12\":null\x7d\x7d]\x7d\x7d"

theorem json_terseText : (Response.ofBody Host.answerDepth 200 terseText.utf8).json
    = .ok (.object [("data", .object [("result",
        .list [.object [("values", .object [("12", .null)])]])])]) := by
  have read : Json.readWithin Host.answerDepth (Text.ofUtf8 terseText.utf8)
      = .ok (.object [("data", .object [("result",
          .list [.object [("values", .object [("12", .null)])]])])]) := by
    cbv
  simp only [Response.ofBody, read]

theorem intelligible_terseText (room : Int) :
    Batch.Intelligible room ⟨0, 100⟩ (.ofBody Host.answerDepth 200 terseText.utf8) := by
  have one : Numeral.int? [CodePoint.ofChar '1'] = .ok 1 := by decide +kernel
  refine .value json_terseText (Or.inr (.object fun data isData => ?_))
  cases isData.1
  refine .object fun result isResult => ?_
  cases isResult.1
  refine ⟨_, .list _, fun stream among => ?_⟩
  cases List.mem_singleton.mp among
  refine .object (fun labels isLabels => ?_) fun values isValues => ?_
  · cases isLabels.1
  · cases isValues.1
    refine ⟨_, .object _, fun value among => ?_⟩
    cases List.mem_singleton.mp among
    exact .pair (.text rfl) (.text one) (.text rfl) fun _ => .text rfl

/-- The response is unusual, but what comes of it is documented. -/
theorem terse_documented :
    let client : Client := ⟨⟨"http://loki:3100", none, none, true, 10, false⟩, ⟨"ci", none⟩, 5⟩
    let sender := (Host.answering (fun _ => 0) fun _ _ => terseText).sender
    IsDocumented (client.query sender (Scope.firstMicrosecond true) ⟨0, 100⟩ 0).batch := by
  intro client sender
  have answered : (client.connection.execute sender queryPath
      (client.queryParameters (Scope.firstMicrosecond true) ⟨0, 100⟩) 0).answer
        = .ok (.ofBody Host.answerDepth 200 terseText.utf8) :=
    answer_of_answering rfl rfl rfl rfl rfl _ _ _ _
  refine (documented_iff sender client (Scope.firstMicrosecond true) ⟨0, 100⟩ 0).2.mpr
    ⟨fun failure failed => ?_, fun response isAnswer => ?_⟩
  · cases answered.symm.trans failed
  · cases answered.symm.trans isAnswer
    exact ⟨fun _ => intelligible_terseText _, nofun⟩

/-- A response of success that is a list comes to a failure which is not documented. -/
theorem list_not_documented :
    let client : Client := ⟨⟨"http://loki:3100", none, none, true, 10, false⟩, ⟨"ci", none⟩, 5⟩
    let sender := (Host.answering (fun _ => 0) fun _ _ => "[]").sender
    let outcome := (client.query sender (Scope.firstMicrosecond true) ⟨0, 100⟩ 0).batch
    Connection.create (some "http://loki:3100") none none true 10 = .ok client.connection
      ∧ sender.FailsOnTheWay
      ∧ outcome = .error (.malformed .noObject) ∧ ¬IsDocumented outcome := by
  intro client sender outcome
  have answered : (client.connection.execute sender queryPath
      (client.queryParameters (Scope.firstMicrosecond true) ⟨0, 100⟩) 0).answer
        = .ok (.ofBody Host.answerDepth 200 (Text.utf8 "[]")) :=
    answer_of_answering rfl rfl rfl rfl rfl _ _ _ _
  have read : (Response.ofBody Host.answerDepth 200 (Text.utf8 "[]")).json = .ok (.list []) := by
    have isList : Json.readWithin Host.answerDepth (Text.ofUtf8 (Text.utf8 "[]"))
        = .ok (.list []) := by
      cbv
    simp only [Response.ofBody, isList]
  have isMalformed : outcome = .error (.malformed .noObject) :=
    batch_query_of_response answered rfl read
  refine ⟨rfl, failsOnTheWay_answering _ _, isMalformed, ?_⟩
  rw [isMalformed]
  exact fun documented => Failure.not_isDocumented_malformed _ (isDocumented_error.mp documented)

end Client
end RunLog
