import RunLog.Proofs.Checking
import RunLog.Proofs.Using

/-!
# Closing a retriever

A retriever can be closed between two operations, while a request is under way and during a wait;
its iterators are closed first, and then its connection.  After that it sends no request, waits for
nothing, and opens no log.  A log that is open hands out the rest of the line that was taken last,
and then ends.

The outside keeps a record of the exchanges and the waits, and of what was closed during each.  An
exchange is one request, and another one for each redirect that the library follows.
-/

namespace RunLog

/-! ## The outside -/

/-- What a retriever asks of the outside, and whether it is closed during a wait. -/
structure Outside (ω : Type) extends Host ω where
  /-- Whether the retriever is closed during a wait, which has a number among those of its
  iterator. -/
  shuts : Nat → ω → Bool

/-- What is closed during several requests. -/
def Closing.during (closings : List Closing) : Closing :=
  ⟨closings.any Closing.connection, closings.any Closing.iterator⟩

/-- A connection that is closed during one of several requests is closed after them. -/
theorem Connection.closed_during {connection : Connection} {closings : List Closing}
    {closing : Closing} (among : closing ∈ closings) (isClosed : closing.connection = true) :
    (connection.during (.during closings)).closed = true := by
  have some : closings.any Closing.connection = true :=
    List.any_eq_true.mpr ⟨closing, among, isClosed⟩
  simp [during, Closing.during, some]

/-- A session whose connection is closed. -/
def Session.shut {ω : Type} (session : Session ω) : Session ω :=
  { session with
    client := { session.client with
      connection := { session.client.connection with closed := true } } }

namespace Outside

variable {ω : Type}

/-- What an iterator finds outside.  When the retriever is closed during a wait, the iterator is
closed and then the connection. -/
def surroundings (outside : Outside ω) (scope : Scope) : Surroundings (Session ω) Float :=
  { outside.toHost.surroundings scope with
    wait := fun number interval session =>
      match (outside.toHost.surroundings scope).wait number interval session with
      | (.error failure, later) => (.error failure, later)
      | (.ok closes, later) =>
        if outside.shuts number session.world then (.ok true, later.shut) else (.ok closes, later) }

/-- What is closed during a wait; one that fails takes no time. -/
def closingIn (outside : Outside ω) (number : Nat) (world : ω) : Except Failure Bool → Closing
  | .error _ => .nothing
  | .ok closes => ⟨outside.shuts number world, closes || outside.shuts number world⟩

/-- An outside that keeps a record of the exchanges and the waits: for each, what was closed during
each of its requests, or during the wait. -/
def recording (outside : Outside ω) : Outside (ω × List (List Closing)) where
  sender :=
    { target := outside.sender.target
      form := fun call world => outside.sender.form call world.1
      send := fun request world =>
        let (delivery, later) := outside.sender.send request world.1
        (delivery, later, world.2 ++ [delivery.closings])
      room := outside.sender.room }
  clock world := ((outside.clock world.1).1, (outside.clock world.1).2, world.2)
  wait number interval world :=
    let (outcome, later) := outside.wait number interval world.1
    (outcome, later, world.2 ++ [[outside.closingIn number world.1 outcome]])
  now world := ((outside.now world.1).1, (outside.now world.1).2, world.2)
  shuts number world := outside.shuts number world.1

/-- Whoever closes the connection while a request is under way closes the iterator that asked. -/
def ClosesTogether (outside : Outside ω) : Prop :=
  ∀ request world, ∀ closing ∈ (outside.sender.send request world).1.closings,
    closing.connection = true → closing.iterator = true

end Outside

/-! ## What is closed meanwhile -/

section Recording

variable {ω : Type} {outside : Outside ω} {scope : Scope}

/-- An exchange is recorded, with what is closed meanwhile. -/
theorem Connection.execute_recording (outside : Outside ω) (connection : Connection) (path : Text)
    (parameters : List Parameter) (world : ω × List (List Closing)) :
    let exchange := connection.execute outside.recording.sender path parameters world
    exchange.closing = .nothing ∧ exchange.connection = connection ∧ exchange.world = world
      ∨ ∃ closings, exchange.world.2 = world.2 ++ [closings]
        ∧ exchange.closing = .during closings
        ∧ exchange.connection = connection.during exchange.closing
        ∧ (outside.ClosesTogether → ∀ closing ∈ closings, closing.connection = true →
          closing.iterator = true) := by
  unfold Connection.execute
  split
  · exact Or.inl ⟨rfl, rfl, rfl⟩
  · split
    · exact Or.inl ⟨rfl, rfl, rfl⟩
    · rename_i request _
      exact Or.inr ⟨_, rfl, rfl, rfl, fun together => together request world.1⟩

/-- A wait is recorded, with what is closed meanwhile. -/
theorem Outside.wait_recording (outside : Outside ω) (scope : Scope) (number : Nat)
    (interval : Float) (session : Session (ω × List (List Closing))) :
    let answer := (outside.recording.surroundings scope).wait number interval session
    ∃ closing, answer.2.world.2 = session.world.2 ++ [[closing]]
      ∧ closing.iterator = Surroundings.closesIn answer.1
      ∧ (closing.connection = true →
        closing.iterator = true ∧ answer.2.client.connection.closed = true)
      ∧ (session.client.connection.closed = true →
        answer.2.client.connection.closed = true) := by
  refine ⟨outside.closingIn number session.world.1 (outside.wait number interval session.world.1).1,
    ?_⟩
  cases waited : outside.wait number interval session.world.1 with
  | mk outcome later =>
    cases outcome <;> cases shuts : outside.shuts number session.world.1 <;>
      simp [Outside.surroundings, Outside.recording, Host.surroundings, Outside.closingIn,
        Closing.nothing, waited, shuts, Session.shut]

/-- The record of an iterator: of each exchange and each wait whether it was closed meanwhile. -/
def Session.record (session : Session (ω × List (List Closing))) : List Bool :=
  session.world.2.map fun closings => closings.any Closing.iterator

theorem records_surroundings (outside : Outside ω) (scope : Scope) :
    (outside.recording.surroundings scope).Records Session.record where
  clock _ := rfl
  query window session := by
    rcases session.client.connection.execute_recording outside Client.queryPath
      (session.client.queryParameters scope window) session.world
      with ⟨nothing, -, same⟩ | ⟨closings, recorded, closing, -⟩
    · exact Or.inr ⟨congrArg Closing.iterator nothing,
        congrArg (fun world => world.2.map fun closings => closings.any Closing.iterator) same⟩
    · refine Or.inl ?_
      simp only [Session.record, Host.surroundings, Outside.surroundings, Client.query, recorded,
        closing, List.map_append]
      rfl
  wait number interval session := by
    obtain ⟨closing, recorded, ofIterator, -⟩ :=
      outside.wait_recording scope number interval session
    refine Or.inl ?_
    simp only [Session.record, recorded, List.map_append, ← ofIterator]
    simp

/-- What was recorded since the record was as given: whenever the connection was closed, so was the
iterator, and the connection is closed now. -/
def Session.Since (old : List (List Closing)) (session : Session (ω × List (List Closing))) :
    Prop :=
  ∃ since, session.world.2 = old ++ since
    ∧ ∀ closings ∈ since, ∀ closing ∈ closings, closing.connection = true →
      closing.iterator = true ∧ session.client.connection.closed = true

theorem Session.Since.append {old : List (List Closing)}
    {session later : Session (ω × List (List Closing))} (since : session.Since old)
    {closings : List Closing} (recorded : later.world.2 = session.world.2 ++ [closings])
    (closes : ∀ closing ∈ closings, closing.connection = true →
      closing.iterator = true ∧ later.client.connection.closed = true)
    (stillClosed : session.client.connection.closed = true →
      later.client.connection.closed = true) : later.Since old := by
  obtain ⟨before, eq, together⟩ := since
  refine ⟨before ++ [closings], by rw [recorded, eq, List.append_assoc], ?_⟩
  rw [List.forall_mem_append, List.forall_mem_singleton]
  exact ⟨fun earlier among closing inEarlier isClosed =>
    (together earlier among closing inEarlier isClosed).imp_right stillClosed, closes⟩

theorem keeps_surroundings (together : outside.ClosesTogether) (scope : Scope)
    (old : List (List Closing)) :
    (outside.recording.surroundings scope).Keeps (Session.Since old) where
  clock _ since := since
  query window session since := by
    rcases session.client.connection.execute_recording outside Client.queryPath
      (session.client.queryParameters scope window) session.world
      with ⟨-, sameConnection, same⟩ | ⟨closings, recorded, whole, closedMeanwhile, both⟩
    · obtain ⟨before, eq, closes⟩ := since
      refine ⟨before, (congrArg Prod.snd same).trans eq, fun closings among closing inside
        isClosed => ?_⟩
      exact (closes closings among closing inside isClosed).imp_right
        (congrArg Connection.closed sameConnection).trans
    · refine since.append recorded (fun closing among isClosed =>
        ⟨both together closing among isClosed, ?_⟩) fun isClosed => ?_
      all_goals refine (congrArg Connection.closed closedMeanwhile).trans ?_
      · rw [whole]
        exact Connection.closed_during among isClosed
      · simp [Connection.during, isClosed]
  wait number interval session since := by
    obtain ⟨closing, recorded, -, closes, stillClosed⟩ :=
      outside.wait_recording scope number interval session
    exact since.append recorded (by simpa using closes) stillClosed

/-- What is known of calls to an iterator by what was recorded meanwhile: only the last exchange or
wait can have closed something, and then the iterator is closed, and the connection if it was
closed. -/
structure Meanwhile (session afterwards : Session (ω × List (List Closing)))
    (later : Iterator Float) (since : List (List Closing)) : Prop where
  recorded : afterwards.world.2 = session.world.2 ++ since
  onlyLast : ∀ closings ∈ since.dropLast, ∀ closing ∈ closings, closing = .nothing
  iterator : ∀ closings ∈ since, ∀ closing ∈ closings, closing ≠ .nothing → later.closed = true
  connection : ∀ closings ∈ since, ∀ closing ∈ closings, closing.connection = true →
    afterwards.client.connection.closed = true
  nothingReady : later.closed = true → later.ready = []

theorem exists_meanwhile (together : outside.ClosesTogether) {iterator later : Iterator Float}
    {session afterwards : Session (ω × List (List Closing))} {events : List (Event Float)}
    (made : Iterator.MadeOfCalls (outside.recording.surroundings scope) iterator session later
      afterwards events)
    (nothingReady : iterator.closed = true → iterator.ready = []) :
    ∃ since, Meanwhile session afterwards later since := by
  obtain ⟨since, recorded, closes⟩ :=
    made.kept (keeps_surroundings together scope session.world.2) ⟨[], by simp, by simp⟩
  obtain ⟨ofIterator, eq, never, isClosed, stillNothing⟩ :=
    made.final (records_surroundings outside scope) nothingReady
  let closesIterator (closings : List Closing) : Bool := closings.any Closing.iterator
  obtain rfl : since.map closesIterator = ofIterator := by
    rw [Session.record, recorded, List.map_append] at eq
    exact List.append_cancel_left eq
  rw [← List.map_dropLast] at never
  have something : ∀ closings ∈ since, ∀ closing ∈ closings, closing ≠ .nothing →
      closesIterator closings = true := by
    rintro closings among ⟨connection, iterator⟩ inside notNothing
    refine List.any_eq_true.mpr ⟨_, inside, ?_⟩
    cases connection with
    | true => exact (closes closings among _ inside rfl).1
    | false =>
      cases iterator with
      | true => rfl
      | false => exact absurd rfl notNothing
  refine ⟨since, recorded, fun closings among closing inside => ?_,
    fun closings among closing inside notNothing => ?_,
    fun closings among closing inside isTrue => (closes closings among closing inside isTrue).2,
    stillNothing⟩
  · refine Classical.byContradiction fun notNothing => never ?_
    rw [← something closings ((List.dropLast_sublist since).subset among) closing inside notNothing]
    exact List.mem_map_of_mem among
  · refine isClosed ?_
    rw [← something closings among closing inside notNothing]
    exact List.mem_map_of_mem among

end Recording

/-! ## Operations -/

/-- The first page is asked for without a wait. -/
theorem Iterator.prefetch_withWait {ω δ : Type} [WaitTime δ] (env : Surroundings ω δ)
    (wait : Nat → δ → ω → Except Failure Bool × ω) {iterator : Iterator δ}
    (notDue : iterator.waitDue = false)
    (world : ω) : prefetch { env with wait } iterator world = prefetch env iterator world := by
  simp only [prefetch, fetch, fetchWithin, notDue, Bool.false_eq_true, if_false]
  rfl

namespace Retriever

/-- What can be done with a retriever. -/
inductive Action
  /-- Open a log. -/
  | openLog (work : Work) (wanted : Wanted)
  /-- Use a log with a number. -/
  | useLog (number : Nat) (usage : Usage)
  /-- Ask the backend whether it answers. -/
  | check
  /-- Close the retriever. -/
  | close
  /-- Close the retriever unless it is closed. -/
  | leave

variable {ω : Type}

/-- Do something with a retriever.  To use a log that there is not is to do nothing. -/
def act (outside : Outside ω) (retriever : Retriever) (world : ω) : Action → Result ω Output
  | .openLog work wanted =>
    let result := retriever.openLog outside.toHost work wanted world
    { result with outcome := result.outcome.map .log }
  | .useLog number usage =>
    (retriever.useLog outside.toHost number world fun _ buffer session =>
      usage.apply (outside.surroundings buffer.stream.iterator.scope) buffer session).getD
        ⟨retriever, world, [], .ok .nothing⟩
  | .check =>
    let result := retriever.check outside.toHost world
    { result with outcome := result.outcome.map .verdict }
  | .close => ⟨retriever.close.1, world, [], retriever.close.2.map fun _ => .nothing⟩
  | .leave => ⟨retriever.leave.1, world, [], retriever.leave.2.map fun _ => .nothing⟩

/-- Do several things with a retriever, whether or not they succeed. -/
def acts (outside : Outside ω) (actions : List Action) (state : Retriever × ω) : Retriever × ω :=
  actions.foldl (fun state action =>
    let result := act outside state.1 state.2 action
    (result.retriever, result.world)) state

/-! ### After the end -/

/-- The retriever is closed, and so are the iterators of all its logs. -/
structure Ended (retriever : Retriever) : Prop where
  closed : retriever.closed = true
  logs : ∀ log ∈ retriever.logs, log.buffer.stream.iterator.closed = true
    ∧ log.buffer.stream.iterator.ready = []

theorem closed_of_mem_endLogs {logs : List OpenLog} {log : OpenLog}
    (among : log ∈ logs.map endLog) : log.buffer.stream.iterator.closed = true
      ∧ log.buffer.stream.iterator.ready = [] := by
  obtain ⟨before, -, rfl⟩ := List.mem_map.mp among
  exact ⟨rfl, rfl⟩

theorem ended_withClient (retriever : Retriever) {client : Client}
    (closed : client.connection.closed = true) : Ended (retriever.withClient client) where
  closed := closed
  logs log among := by
    simp only [withClient, closed, if_true] at among
    exact closed_of_mem_endLogs among

/-- A check of a closed connection asks nothing, and is bad if it gives a verdict; it gives one
exactly if the request can be described. -/
theorem check_of_closed (sender : Sender ω) (client : Client) (world : ω)
    (closed : client.connection.closed = true) :
    (client.check sender world).world = world ∧ (client.check sender world).client = client
      ∧ ((∃ verdict, (client.check sender world).verdict = .ok verdict)
        ↔ client.connection.Describable sender Client.checkPath Client.checkParameters)
      ∧ ∀ verdict, (client.check sender world).verdict = .ok verdict → verdict.ok = false := by
  unfold Client.check
  rcases client.connection.describe_cases sender Client.checkPath Client.checkParameters
    with ⟨describable, text, described⟩ | ⟨notDescribable, failure, -, failed⟩
  · have isClosed (url : Text) : (Failure.closed (.connection url)).isClosed = true := rfl
    simp only [described, Connection.execute, closed, if_true, Client.judge, isClosed, Bool.or_true]
    refine ⟨trivial, trivial, iff_of_true ⟨_, rfl⟩ describable, ?_⟩
    rintro _ ⟨⟩
    rfl
  · simp only [failed]
    exact ⟨trivial, trivial, iff_of_false (by simp) notDescribable, by simp⟩

/-- A retriever that is closed cannot be closed again. -/
theorem close_of_closed {retriever : Retriever} (closed : retriever.closed = true) :
    retriever.close.1 = { retriever with logs := retriever.logs.map endLog }
      ∧ retriever.close.2 = .error (.closed (.connection retriever.client.connection.url)) := by
  have isClosed : retriever.client.connection.closed = true := closed
  simp [close, Connection.close, isClosed]

theorem quiet_warnings (texts : List Text) : Usage.Quiet (texts.map Notice.warning) := by
  constructor <;> simp [Notice.windows, Notice.waits]

/-- Nothing that is done with a retriever that has ended touches the outside. -/
theorem act_of_ended (outside : Outside ω) {retriever : Retriever} (ended : retriever.Ended)
    (world : ω) (action : Action) :
    let result := act outside retriever world action
    result.world = world ∧ result.retriever.Ended
      ∧ result.retriever.client = retriever.client ∧ Usage.Quiet result.notices := by
  cases action with
  | openLog work wanted =>
    simp only [act, openLog, opening, ended.closed, if_true]
    exact ⟨trivial, ended, trivial, rfl, rfl⟩
  | useLog number usage =>
    simp only [act, useLog]
    cases found : retriever.logs[number]? with
    | none => exact ⟨rfl, ended, rfl, Usage.quiet_nil⟩
    | some log =>
      obtain ⟨isClosed, nothingReady⟩ := ended.logs log (List.mem_of_getElem? found)
      obtain ⟨-, sameWorld, quiet⟩ := Usage.apply_of_closed
        (outside.surroundings log.buffer.stream.iterator.scope)
        (⟨retriever.client, world⟩ : Session ω) usage isClosed nothingReady
      simp only [Option.map_some, Option.getD_some, sameWorld]
      exact ⟨trivial, ended_withClient _ ended.closed, rfl, quiet⟩
  | check =>
    obtain ⟨sameWorld, sameClient, -⟩ := check_of_closed outside.sender retriever.client world
      ended.closed
    simp only [act, check, sameWorld, sameClient]
    exact ⟨trivial, ended_withClient _ ended.closed, rfl, quiet_warnings _⟩
  | close =>
    obtain ⟨again, -⟩ := close_of_closed ended.closed
    simp only [act, again]
    exact ⟨trivial, ⟨ended.closed, fun log => closed_of_mem_endLogs⟩, trivial, Usage.quiet_nil⟩
  | leave =>
    simp only [act, leave, ended.closed, if_true]
    exact ⟨trivial, ended, trivial, Usage.quiet_nil⟩

/-! ### Before the end -/

/-- All logs of a retriever are sound. -/
def Sound (retriever : Retriever) : Prop :=
  ∀ log ∈ retriever.logs, log.buffer.Sound

theorem sound_endLog {log : OpenLog} (sound : log.buffer.Sound) : (endLog log).buffer.Sound where
  stream := sound.stream
  iterator _ := rfl
  nothingReady _ := rfl

theorem sound_map_endLog {retriever : Retriever} (sound : retriever.Sound) :
    Sound { retriever with logs := retriever.logs.map endLog } := by
  intro log among
  obtain ⟨before, isLog, rfl⟩ := List.mem_map.mp among
  exact sound_endLog (sound before isLog)

theorem sound_withClient {retriever : Retriever} (sound : retriever.Sound) (client : Client) :
    (retriever.withClient client).Sound := by
  have ended := sound_map_endLog sound
  unfold withClient Sound
  dsimp only
  split
  · exact ended
  · exact sound

/-- The values of a log's link are found without a request. -/
theorem localBindings_recording (outside : Outside ω) (service : Service) (wanted : Wanted)
    (world : ω × List (List Closing)) :
    (localBindings outside.recording.toHost service wanted world).2.2 = world.2 := by
  unfold localBindings
  dsimp only
  split <;> split <;> rfl

/-- What is known of a retriever and its record: only the last exchange or wait can have closed the
retriever, and one that was closed has ended. -/
structure Settled (retriever : Retriever) (world : ω × List (List Closing)) : Prop where
  onlyLast : ∀ closings ∈ world.2.dropLast, ∀ closing ∈ closings, closing.connection = false
  closes : ∀ closings ∈ world.2, ∀ closing ∈ closings, closing.connection = true →
    retriever.closed = true
  ended : retriever.closed = true → retriever.Ended

section Operations

variable {outside : Outside ω} {retriever : Retriever} {world later : ω × List (List Closing)}

/-- Some exchanges and waits were recorded while a retriever was open. -/
theorem Settled.grow (settled : Settled retriever world) (notClosed : retriever.closed = false)
    {since : List (List Closing)} (recorded : later.2 = world.2 ++ since)
    (onlyLast : ∀ closings ∈ since.dropLast, ∀ closing ∈ closings, closing.connection = false)
    {client : Client}
    (closes : ∀ closings ∈ since, ∀ closing ∈ closings, closing.connection = true →
      client.connection.closed = true)
    (extended : Retriever) : Settled (extended.withClient client) later := by
  have never : ∀ closings ∈ world.2, ∀ closing ∈ closings, closing.connection = false :=
    fun closings among closing inside => Bool.eq_false_iff.mpr fun isTrue =>
      absurd (settled.closes closings among closing inside isTrue) (ne_true_of_eq_false notClosed)
  refine ⟨?_, ?_, fun closed => ended_withClient extended closed⟩
  · rw [recorded]
    by_cases nothing : since = []
    · rw [nothing, List.append_nil]
      exact settled.onlyLast
    · rw [List.dropLast_append_of_ne_nil nothing, List.forall_mem_append]
      exact ⟨never, onlyLast⟩
  · rw [recorded, List.forall_mem_append]
    exact ⟨fun closings among closing inside isTrue =>
      absurd isTrue (ne_true_of_eq_false (never closings among closing inside)), closes⟩

/-- Nothing was recorded while a retriever was open. -/
theorem Settled.same (settled : Settled retriever world) (notClosed : retriever.closed = false)
    (recorded : later.2 = world.2) (client : Client) (extended : Retriever) :
    Settled (extended.withClient client) later :=
  settled.grow notClosed (recorded.trans (List.append_nil _).symm) (by simp) (by simp) extended

/-- What was recorded while calls were made is added. -/
theorem Settled.meanwhile (settled : Settled retriever world)
    (notClosed : retriever.closed = false) {session : Session (ω × List (List Closing))}
    {iterator : Iterator Float} {since : List (List Closing)}
    (meanwhile : Meanwhile ⟨retriever.client, world⟩ session iterator since)
    (extended : Retriever) : Settled (extended.withClient session.client) session.world :=
  settled.grow notClosed meanwhile.recorded
    (fun closings among closing inside => by
      rw [meanwhile.onlyLast closings among closing inside]
      rfl) meanwhile.connection extended

/-- What is done when a log is used. -/
theorem act_useLog (outside : Outside ω) {retriever : Retriever} {number : Nat} {log : OpenLog}
    (found : retriever.logs[number]? = some log) (usage : Usage) (world : ω) :
    act outside retriever world (.useLog number usage)
      = let used := usage.apply (outside.surroundings log.buffer.stream.iterator.scope) log.buffer
          ⟨retriever.client, world⟩
        ⟨{ retriever with logs := retriever.logs.set number { log with
            buffer := used.buffer } }.withClient used.world.client, used.world.world,
          used.notices, used.outcome⟩ := by
  simp [act, useLog, found]

/-- What was recorded while a log was opened. -/
theorem exists_meanwhile_prepare (together : outside.ClosesTogether) {wanted : Wanted}
    {policy : TailPolicy Float} {iterator : Iterator Float}
    (started : Iterator.start wanted.scope policy = .ok iterator) (retriever : Retriever)
    (world : ω × List (List Closing)) :
    let prepared := prepare outside.recording.toHost retriever wanted iterator world
    ∃ since, Meanwhile ⟨retriever.client, world⟩ prepared.session prepared.iterator since := by
  obtain ⟨notDue, notClosed⟩ : iterator.waitDue = false ∧ iterator.closed = false := by
    obtain ⟨cursor, -, rfl⟩ := Iterator.eq_of_start started
    exact ⟨rfl, rfl⟩
  obtain ⟨since, meanwhile⟩ := exists_meanwhile together (Iterator.MadeOfCalls.prefetch
    (outside.recording.surroundings wanted.scope) iterator
    (⟨retriever.client, world⟩ : Session (ω × List (List Closing)))) (by simp [notClosed])
  have same : iterator.prefetch (outside.recording.surroundings wanted.scope)
      ⟨retriever.client, world⟩ = iterator.prefetch
        (outside.recording.toHost.surroundings wanted.scope) ⟨retriever.client, world⟩ :=
    Iterator.prefetch_withWait _ _ notDue _
  rw [same] at meanwhile
  refine ⟨since, ?_⟩
  unfold prepare
  dsimp only
  split
  · exact meanwhile
  · exact { meanwhile with
      recorded := (localBindings_recording outside _ wanted _).trans meanwhile.recorded }

/-- What was recorded while a log was used. -/
theorem exists_meanwhile_useLog (together : outside.ClosesTogether) {log : OpenLog}
    (sound : log.buffer.Sound) (usage : Usage) (client : Client) (world : ω × List (List Closing)) :
    let used := usage.apply (outside.recording.surroundings log.buffer.stream.iterator.scope)
      log.buffer ⟨client, world⟩
    ∃ since, Meanwhile ⟨client, world⟩ used.world used.buffer.stream.iterator since := by
  obtain ⟨events, made, -⟩ := Usage.reaches_apply
    (outside.recording.surroundings log.buffer.stream.iterator.scope) log.buffer
    (⟨client, world⟩ : Session (ω × List (List Closing))) usage
  exact exists_meanwhile together made sound.nothingReady

/-! #### Opening a log -/

theorem settled_openLog (together : outside.ClosesTogether) (settled : Settled retriever world)
    (notClosed : retriever.closed = false) (work : Work) (wanted : Wanted) :
    let result := act outside.recording retriever world (.openLog work wanted)
    Settled result.retriever result.world := by
  simp only [act, openLog, opening, notClosed, Bool.false_eq_true, if_false]
  cases started : Iterator.start wanted.scope retriever.policy with
  | error failure => exact settled
  | ok iterator =>
    obtain ⟨since, meanwhile⟩ := exists_meanwhile_prepare together started retriever world
    dsimp only
    unfold openWith
    dsimp only
    split
    · exact settled.meanwhile notClosed meanwhile retriever
    · exact settled.meanwhile notClosed meanwhile _

theorem sound_openLog (together : outside.ClosesTogether) (sound : retriever.Sound)
    (work : Work) (wanted : Wanted) :
    (act outside.recording retriever world (.openLog work wanted)).retriever.Sound := by
  simp only [act, openLog, opening]
  split
  · exact sound
  · cases started : Iterator.start wanted.scope retriever.policy with
    | error failure => exact sound
    | ok iterator =>
      obtain ⟨since, meanwhile⟩ := exists_meanwhile_prepare together started retriever world
      dsimp only
      unfold openWith
      dsimp only
      split
      · exact sound_withClient sound _
      · refine sound_withClient (fun log among => ?_) _
        rcases List.mem_append.mp among with before | new
        · exact sound log before
        · rw [List.mem_singleton.mp new]
          exact ⟨nofun, nofun, meanwhile.nothingReady⟩

/-! #### Using a log -/

theorem settled_useLog (together : outside.ClosesTogether) (settled : Settled retriever world)
    (sound : retriever.Sound) (notClosed : retriever.closed = false) (number : Nat)
    (usage : Usage) :
    let result := act outside.recording retriever world (.useLog number usage)
    Settled result.retriever result.world := by
  cases found : retriever.logs[number]? with
  | none => simpa [act, useLog, found] using settled
  | some log =>
    obtain ⟨since, meanwhile⟩ := exists_meanwhile_useLog together
      (sound log (List.mem_of_getElem? found)) usage retriever.client world
    rw [act_useLog outside.recording found]
    exact settled.meanwhile notClosed meanwhile _

theorem sound_useLog (sound : retriever.Sound) (number : Nat) (usage : Usage) :
    (act outside.recording retriever world (.useLog number usage)).retriever.Sound := by
  cases found : retriever.logs[number]? with
  | none => simpa [act, useLog, found] using sound
  | some log =>
    rw [act_useLog outside.recording found]
    refine sound_withClient (fun other among => ?_) _
    rcases List.mem_or_eq_of_mem_set among with before | rfl
    · exact sound other before
    · exact Usage.sound_apply _ _ usage (records_surroundings outside _)
        (sound log (List.mem_of_getElem? found))

/-! #### Checking and closing -/

theorem settled_check (settled : Settled retriever world) (notClosed : retriever.closed = false) :
    let result := act outside.recording retriever world .check
    Settled result.retriever result.world := by
  simp only [act, check, Client.check]
  split
  · exact settled.same notClosed rfl _ _
  · rcases retriever.client.connection.execute_recording outside Client.checkPath
      Client.checkParameters world
      with ⟨-, -, same⟩ | ⟨closings, recorded, whole, closedMeanwhile, -⟩
    · exact settled.same notClosed (congrArg Prod.snd same) _ _
    · refine settled.grow notClosed recorded (by simp) ?_ _
      rw [List.forall_mem_singleton]
      intro closing inside isClosed
      refine (congrArg Connection.closed closedMeanwhile).trans ?_
      rw [whole]
      exact Connection.closed_during inside isClosed

theorem settled_close (settled : Settled retriever world) (notClosed : retriever.closed = false) :
    Settled retriever.close.1 world := by
  have isOpen : retriever.client.connection.closed = false := notClosed
  simp only [close, Connection.close, isOpen, Bool.false_eq_true, if_false]
  exact settled.same notClosed rfl _ _

theorem sound_close (sound : retriever.Sound) : retriever.close.1.Sound := by
  unfold close
  dsimp only
  split
  · exact sound_withClient (sound_map_endLog sound) _
  · exact sound_map_endLog sound

/-! #### Whatever is done -/

theorem settled_act (together : outside.ClosesTogether) (settled : Settled retriever world)
    (sound : retriever.Sound) (action : Action) :
    let result := act outside.recording retriever world action
    Settled result.retriever result.world := by
  cases closed : retriever.closed with
  | true =>
    obtain ⟨sameWorld, ended, -⟩ :=
      act_of_ended outside.recording (settled.ended closed) world action
    dsimp only
    rw [sameWorld]
    exact ⟨settled.onlyLast, fun _ _ _ _ _ => ended.closed, fun _ => ended⟩
  | false =>
    cases action with
    | openLog work wanted => exact settled_openLog together settled closed work wanted
    | useLog number usage => exact settled_useLog together settled sound closed number usage
    | check => exact settled_check settled closed
    | close => exact settled_close settled closed
    | leave =>
      simp only [act, leave, closed, Bool.false_eq_true, if_false]
      exact settled_close settled closed

theorem sound_act (together : outside.ClosesTogether) (sound : retriever.Sound)
    (action : Action) : (act outside.recording retriever world action).retriever.Sound := by
  cases action with
  | openLog work wanted => exact sound_openLog together sound work wanted
  | useLog number usage => exact sound_useLog sound number usage
  | check => exact sound_withClient sound _
  | close => exact sound_close sound
  | leave =>
    simp only [act, leave]
    split
    · exact sound
    · exact sound_close sound

theorem settled_acts (together : outside.ClosesTogether) (settled : Settled retriever world)
    (sound : retriever.Sound) (actions : List Action) :
    let state := acts outside.recording actions (retriever, world)
    Settled state.1 state.2 ∧ state.1.Sound := by
  induction actions generalizing retriever world with
  | nil => exact ⟨settled, sound⟩
  | cons action rest inductionHypothesis =>
    exact inductionHypothesis (settled_act together settled sound action)
      (sound_act together sound action)

/-- A new retriever has the connection and the policy that its parts say, and no logs. -/
theorem of_create {parts : Parts} {retriever : Retriever}
    (created : create parts = .ok retriever) :
    Connection.create parts.url parts.credentials parts.tenant parts.verify parts.timeout
        = .ok retriever.client.connection
      ∧ retriever.policy = parts.policy ∧ retriever.logs = [] := by
  unfold create at created
  simp only [bind, Except.bind, throw, throwThe, MonadExceptOf.throw, pure, Except.pure] at created
  -- every test but the last one refuses the parts
  repeat' split at created
  all_goals cases created
  rename_i connection made
  exact ⟨made, rfl, rfl⟩

/-- A new retriever is open and has no logs. -/
theorem open_of_create {parts : Parts} {retriever : Retriever}
    (created : create parts = .ok retriever) :
    retriever.closed = false ∧ retriever.logs = [] := by
  obtain ⟨made, -, noLogs⟩ := of_create created
  exact ⟨Connection.closed_of_create made, noLogs⟩

/-- A new retriever is settled and sound, and it stays so whatever is done with it. -/
theorem settled_of_create (together : outside.ClosesTogether) {parts : Parts}
    (created : create parts = .ok retriever) (world : ω) (actions : List Action) :
    let state := acts outside.recording actions (retriever, (world, []))
    Settled state.1 state.2 ∧ state.1.Sound := by
  obtain ⟨isOpen, noLogs⟩ := open_of_create created
  refine settled_acts together ⟨by simp, by simp, fun closed => ?_⟩ ?_ actions
  · exact absurd closed (ne_true_of_eq_false isOpen)
  · simp [Sound, noLogs]

end Operations

end Retriever

end RunLog
