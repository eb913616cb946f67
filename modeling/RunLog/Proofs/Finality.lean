import RunLog.Proofs.Closing
import RunLog.Proofs.Numbering

/-!
# Closing is final

Wherever closing lands, it is final.  A log whose iterator is closed keeps it as it is, whatever
else is done with the retriever, and no use of it asks or waits for anything.  A retriever that is
closed opens no log, cannot be closed again, and asks the backend nothing; of a stream that is open
there is left what was not read of its last line, and then its end.

What a close that lands during a request does not stop are the redirects of that request: the
library follows them before it hands over the answer.  They belong to one exchange, which is the
last one.

A check of a closed retriever gives one bad verdict if the request can be described.  For a URL
with a name that has no form in bytes it gives none.
-/

namespace RunLog
namespace Retriever

variable {ω : Type}

/-! ## Logs that are closed -/

/-- The log with a number has an iterator. -/
def HasIterator (retriever : Retriever) (number : Nat) (iterator : Iterator Float) : Prop :=
  ∃ log, retriever.logs[number]? = some log ∧ log.buffer.stream.iterator = iterator

section HasIterator

variable {retriever : Retriever} {number : Nat} {iterator : Iterator Float}
  (closed : iterator.closed = true) (nothingReady : iterator.ready = [])
include closed nothingReady

theorem hasIterator_map_endLog (has : retriever.HasIterator number iterator) :
    HasIterator { retriever with logs := retriever.logs.map endLog } number iterator := by
  obtain ⟨log, found, isIterator⟩ := has
  refine ⟨endLog log, by simp [found], ?_⟩
  rw [← isIterator] at closed nothingReady ⊢
  exact Iterator.close_eq closed nothingReady

theorem hasIterator_withClient (has : retriever.HasIterator number iterator) (client : Client) :
    (retriever.withClient client).HasIterator number iterator := by
  have ended := hasIterator_map_endLog closed nothingReady has
  unfold withClient HasIterator
  dsimp only
  split
  · exact ended
  · exact has

theorem hasIterator_close (has : retriever.HasIterator number iterator) :
    retriever.close.1.HasIterator number iterator := by
  have ended := hasIterator_map_endLog closed nothingReady has
  unfold close
  dsimp only
  split
  · exact hasIterator_withClient closed nothingReady ended _
  · exact ended

theorem hasIterator_openLog (outside : Outside ω) (has : retriever.HasIterator number iterator)
    (work : Work) (wanted : Wanted) (world : ω) :
    (act outside retriever world (.openLog work wanted)).retriever.HasIterator number iterator := by
  simp only [act, openLog, opening]
  split
  · exact has
  · split
    · exact has
    · unfold openWith
      dsimp only
      split
      · exact hasIterator_withClient closed nothingReady has _
      · refine hasIterator_withClient closed nothingReady ?_ _
        obtain ⟨log, found, isIterator⟩ := has
        refine ⟨log, ?_, isIterator⟩
        rwa [List.getElem?_append_left (List.getElem?_eq_some_iff.mp found).1]

theorem hasIterator_useLog (outside : Outside ω) (has : retriever.HasIterator number iterator)
    (other : Nat) (usage : Usage) (world : ω) :
    (act outside retriever world (.useLog other usage)).retriever.HasIterator number iterator := by
  cases found : retriever.logs[other]? with
  | none => simpa [act, useLog, found] using has
  | some used =>
    rw [act_useLog outside found]
    refine hasIterator_withClient closed nothingReady ?_ _
    obtain ⟨log, isLog, isIterator⟩ := has
    by_cases same : other = number
    · subst same
      obtain rfl : used = log := Option.some.inj (found.symm.trans isLog)
      refine ⟨_, List.getElem?_set_self (List.getElem?_eq_some_iff.mp found).1, ?_⟩
      rw [← isIterator] at closed nothingReady ⊢
      exact (Usage.apply_of_closed _ _ usage closed nothingReady).1
    · exact ⟨log, by simpa [List.getElem?_set_ne same] using isLog, isIterator⟩

/-- A closed iterator stays as it is, whatever is done. -/
theorem hasIterator_act (outside : Outside ω) (has : retriever.HasIterator number iterator)
    (action : Action) (world : ω) :
    (act outside retriever world action).retriever.HasIterator number iterator := by
  cases action with
  | openLog work wanted =>
    exact hasIterator_openLog closed nothingReady outside has work wanted world
  | useLog other usage => exact hasIterator_useLog closed nothingReady outside has other usage world
  | check => exact hasIterator_withClient closed nothingReady has _
  | close => exact hasIterator_close closed nothingReady has
  | leave =>
    simp only [act, leave]
    split
    · exact has
    · exact hasIterator_close closed nothingReady has

theorem hasIterator_acts (outside : Outside ω) (has : retriever.HasIterator number iterator)
    (actions : List Action) (world : ω) :
    (acts outside actions (retriever, world)).1.HasIterator number iterator := by
  induction actions generalizing retriever world with
  | nil => exact has
  | cons action rest inductionHypothesis =>
    exact inductionHypothesis (hasIterator_act closed nothingReady outside has action world) _

end HasIterator

theorem nothingReady_of_sound {retriever : Retriever} {number : Nat} {iterator : Iterator Float}
    (sound : retriever.Sound) (has : retriever.HasIterator number iterator)
    (closed : iterator.closed = true) : iterator.ready = [] := by
  obtain ⟨log, found, rfl⟩ := has
  exact (sound log (List.mem_of_getElem? found)).nothingReady closed

/-- Using the log with a number asks and waits for nothing, and hands out no entry. -/
def IsStill (outside : Outside ω) (retriever : Retriever) (world : ω) (number : Nat) : Prop :=
  ∀ usage, let result := act outside retriever world (.useLog number usage)
    result.world = world ∧ Usage.Quiet result.notices
      ∧ ∀ entry, result.outcome ≠ .ok (.entry (some entry))

theorem isStill_of_closed (outside : Outside ω) {retriever : Retriever} {number : Nat}
    {iterator : Iterator Float} (closed : iterator.closed = true)
    (nothingReady : iterator.ready = []) (has : retriever.HasIterator number iterator)
    (world : ω) : IsStill outside retriever world number := by
  intro usage
  obtain ⟨log, found, rfl⟩ := has
  obtain ⟨sameIterator, sameWorld, quiet⟩ := Usage.apply_of_closed
    (outside.surroundings log.buffer.stream.iterator.scope) (⟨retriever.client, world⟩ : Session ω)
    usage closed nothingReady
  rw [act_useLog outside found]
  refine ⟨congrArg Session.world sameWorld, quiet, fun entry handedOut => ?_⟩
  have stillOpen := Usage.open_of_entry _ _ usage handedOut
  rw [sameIterator, closed] at stillOpen
  exact absurd stillOpen (by simp)

/-! ## What is cut short -/

/-- While the log with a number was opened or used, only the last exchange or wait can have closed
something.  If it has, the log's iterator is closed, and the retriever if it was closed, and no
entry was handed out. -/
def CutShort (world : ω × List (List Closing)) (result : Result (ω × List (List Closing)) Output)
    (number : Nat) : Prop :=
  ∃ since, result.world.2 = world.2 ++ since
    ∧ (∀ closings ∈ since.dropLast, ∀ closing ∈ closings, closing = .nothing)
    ∧ ∀ closings ∈ since, ∀ closing ∈ closings, closing ≠ .nothing →
      (∀ log, result.retriever.logs[number]? = some log →
        log.buffer.stream.iterator.closed = true)
      ∧ (closing.connection = true → result.retriever.closed = true)
      ∧ ∀ entry, result.outcome ≠ .ok (.entry (some entry))

section CutShort

variable {outside : Outside ω} {retriever : Retriever}

/-- Nothing was asked or waited for. -/
theorem cutShort_of_nothing {world : ω × List (List Closing)} {number : Nat}
    {result : Result (ω × List (List Closing)) Output} (same : result.world.2 = world.2) :
    CutShort world result number :=
  ⟨[], same.trans (List.append_nil _).symm, by simp, by simp⟩

/-- A log is ended with the connection, or stays as it is. -/
theorem getElem?_withClient (retriever : Retriever) (client : Client) (number : Nat) :
    (retriever.withClient client).logs[number]?
      = retriever.logs[number]?.map (if client.connection.closed then endLog else id) := by
  unfold withClient
  dsimp only
  split <;> simp

theorem closed_withClient_log {number : Nat} {log : OpenLog} {client : Client}
    (closed : ∀ before, retriever.logs[number]? = some before →
      before.buffer.stream.iterator.closed = true)
    (found : (retriever.withClient client).logs[number]? = some log) :
    log.buffer.stream.iterator.closed = true := by
  rw [getElem?_withClient, Option.map_eq_some_iff] at found
  obtain ⟨before, isBefore, rfl⟩ := found
  split
  · rfl
  · exact closed before isBefore

/-- A log whose iterator is closed by a use has its iterator closed afterwards. -/
theorem closed_useLog_log {number : Nat} {log later : OpenLog} {usage : Usage} {world : ω}
    (found : retriever.logs[number]? = some log)
    (closed : (usage.apply (outside.surroundings log.buffer.stream.iterator.scope) log.buffer
      ⟨retriever.client, world⟩).buffer.stream.iterator.closed = true)
    (isLater : (act outside retriever world (.useLog number usage)).retriever.logs[number]?
      = some later) : later.buffer.stream.iterator.closed = true := by
  rw [act_useLog outside found] at isLater
  refine closed_withClient_log (fun before isBefore => ?_) isLater
  rw [List.getElem?_set_self (List.getElem?_eq_some_iff.mp found).1] at isBefore
  cases isBefore
  exact closed

/-- A use that closes a log closes its iterator. -/
theorem closed_of_closes (sound : retriever.Sound) (number : Nat) {usage : Usage}
    (closing : usage.closes = true) (world : ω) {later : OpenLog}
    (isLater : (act outside retriever world (.useLog number usage)).retriever.logs[number]?
      = some later) : later.buffer.stream.iterator.closed = true := by
  cases found : retriever.logs[number]? with
  | none => simp [act, useLog, found] at isLater
  | some log =>
    exact closed_useLog_log found (Usage.closed_of_closes _ _ usage
      (sound log (List.mem_of_getElem? found)) closing) isLater

/-- Using a log is cut short when it is closed meanwhile. -/
theorem cutShort_useLog (together : outside.ClosesTogether) (sound : retriever.Sound)
    (world : ω × List (List Closing)) (number : Nat) (usage : Usage) :
    CutShort world (act outside.recording retriever world (.useLog number usage)) number := by
  cases found : retriever.logs[number]? with
  | none => exact cutShort_of_nothing (by simp [act, useLog, found])
  | some log =>
    obtain ⟨since, meanwhile⟩ := exists_meanwhile_useLog together
      (sound log (List.mem_of_getElem? found)) usage retriever.client world
    have done := act_useLog outside.recording found usage world
    refine ⟨since, by rw [done]; exact meanwhile.recorded, meanwhile.onlyLast,
      fun closings among closing inside notNothing => ?_⟩
    have closed := meanwhile.iterator closings among closing inside notNothing
    refine ⟨fun later isLater => closed_useLog_log found closed isLater, fun isClosed => ?_,
      fun entry handedOut => ?_⟩
    · rw [done]
      exact meanwhile.connection closings among closing inside isClosed
    · rw [done] at handedOut
      have stillOpen := Usage.open_of_entry _ _ usage handedOut
      exact absurd closed (ne_true_of_eq_false stillOpen)

/-- Opening a log is cut short when it is closed meanwhile. -/
theorem cutShort_openLog (together : outside.ClosesTogether) (world : ω × List (List Closing))
    (work : Work) (wanted : Wanted) :
    CutShort world (act outside.recording retriever world (.openLog work wanted))
      retriever.logs.length := by
  simp only [act, openLog, opening]
  split
  · exact cutShort_of_nothing rfl
  · cases started : Iterator.start wanted.scope retriever.policy with
    | error failure => exact cutShort_of_nothing rfl
    | ok iterator =>
      obtain ⟨since, meanwhile⟩ := exists_meanwhile_prepare together started retriever world
      dsimp only
      unfold openWith
      dsimp only
      split
      · refine ⟨since, meanwhile.recorded, meanwhile.onlyLast,
          fun closings among closing inside notNothing => ⟨fun log found => ?_,
            meanwhile.connection closings among closing inside, by simp [Except.map]⟩⟩
        exact closed_withClient_log (by simp) found
      · refine ⟨since, meanwhile.recorded, meanwhile.onlyLast,
          fun closings among closing inside notNothing => ⟨fun log found => ?_,
            meanwhile.connection closings among closing inside, by simp [Except.map]⟩⟩
        refine closed_withClient_log (fun before isBefore => ?_) found
        rw [List.getElem?_concat_length] at isBefore
        cases isBefore
        exact meanwhile.iterator closings among closing inside notNothing

end CutShort

/-! ## What is left of a closed retriever -/

/-- Bytes were read from the log with a number, and these are left of its line. -/
def Reads (result : Result ω Output) (number : Nat) (bytes rest : Bytes) : Prop :=
  result.outcome = .ok (.bytes bytes) ∧ ∃ log, result.retriever.logs[number]? = some log
    ∧ log.buffer.stream.pending = rest ∧ log.buffer.stream.closed = false

/-- A retriever that is closed opens no log, cannot be closed again, has one bad verdict on its
backend if the request can be described, and reads what is left of the line that was taken last; a
log that was read into memory is still shown. -/
structure Retired (outside : Outside ω) (retriever : Retriever) (world : ω) : Prop where
  quiet : ∀ action, Usage.Quiet (act outside retriever world action).notices
  opens : ∀ work wanted, (act outside retriever world (.openLog work wanted)).outcome
    = .error (.closed .retriever)
  closes : (act outside retriever world .close).outcome
    = .error (.closed (.connection retriever.client.connection.url))
  checks : (∃ verdict, (act outside retriever world .check).outcome = .ok (.verdict verdict))
    ↔ retriever.client.connection.Describable outside.sender Client.checkPath
      Client.checkParameters
  refuses : ∀ verdict, (act outside retriever world .check).outcome = .ok (.verdict verdict) →
    verdict.ok = false
  reads : ∀ number log fuel count, retriever.logs[number]? = some log →
    log.buffer.stream.closed = false →
    Reads (act outside retriever world (.useLog number (.read fuel count))) number
      (log.buffer.stream.pending.take count) (log.buffer.stream.pending.drop count)
  readsAll : ∀ number log fuel, retriever.logs[number]? = some log →
    log.buffer.stream.closed = false → log.buffer.stream.pending.length < fuel →
    Reads (act outside retriever world (.useLog number (.readAll fuel))) number
      log.buffer.stream.pending []
  readsLine : ∀ number log fuel limit, retriever.logs[number]? = some log →
    log.buffer.stream.closed = false → ∃ bytes rest, log.buffer.stream.pending = bytes ++ rest
      ∧ Reads (act outside retriever world (.useLog number (.readLine fuel limit))) number
        bytes rest
  looks : ∀ number log fuel view, retriever.logs[number]? = some log →
    log.buffer.closed = false → log.buffer.stream.closed = false →
    log.buffer.stream.pending.length < fuel →
    (act outside retriever world (.useLog number (.look fuel view))).outcome
      = .ok (.shown (view.shown (log.buffer.content.getD log.buffer.stream.pending)))

section Retired

variable (outside : Outside ω) {retriever : Retriever} (ended : retriever.Ended) (world : ω)
  {number : Nat} {log : OpenLog} (found : retriever.logs[number]? = some log)

include found in
/-- A use that moves bytes from the current line of a stream reads them. -/
theorem reads_of_apply {usage : Usage} {bytes rest : Bytes}
    (isOpen : log.buffer.stream.closed = false)
    (applied : usage.apply (outside.surroundings log.buffer.stream.iterator.scope) log.buffer
        ⟨retriever.client, world⟩
      = ⟨{ log.buffer with stream := { log.buffer.stream with pending := rest } },
          ⟨retriever.client, world⟩, [], .ok (.bytes bytes)⟩) :
    Reads (act outside retriever world (.useLog number usage)) number bytes rest := by
  have inside : number < retriever.logs.length := (List.getElem?_eq_some_iff.mp found).1
  rw [act_useLog outside found, applied]
  refine ⟨rfl, ?_⟩
  simp only [getElem?_withClient, List.getElem?_set_self inside, Option.map_some]
  split <;> exact ⟨_, rfl, rfl, isOpen⟩

theorem outcome_check_iff {verdict : Client.Verdict} :
    (act outside retriever world .check).outcome = .ok (.verdict verdict)
      ↔ (retriever.client.check outside.sender world).verdict = .ok verdict := by
  simp only [act, check]
  cases (retriever.client.check outside.sender world).verdict <;> simp [Except.map]

include ended in
/-- This is what is left of a retriever that has ended. -/
theorem retired_of_ended : Retired outside retriever world where
  quiet action := (act_of_ended outside ended world action).2.2.2
  opens work wanted := by simp [act, openLog, opening, ended.closed, Except.map]
  closes := by simp [act, close_of_closed ended.closed, Except.map]
  checks := by
    obtain ⟨-, -, exists_iff, -⟩ :=
      check_of_closed outside.sender retriever.client world ended.closed
    simpa only [outcome_check_iff] using exists_iff
  refuses verdict given := by
    obtain ⟨-, -, -, bad⟩ := check_of_closed outside.sender retriever.client world ended.closed
    exact bad verdict ((outcome_check_iff outside world).mp given)
  reads number log fuel count found isOpen := by
    have isClosed := (ended.logs log (List.mem_of_getElem? found)).1
    refine reads_of_apply outside world found isOpen ?_
    simp only [Usage.apply, Buffer.onStream, Usage.handing,
      ByteStream.read_of_closed _ fuel isClosed _ isOpen count, Notice.ofEvents_nil, Except.map]
  readsAll number log fuel found isOpen enough := by
    have isClosed := (ended.logs log (List.mem_of_getElem? found)).1
    refine reads_of_apply outside world found isOpen ?_
    simp only [Usage.apply, Buffer.onStream, Usage.handing, ByteStream.readAll,
      ByteStream.readChunks_of_closed _ fuel isClosed _ isOpen enough, Notice.ofEvents_nil,
      Except.map]
  readsLine number log fuel limit found isOpen := by
    have isClosed := (ended.logs log (List.mem_of_getElem? found)).1
    obtain ⟨bytes, rest, split, eq⟩ := ByteStream.readLine_of_closed
      (outside.surroundings log.buffer.stream.iterator.scope) fuel isClosed
      (⟨retriever.client, world⟩ : Session ω) isOpen limit
    refine ⟨bytes, rest, split, reads_of_apply outside world found isOpen ?_⟩
    simp only [Usage.apply, Buffer.onStream, Usage.handing, eq, Notice.ofEvents_nil, Except.map]
  looks number log fuel view found isOpen streamOpen enough := by
    have isClosed := (ended.logs log (List.mem_of_getElem? found)).1
    rw [act_useLog outside found]
    simp only [Usage.apply, Usage.handing, Buffer.look, Buffer.whole, Buffer.materialize, isOpen,
      Bool.false_eq_true, if_false]
    cases log.buffer.content with
    | some content => rfl
    | none =>
      simp only [ByteStream.readAll,
        ByteStream.readChunks_of_closed _ fuel isClosed _ streamOpen enough]
      rfl

include ended in
/-- A retriever that has ended stays so, and nothing is asked or waited for. -/
theorem ended_acts (actions : List Action) :
    let state := acts outside actions (retriever, world)
    state.2 = world ∧ state.1.client = retriever.client ∧ state.1.Ended := by
  induction actions generalizing retriever world with
  | nil => exact ⟨rfl, rfl, ended⟩
  | cons action rest inductionHypothesis =>
    obtain ⟨sameWorld, stillEnded, sameClient, -⟩ := act_of_ended outside ended world action
    obtain ⟨worldAfter, clientAfter, endedAfter⟩ := inductionHypothesis stillEnded
      (act outside retriever world action).world
    exact ⟨worldAfter.trans sameWorld, clientAfter.trans sameClient, endedAfter⟩

end Retired

/-! ## Whatever was done before -/

/-- In a state of a retriever closing is final: the retriever was closed during the last exchange or
wait at most, and then it is closed; what is closed while a log is opened or used is closed
afterwards; a log whose iterator is closed stays so and asks and waits for nothing; and a retriever
that is closed stays so, asks and waits for nothing, and is good for no more than its rest. -/
structure ClosesForGood (outside : Outside (ω × List (List Closing))) (retriever : Retriever)
    (world : ω × List (List Closing)) : Prop where
  onlyLast : ∀ closings ∈ world.2.dropLast, ∀ closing ∈ closings, closing.connection = false
  isClosed : ∀ closings ∈ world.2, ∀ closing ∈ closings, closing.connection = true →
    retriever.closed = true
  byClose : (act outside retriever world .close).retriever.closed = true
  byLeave : (act outside retriever world .leave).retriever.closed = true
  byUsage : ∀ number usage, usage.closes = true →
    ∀ log, (act outside retriever world (.useLog number usage)).retriever.logs[number]? = some log →
      log.buffer.stream.iterator.closed = true
  opening : ∀ work wanted, CutShort world (act outside retriever world (.openLog work wanted))
    retriever.logs.length
  usage : ∀ number usage, CutShort world (act outside retriever world (.useLog number usage)) number
  log : ∀ number iterator, retriever.HasIterator number iterator → iterator.closed = true →
    ∀ more, let later := acts outside more (retriever, world)
      later.1.HasIterator number iterator ∧ IsStill outside later.1 later.2 number
  retired : retriever.closed = true → ∀ more, let later := acts outside more (retriever, world)
    later.2 = world ∧ later.1.client = retriever.client ∧ later.1.Ended
      ∧ Retired outside later.1 later.2

theorem closed_close (retriever : Retriever) : retriever.close.1.closed = true := by
  unfold close Connection.close
  dsimp only
  split
  · rename_i ended
    split at ended
    · cases ended
    · cases ended
      rfl
  · rename_i failed
    split at failed
    · assumption
    · cases failed

theorem closed_leave (retriever : Retriever) : retriever.leave.1.closed = true := by
  unfold leave
  split
  · assumption
  · exact closed_close retriever

/-- Closing is final whatever was done with a retriever. -/
theorem closesForGood_acts {outside : Outside ω} (together : outside.ClosesTogether)
    {parts : Parts} {retriever : Retriever} (created : create parts = .ok retriever) (world : ω)
    (actions : List Action) :
    let state := acts outside.recording actions (retriever, (world, []))
    ClosesForGood outside.recording state.1 state.2 := by
  obtain ⟨settled, sound⟩ := settled_of_create together created world actions
  exact {
    onlyLast := settled.onlyLast
    isClosed := settled.closes
    byClose := closed_close _
    byLeave := closed_leave _
    byUsage := fun number usage closing log =>
      closed_of_closes sound number closing _
    opening := cutShort_openLog together _
    usage := cutShort_useLog together sound _
    log := fun number iterator has closed more => by
      have nothingReady := nothingReady_of_sound sound has closed
      have still := hasIterator_acts closed nothingReady outside.recording has more
        (acts outside.recording actions (retriever, (world, []))).2
      exact ⟨still, isStill_of_closed outside.recording closed nothingReady still _⟩
    retired := fun closed more => by
      obtain ⟨sameWorld, sameClient, ended⟩ :=
        ended_acts outside.recording (settled.ended closed) _ more
      exact ⟨sameWorld, sameClient, ended, retired_of_ended outside.recording ended _⟩ }

/-- Closing is final, wherever it lands, for an iterator, for a stream over it and for a retriever
with all its logs. -/
theorem closing_is_final (ω : Type) :
    (∀ (δ : Type) [WaitTime δ] (env : Surroundings ω δ) (scope : Scope) (policy : TailPolicy δ)
      (iterator : Iterator δ) (world : ω) (deeds : List (Iterator.Deed ω)),
      Iterator.start scope policy = .ok iterator →
        ((Iterator.Run.start iterator (world, [])).deeds env.recording deeds).ClosesForGood
          env.recording)
    ∧ (∀ (δ : Type) [WaitTime δ] (env : Surroundings ω δ) (fuel : Nat) (stream : ByteStream δ)
      (world : ω), stream.closed = false →
        (∀ count, ByteStream.Concluded (stream.read env fuel count world))
        ∧ (∀ limit, ByteStream.Concluded (stream.readLine env fuel limit world))
        ∧ ((stream.readAll env fuel world).outcome = .error .unfinished
          ∨ ByteStream.Concluded (stream.readAll env fuel world)))
    ∧ ∀ (outside : Outside ω) (parts : Parts) (retriever : Retriever) (world : ω)
      (actions : List Action), outside.ClosesTogether → create parts = .ok retriever →
        let state := acts outside.recording actions (retriever, (world, []))
        ClosesForGood outside.recording state.1 state.2 := by
  refine ⟨?_, ?_, ?_⟩
  · intro δ _ env scope policy iterator world deeds started
    exact Iterator.Run.closesForGood_deeds env started world deeds
  · intro δ _ env fuel stream world isOpen
    exact ⟨fun count => ByteStream.concluded_read env fuel isOpen count world,
      fun limit => ByteStream.concluded_readLine env fuel isOpen limit world,
      ByteStream.concluded_readChunks env fuel isOpen fuel world⟩
  · intro outside parts retriever world actions together created
    exact closesForGood_acts together created world actions

/-- An outside in which the retriever is closed during a request whose answer is a redirect, and an
empty page comes from there.  The world counts the exchanges. -/
def hangingUp : Outside Nat where
  sender := StandIn.sender 0x100000 fun _ count =>
    (⟨.ok (.ofBody 6 200
        (Text.utf8 "\x7b\"status\":\"success\",\"data\":\x7b\"result\":[]\x7d\x7d")),
      ⟨true, true⟩, [.nothing]⟩, count + 1)
  clock count := (0, count)
  wait _ _ count := (.ok false, count)
  now count := (⟨0, none⟩, count)
  shuts _ _ := false

/-- The parts of a retriever for the backend at a URL. -/
def partsAt (url : Text) : Parts where
  url
  serviceName := some "ci"
  serviceNamespace := none
  renderer := some (.fixed .null)
  provider := some (.fixed [])
  journal := true
  extractor := some .plain
  credentials := none
  tenant := none
  verify := true
  policy := .standard
  pageSize := 100
  timeout := 30

/-- A new retriever for the backend at a URL. -/
def retrieverAt (url : Text) : Retriever where
  client := ⟨⟨url, none, none, true, 30, false⟩, ⟨"ci", none⟩, 100⟩
  provider := .fixed []
  renderer := .fixed .null
  extractor := .plain
  policy := .standard
  logs := []

theorem create_partsAt_local :
    create (partsAt "http://loki:3100") = .ok (retrieverAt "http://loki:3100") := rfl

/-- The log that was being opened when the retriever was closed is there and reads nothing, and
nothing is asked any more once the redirect was followed. -/
theorem hangingUp_closing_is_final :
    let wanted : Wanted := ⟨Scope.firstMicrosecond true, "span"⟩
    let env := hangingUp.surroundings wanted.scope
    let session : Session Nat := ⟨(retrieverAt "http://loki:3100").client, 0⟩
    (∃ iterator, Iterator.start wanted.scope .standard = .ok iterator
      ∧ (let run := (Iterator.Run.start iterator (session, [])).deeds env.recording
          [.call .prefetch]
        run.iterator.closed = true ∧ ∀ deeds, ∃ world,
          run.deeds env.recording deeds = { run with world := (world, run.world.2) })
      ∧ ByteStream.Concluded ((ByteStream.start iterator .plain).read env 1 1 session))
    ∧ hangingUp.ClosesTogether
    ∧ ∃ retriever, create (partsAt "http://loki:3100") = .ok retriever ∧
      let state := acts hangingUp.recording [.openLog .overallLog wanted] (retriever, (0, []))
      state.2 = (1, [[⟨true, true⟩, .nothing]]) ∧ state.1.logs.length = 1
      ∧ ∀ more, let later := acts hangingUp.recording more (state.1, state.2)
        later.2 = (1, [[⟨true, true⟩, .nothing]])
          ∧ Retired hangingUp.recording later.1 later.2 := by
  intro wanted env session
  have together : hangingUp.ClosesTogether := by
    rintro request world closing among
    rcases List.mem_cons.mp among with rfl | later
    · exact fun _ => rfl
    · rw [List.mem_singleton.mp later]
      exact nofun
  have started : Iterator.start wanted.scope TailPolicy.standard = .ok _ := rfl
  have hungUp : (acts hangingUp.recording [.openLog .overallLog wanted]
      (retrieverAt "http://loki:3100", (0, []))).2 = (1, [[⟨true, true⟩, .nothing]]) := by
    decide +kernel
  refine ⟨⟨_, started, ⟨?_, ?_⟩, ?_⟩, together, _, create_partsAt_local, hungUp, ?_, ?_⟩
  · decide +kernel
  · exact ((closing_is_final (Session Nat)).1 Float env wanted.scope TailPolicy.standard _ session
      [.call .prefetch] started).still (by decide +kernel)
  · exact ((closing_is_final (Session Nat)).2.1 Float env 1 _ session rfl).1 1
  · decide +kernel
  · have final := (closing_is_final Nat).2.2 hangingUp (partsAt "http://loki:3100") _ 0
      [.openLog .overallLog wanted] together create_partsAt_local
    have isClosed := final.isClosed [⟨true, true⟩, .nothing]
      (by rw [hungUp]; exact List.mem_singleton_self _) ⟨true, true⟩ List.mem_cons_self rfl
    intro more
    obtain ⟨sameWorld, -, -, retired⟩ := final.retired isClosed more
    exact ⟨sameWorld.trans hungUp, retired⟩

/-- A retriever for a URL with a name in Chinese has no verdict on its backend, also after it is
closed. -/
theorem no_verdict_after_close_on_chinese_name :
    create (partsAt "http://用户:x@loki:3100") = .ok (retrieverAt "http://用户:x@loki:3100")
      ∧ (retrieverAt "http://用户:x@loki:3100").close.2 = .ok ()
      ∧ ∀ (ω : Type) (host : Host ω) (room : Int) (send : Request → ω → Delivery × ω) (world : ω),
        ((retrieverAt "http://用户:x@loki:3100").close.1.check
            { host with sender := StandIn.sender room send } world).outcome
          = .error (.request .unencodable) :=
  ⟨rfl, rfl, fun _ _ _ _ _ => rfl⟩

end Retriever
end RunLog
