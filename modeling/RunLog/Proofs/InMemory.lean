import RunLog.Proofs.Bytes
import RunLog.Proofs.Numbering
import RunLog.Script

/-!
# Looking at a log in memory

A buffer reads its stream to the end when it is first looked at, and a look that fails is followed
by another attempt.  What a failed look had read of the log does not come again: the next look that
succeeds shows what was left, and so do all looks after it.  This is the whole log only if no line
had been taken when the earlier looks failed.

The log itself is a matter of the iterator alone: the bytes of all lines that it hands out when it
is asked often enough.
-/

namespace RunLog

/-- The iterator hands out these lines when it is asked often enough, and no more. -/
def Iterator.HandsOut {ω δ : Type} [WaitTime δ] (env : Surroundings ω δ) (fuel : Nat)
    (iterator : Iterator δ) (world : ω) (lines : List Entry) : Prop :=
  ∃ enough, ∀ count, enough ≤ count →
    ((Run.start iterator world).pulls env fuel count).delivered = lines

theorem Iterator.handsOut_of_ended {ω δ : Type} [WaitTime δ] {env : Surroundings ω δ} {fuel : Nat}
    {iterator : Iterator δ} {world : ω} (count : Nat)
    (ended : ((Run.start iterator world).pulls env fuel count).iterator.Ended) :
    HandsOut env fuel iterator world ((Run.start iterator world).pulls env fuel count).delivered :=
  ⟨count, fun more enough => by
    rw [← Nat.add_sub_cancel' enough, Run.pulls_add, Run.pulls_of_ended ended]⟩

namespace Buffer

open Iterator ByteStream

variable {ω : Type} (env : Surroundings ω Float) (fuel : Nat)

/-- What comes of several looks. -/
structure Looks (ω : Type) where
  /-- What is seen of the log, or why nothing is. -/
  outcomes : List (Except Failure Shown)
  /-- The buffer afterwards. -/
  buffer : Buffer Float
  /-- The world afterwards. -/
  world : ω

/-- Look at a log several times. -/
def looks : List View → Buffer Float → ω → Looks ω
  | [], buffer, world => ⟨[], buffer, world⟩
  | view :: rest, buffer, world =>
    let used := buffer.look env fuel view world
    let later := looks rest used.buffer used.world
    { later with outcomes := used.outcome :: later.outcomes }

variable {iterator : Iterator Float} {extractor : Extractor} {start world : ω}
  {buffer : Buffer Float}

/-- A buffer whose content is still to be read, over a stream that follows a run of pulls. -/
structure Unread (extractor : Extractor) (iterator : Iterator Float) (start : ω) (count : Nat)
    (gone : Bytes) (buffer : Buffer Float) (world : ω) : Prop where
  notClosed : buffer.closed = false
  noContent : buffer.content = none
  world_eq : world = ((Run.start iterator start).pulls env fuel count).world
  follows : Follows extractor ((Run.start iterator start).pulls env fuel count) gone buffer.stream
  begun : gone = [] → buffer.stream.pending = []

theorem unread_start (iterator : Iterator Float) (extractor : Extractor) (start : ω) :
    Unread env fuel extractor iterator start 0 []
      (Buffer.start (ByteStream.start iterator extractor)) start :=
  ⟨rfl, rfl, rfl, follows_start iterator start, fun _ => rfl⟩

theorem materialize_eq (notClosed : buffer.closed = false) (noContent : buffer.content = none) :
    buffer.materialize env fuel world
      = let read := readChunks env fuel fuel buffer.stream world
        ⟨{ buffer with stream := read.stream, content := read.outcome.toOption }, read.world,
          some read.events, read.outcome⟩ := by
  simp [materialize, notClosed, noContent, readAll]

/-- Nothing has gone exactly if no line was taken. -/
theorem Unread.noLine_iff {count : Nat} {gone : Bytes}
    (unread : Unread env fuel extractor iterator start count gone buffer world) :
    buffer.stream.lines = 0 ↔ gone = [] := by
  obtain ⟨-, -, -, follows, begun⟩ := unread
  rw [follows.noLine_iff, follows.offset_eq, follows.log_eq, List.length_eq_zero_iff,
    List.append_eq_nil_iff]
  exact ⟨And.left, fun nothing => ⟨nothing, begun nothing⟩⟩

/-- A failed attempt leaves a buffer that is still to be read. -/
theorem Unread.of_failed {count : Nat} {gone : Bytes} {failure : Failure}
    (unread : Unread env fuel extractor iterator start count gone buffer world)
    (failed : (buffer.materialize env fuel world).outcome = .error failure) :
    ∃ later goneLater, Unread env fuel extractor iterator start later goneLater
      (buffer.materialize env fuel world).buffer (buffer.materialize env fuel world).world := by
  obtain ⟨notClosed, noContent, rfl, follows, begun⟩ := unread
  obtain ⟨more, goneLater, reading, -⟩ := reading_readChunks env fuel fuel follows begun
  rw [materialize_eq env fuel notClosed noContent] at failed ⊢
  generalize readChunks env fuel fuel buffer.stream _ = read at *
  refine ⟨count + more, goneLater, notClosed, ?_, ?_, ?_, reading.begun⟩
  · simpa [Except.toOption] using congrArg Except.toOption failed
  · rw [Run.pulls_add]
    exact reading.world_eq
  · rw [Run.pulls_add]
    exact reading.follows

/-- An attempt that succeeds reads what was left of the log. -/
theorem Unread.of_succeeded {count : Nat} {gone content : Bytes}
    (unread : Unread env fuel extractor iterator start count gone buffer world)
    (succeeded : (buffer.materialize env fuel world).outcome = .ok content) :
    (∃ lines, HandsOut env fuel iterator start lines ∧ extractor.log lines = gone ++ content)
      ∧ (buffer.materialize env fuel world).buffer.closed = false
      ∧ (buffer.materialize env fuel world).buffer.content = some content := by
  obtain ⟨notClosed, noContent, rfl, follows, begun⟩ := unread
  obtain ⟨more, goneLater, reading, ended⟩ := reading_readChunks env fuel fuel follows begun
  rw [materialize_eq env fuel notClosed noContent] at succeeded ⊢
  generalize readChunks env fuel fuel buffer.stream _ = read at *
  obtain ⟨hasEnded, nothingPending⟩ := ended content succeeded
  rw [← Run.pulls_add] at hasEnded
  refine ⟨⟨_, handsOut_of_ended (count + more) hasEnded, ?_⟩, notClosed, ?_⟩
  · rw [Run.pulls_add, reading.follows.log_eq, nothingPending, List.append_nil,
      reading.returned content succeeded]
  · simpa [Except.toOption] using congrArg Except.toOption succeeded

/-- Once the content is read, every look shows it. -/
theorem looks_of_content {content : Bytes} (notClosed : buffer.closed = false)
    (isRead : buffer.content = some content) (views : List View) :
    (looks env fuel views buffer world).outcomes
      = views.map fun view => .ok (view.shown content) := by
  have whole_eq : buffer.materialize env fuel world = ⟨buffer, world, none, .ok content⟩ := by
    simp [materialize, notClosed, isRead]
  induction views with
  | nil => rfl
  | cons view rest inductionHypothesis =>
    simp only [looks, look, whole, whole_eq, Except.map, inductionHypothesis, List.map_cons]

/-- Looks that fail leave a buffer that is still to be read. -/
theorem Unread.looks {count : Nat} {gone : Bytes}
    (unread : Unread env fuel extractor iterator start count gone buffer world)
    (views : List View)
    (failed : ∀ outcome ∈ (looks env fuel views buffer world).outcomes,
      ∃ failure, outcome = .error failure) :
    ∃ later goneLater, Unread env fuel extractor iterator start later goneLater
      (looks env fuel views buffer world).buffer (looks env fuel views buffer world).world := by
  induction views generalizing buffer world count gone with
  | nil => exact ⟨count, gone, unread⟩
  | cons view rest inductionHypothesis =>
    simp only [Buffer.looks, List.mem_cons, forall_eq_or_imp] at failed ⊢
    obtain ⟨⟨failure, failedFirst⟩, failedLater⟩ := failed
    simp only [look, whole] at failedFirst
    cases outcome : (buffer.materialize env fuel world).outcome with
    | ok content => simp [outcome, Except.map] at failedFirst
    | error found =>
      obtain ⟨later, goneLater, stillUnread⟩ := unread.of_failed env fuel outcome
      exact inductionHypothesis stillUnread failedLater

/-- Look several times at the log of an iterator. -/
def looksAt (iterator : Iterator Float) (extractor : Extractor) (views : List View) (start : ω) :
    Looks ω :=
  looks env fuel views (Buffer.start (ByteStream.start iterator extractor)) start

/-- After looks that fail, a look that succeeds and all looks after it show the log without the
bytes that were read before.  This is the whole log exactly if no line had been taken. -/
theorem looks_show_rest (iterator : Iterator Float) (extractor : Extractor) (start : ω)
    (failing : List View) (view : View) (later : List View)
    (failed : ∀ outcome ∈ (looksAt env fuel iterator extractor failing start).outcomes,
      ∃ failure, outcome = .error failure)
    (succeeded :
      let before := looksAt env fuel iterator extractor failing start
      ∃ shown, (before.buffer.look env fuel view before.world).outcome = .ok shown) :
    let before := looksAt env fuel iterator extractor failing start
    ∃ (lines : List Entry) (lost : Nat), HandsOut env fuel iterator start lines
      ∧ before.buffer.stream.bytesRead = lost
      ∧ lost ≤ (extractor.log lines).length
      ∧ (looks env fuel (view :: later) before.buffer before.world).outcomes
        = (view :: later).map (fun view => .ok (view.shown ((extractor.log lines).drop lost)))
      ∧ ((extractor.log lines).drop lost = extractor.log lines
        ↔ before.buffer.stream.lines = 0) := by
  intro before
  obtain ⟨count, gone, unread⟩ : ∃ count gone,
      Unread env fuel extractor iterator start count gone before.buffer before.world :=
    (unread_start env fuel iterator extractor start).looks env fuel failing failed
  obtain ⟨shown, seen⟩ :
    ∃ shown, (before.buffer.look env fuel view before.world).outcome = .ok shown := succeeded
  clear_value before
  obtain ⟨content, outcome, -⟩ := map_eq_ok.mp seen
  obtain ⟨⟨lines, handsOut, log_eq⟩, notClosed, isRead⟩ := unread.of_succeeded env fuel outcome
  refine ⟨lines, gone.length, handsOut, unread.follows.bytesRead_eq, ?_, ?_, ?_⟩
  · rw [log_eq, List.length_append]
    omega
  · rw [log_eq, List.drop_left, List.map_cons]
    simp only [whole] at outcome
    simp only [looks, look, whole, looks_of_content env fuel notClosed isRead, outcome, Except.map]
  · rw [log_eq, List.drop_left, unread.noLine_iff env fuel]
    simp

/-- A full page with one line, a query in vain, and a page with another line. -/
def interrupted : Script where
  readings := []
  deliveries := []
  batches := [(.ok ⟨[⟨1, 0, [0x61], []⟩], some 1⟩, false),
    (.error (.raised ⟨.unreachable, "down", none, []⟩), false),
    (.ok ⟨[⟨2, 0, [0x62], []⟩], none⟩, false)]
  closeAtWait := none
  now := ⟨0, none⟩
  sent := []

/-- The second look at this log shows what the first one has left. -/
theorem interrupted_looks_show_rest :
    ∃ iterator, Iterator.start (Scope.firstMicrosecond true) TailPolicy.standard = .ok iterator ∧
      let before := looksAt Script.surroundings 9 iterator .plain [.length] interrupted
      before.outcomes = [.error (.raised ⟨.unreachable, "down", none, []⟩)]
        ∧ ∃ (lines : List Entry) (lost : Nat),
          HandsOut Script.surroundings 9 iterator interrupted lines
            ∧ before.buffer.stream.bytesRead = lost
            ∧ lost ≤ (Extractor.plain.log lines).length
            ∧ (looks Script.surroundings 9 [.value, .written] before.buffer before.world).outcomes
              = [.ok (View.shown ((Extractor.plain.log lines).drop lost) .value),
                .ok (View.shown ((Extractor.plain.log lines).drop lost) .written)]
            ∧ ((Extractor.plain.log lines).drop lost = Extractor.plain.log lines
              ↔ before.buffer.stream.lines = 0) := by
  refine ⟨_, rfl, ?_⟩
  intro before
  have failed : before.outcomes = [.error (.raised ⟨.unreachable, "down", none, []⟩)] := by
    decide +kernel
  refine ⟨failed, looks_show_rest Script.surroundings 9 _ .plain interrupted [.length] .value
    [.written] (fun outcome among => ?_) ⟨.value [0x62, 0x0A], ?_⟩⟩
  · rw [show _ = before.outcomes from rfl, failed, List.mem_singleton] at among
    exact ⟨_, among⟩
  · decide +kernel

/-- The iterator hands out two lines, but the look that succeeds shows the second one only. -/
theorem interrupted_looks_lose_line :
    ∃ iterator, Iterator.start (Scope.firstMicrosecond true) TailPolicy.standard = .ok iterator
      ∧ (∃ lines, HandsOut Script.surroundings 9 iterator interrupted lines
        ∧ Extractor.plain.log lines = [0x61, 0x0A, 0x62, 0x0A])
      ∧ (looksAt Script.surroundings 9 iterator .plain [.value, .value] interrupted).outcomes
        = [.error (.raised ⟨.unreachable, "down", none, []⟩), .ok (.value [0x62, 0x0A])] := by
  refine ⟨_, rfl, ⟨_, handsOut_of_ended 4 (Or.inr ?_), ?_⟩, ?_⟩ <;> decide +kernel

end Buffer
end RunLog
