import Mathlib.Data.List.Induction
import RunLog.Proofs.Cancelling
import RunLog.Retriever

/-!
# Using a log

Whatever is done with an open log, by way of its iterator, its stream or its buffer, is made of
calls to the iterator.  So what is known of all calls is known of every use, and a use of a log
whose iterator is closed touches nothing outside: it hands out the rest of the line that was taken
last, and then nothing.
-/

namespace RunLog

open Iterator (Run)

/-! ## Calls -/

/-- Surroundings that keep what is known of the world. -/
structure Surroundings.Keeps {ω δ : Type} (env : Surroundings ω δ) (Kept : ω → Prop) : Prop where
  clock : ∀ world, Kept world → Kept (env.clock world).2
  query : ∀ window world, Kept world → Kept (env.query window world).2
  wait : ∀ number interval world, Kept world → Kept (env.wait number interval world).2

namespace Iterator

variable {ω δ : Type} [WaitTime δ] {env : Surroundings ω δ} {iterator middle later : Iterator δ}
  {world between afterwards : ω} {events more : List (Event δ)}

/-- What happens in calls does not depend on what happened before. -/
theorem Run.calls_eq (run : Run ω δ) (calls : List Call) :
    run.calls env calls
      = let fresh := (Run.start run.iterator run.world).calls env calls
        ⟨fresh.iterator, fresh.world, run.events ++ fresh.events,
          run.delivered ++ fresh.delivered⟩ := by
  induction calls using List.reverseRecOn with
  | nil => simp [Run.calls, Run.start]
  | append_singleton calls call inductionHypothesis =>
    simp only [Run.calls, List.foldl_append, List.foldl_cons,
      List.foldl_nil] at inductionHypothesis ⊢
    rw [inductionHypothesis]
    cases call <;> simp [Run.call, Run.afterPull, Run.after, Run.advance]

section Keeping

variable {Kept : ω → Prop} (keeps : env.Keeps Kept)
include keeps

omit [WaitTime δ] in
theorem kept_of_opening {complete : Bool} {stop : Option Int} {windowStop : Int}
    (opening : newWindowStop env complete stop world = (windowStop, afterwards, events))
    (kept : Kept world) : Kept afterwards := by
  unfold newWindowStop at opening
  split at opening <;> cases opening
  · exact kept
  · exact keeps.clock world kept
  · exact keeps.clock world kept

omit [WaitTime δ] in
theorem kept_openNext (stop : Option Int) (iterator : Iterator δ) (kept : Kept world) :
    Kept (openNext env stop iterator world).world := by
  rw [openNext_eq]
  exact kept_of_opening keeps rfl kept

theorem kept_of_move {stage stage' : Stage} {run run' : Run ω δ}
    (move : Move env (stage, run) (stage', run')) (kept : Kept run.world) : Kept run'.world := by
  cases move with
  | resume | useUp | finish | giveUp | postpone | beginWait | handOut | close => exact kept
  | openFirst _ _ opening => exact kept_of_opening keeps opening kept
  | @failQuery _ _ windowStop _ _ _ _ _ _ answer | @dropPage _ _ windowStop _ _ _ _ _ answer
  | @breakOff _ _ windowStop _ _ _ _ _ _ _ _ answer
  | @lastPage _ _ windowStop _ _ _ _ _ _ _ answer =>
    have kept := keeps.query ⟨run.iterator.cursor, windowStop⟩ run.world kept
    rwa [answer] at kept
  | @turnPage _ _ windowStop _ _ _ _ _ _ _ _ answer =>
    have kept := keeps.query ⟨run.iterator.cursor, windowStop⟩ run.world kept
    rw [answer] at kept
    simpa [Run.after, Run.advance, follow_eq] using kept
  | renew => exact kept_openNext keeps _ _ kept
  | failWait _ answer | breakWait _ answer =>
    have kept := keeps.wait (run.iterator.waits + 1) run.iterator.policy.interval run.world kept
    rwa [answer] at kept
  | endWait _ answer =>
    have kept := keeps.wait (run.iterator.waits + 1) run.iterator.policy.interval run.world kept
    rw [answer] at kept
    exact kept_openNext keeps _ _ kept

end Keeping

/-- What has become of an iterator and the world came about by calls. -/
def MadeOfCalls (env : Surroundings ω δ) (iterator : Iterator δ) (world : ω) (later : Iterator δ)
    (afterwards : ω) (events : List (Event δ)) : Prop :=
  ∃ calls, let run := (Run.start iterator world).calls env calls
    run.iterator = later ∧ run.world = afterwards ∧ run.events = events

namespace MadeOfCalls

theorem refl (env : Surroundings ω δ) (iterator : Iterator δ) (world : ω) :
    MadeOfCalls env iterator world iterator world [] :=
  ⟨[], rfl, rfl, rfl⟩

theorem trans (first : MadeOfCalls env iterator world middle between events)
    (second : MadeOfCalls env middle between later afterwards more) :
    MadeOfCalls env iterator world later afterwards (events ++ more) := by
  obtain ⟨calls, rfl, rfl, rfl⟩ := first
  obtain ⟨others, rfl, rfl, rfl⟩ := second
  refine ⟨calls ++ others, ?_⟩
  have whole : (Run.start iterator world).calls env (calls ++ others)
      = ((Run.start iterator world).calls env calls).calls env others := List.foldl_append
  rw [whole, Run.calls_eq]
  exact ⟨rfl, rfl, rfl⟩

theorem next (env : Surroundings ω δ) (fuel : Nat) (iterator : Iterator δ) (world : ω) :
    MadeOfCalls env iterator world (Iterator.next env fuel iterator world).iterator
      (Iterator.next env fuel iterator world).world
      (Iterator.next env fuel iterator world).events :=
  ⟨[.next fuel], rfl, rfl, rfl⟩

theorem prefetch (env : Surroundings ω δ) (iterator : Iterator δ) (world : ω) :
    MadeOfCalls env iterator world (Iterator.prefetch env iterator world).iterator
      (Iterator.prefetch env iterator world).world
      (Iterator.prefetch env iterator world).events :=
  ⟨[.prefetch], rfl, rfl, rfl⟩

theorem close (env : Surroundings ω δ) (iterator : Iterator δ) (world : ω) :
    MadeOfCalls env iterator world iterator.close world [] :=
  ⟨[.close], rfl, rfl, rfl⟩

/-- What is known of the world is kept. -/
theorem kept {Kept : ω → Prop} (made : MadeOfCalls env iterator world later afterwards events)
    (keeps : env.Keeps Kept) (kept : Kept world) : Kept afterwards := by
  obtain ⟨calls, -, rfl, -⟩ := made
  exact Path.invariant (fun _ run => Kept run.world) (kept_of_move keeps)
    (path_calls env (Run.start iterator world) calls) kept

/-- A query or a wait during which the iterator was closed was the last one. -/
theorem final {record : ω → List Bool}
    (made : MadeOfCalls env iterator world later afterwards events) (records : env.Records record)
    (nothingReady : iterator.closed = true → iterator.ready = []) :
    ∃ since, record afterwards = record world ++ since ∧ true ∉ since.dropLast
      ∧ (true ∈ since → later.closed = true) ∧ (later.closed = true → later.ready = []) := by
  obtain ⟨calls, rfl, rfl, rfl⟩ := made
  have final := Path.invariant (fun _ => Final record (record world)) (Final.move records)
    (path_calls env (Run.start iterator world) calls) (Final.start nothingReady)
  obtain ⟨since, eq, never, isClosed⟩ := final.recorded
  exact ⟨since, eq, never, fun among => (isClosed among).1, final.nothingReady⟩

/-- Nothing comes of calls to an iterator that is closed. -/
theorem of_closed (made : MadeOfCalls env iterator world later afterwards events)
    (closed : iterator.closed = true) (nothingReady : iterator.ready = []) :
    later = iterator ∧ afterwards = world ∧ events = [] := by
  obtain ⟨calls, rfl, rfl, rfl⟩ := made
  have same : (Run.start iterator world).calls env calls = Run.start iterator world :=
    Run.calls_of_closed closed nothingReady calls
  rw [same]
  exact ⟨rfl, rfl, rfl⟩

end MadeOfCalls

end Iterator

/-! ## Reading -/

namespace ByteStream

open Iterator

variable {ω δ α : Type} [WaitTime δ] (env : Surroundings ω δ) (fuel : Nat)

/-- An operation on a stream does with the iterator what calls do, and does not close the stream. -/
structure Asks (stream : ByteStream δ) (world : ω) (result : Result ω δ α) : Prop where
  calls : MadeOfCalls env stream.iterator world result.stream.iterator result.world result.events
  closed : result.stream.closed = stream.closed

theorem asks_nothing (stream : ByteStream δ) (world : ω) (outcome : Except Failure α) :
    Asks env stream world ⟨stream, world, [], outcome⟩ :=
  ⟨.refl env stream.iterator world, rfl⟩

variable {env} in
/-- One operation after another, whatever becomes of the bytes of the current line. -/
theorem Asks.andThen {β γ : Type} {stream : ByteStream δ} {world : ω} {first : Result ω δ β}
    (asks : Asks env stream world first) {pending : Bytes} {second : Result ω δ γ}
    (rest : Asks env { first.stream with pending } first.world second)
    (outcome : Except Failure α) :
    Asks env stream world
      ⟨second.stream, second.world, first.events ++ second.events, outcome⟩ :=
  ⟨asks.calls.trans rest.calls, rest.closed.trans asks.closed⟩

/-- Taking a line is asking the iterator for an entry, and does not close the stream. -/
theorem takeLine_asks (stream : ByteStream δ) (world : ω) :
    let pull := stream.iterator.next env fuel world
    let taken := takeLine env fuel stream world
    taken.stream.iterator = pull.iterator ∧ taken.world = pull.world ∧ taken.events = pull.events
      ∧ taken.stream.closed = stream.closed := by
  unfold takeLine enter
  dsimp only
  split
  · exact ⟨rfl, rfl, rfl, rfl⟩
  · exact ⟨rfl, rfl, rfl, rfl⟩
  · split
    · exact ⟨rfl, rfl, rfl, rfl⟩
    · cases stream.map.put ⟨stream.offset, stream.lines⟩ <;> exact ⟨rfl, rfl, rfl, rfl⟩

theorem asks_takeLine (stream : ByteStream δ) (world : ω) :
    Asks env stream world (takeLine env fuel stream world) := by
  obtain ⟨sameIterator, sameWorld, sameEvents, sameClosed⟩ := takeLine_asks env fuel stream world
  refine ⟨?_, sameClosed⟩
  rw [sameIterator, sameWorld, sameEvents]
  exact .next env fuel stream.iterator world

theorem asks_refill (stream : ByteStream δ) (world : ω) :
    Asks env stream world (refill env fuel stream world) := by
  unfold refill
  split
  · exact asks_takeLine env fuel stream world
  · exact asks_nothing env stream world _

theorem asks_fill (lines wanted : Nat) (stream : ByteStream δ) (world : ω) :
    Asks env stream world (fill env fuel lines wanted stream world) := by
  induction lines generalizing wanted stream world with
  | zero => exact asks_nothing env stream world _
  | succ lines inductionHypothesis =>
    unfold fill
    split
    · exact asks_nothing env stream world _
    · have filled := asks_refill env fuel stream world
      dsimp only
      split
      · exact ⟨filled.calls, filled.closed⟩
      · exact ⟨filled.calls, filled.closed⟩
      · exact filled.andThen (inductionHypothesis _ _ _) _

theorem asks_read (count : Nat) (stream : ByteStream δ) (world : ω) :
    Asks env stream world (read env fuel count stream world) := by
  unfold read
  split
  · exact asks_nothing env stream world _
  · exact asks_fill env fuel count count stream world

theorem asks_readChunks (chunks : Nat) (stream : ByteStream δ) (world : ω) :
    Asks env stream world (readChunks env fuel chunks stream world) := by
  induction chunks generalizing stream world with
  | zero => exact asks_nothing env stream world _
  | succ chunks inductionHypothesis =>
    have first := asks_read env fuel chunkSize stream world
    unfold readChunks
    dsimp only
    split
    · exact ⟨first.calls, first.closed⟩
    · exact ⟨first.calls, first.closed⟩
    · exact first.andThen (inductionHypothesis _ _) _

theorem asks_readLine (limit : Nat) (stream : ByteStream δ) (world : ω) :
    Asks env stream world (readLine env fuel limit stream world) := by
  induction limit generalizing stream world with
  | zero => exact asks_nothing env stream world _
  | succ limit inductionHypothesis =>
    have first := asks_read env fuel 1 stream world
    unfold readLine
    dsimp only
    split
    · exact ⟨first.calls, first.closed⟩
    · split
      · exact ⟨first.calls, first.closed⟩
      · exact first.andThen (inductionHypothesis _ _) _

/-! ### Reading after the iterator is closed -/

/-- Of the bytes after the first ones, none are among the first ones. -/
theorem drop_take_rest (pending : Bytes) (wanted : Nat) :
    (pending.drop wanted).drop (wanted - (pending.take wanted).length) = pending.drop wanted
      ∧ (pending.drop wanted).take (wanted - (pending.take wanted).length) = [] := by
  rw [List.length_take]
  rcases Nat.le_total wanted pending.length with enough | short
  · simp [Nat.min_eq_left enough]
  · simp [List.drop_eq_nil_of_le short]

section Closed

variable {stream : ByteStream δ} (closed : stream.iterator.closed = true) (world : ω)
include closed

theorem takeLine_of_closed :
    takeLine env fuel stream world = ⟨stream, world, [], .ok false⟩ := by
  simp [takeLine, next_closed env fuel _ world closed]

/-- What is left of the line that was taken last is handed out, and then nothing. -/
theorem fill_of_closed {lines wanted : Nat} (enough : wanted ≤ lines) :
    fill env fuel lines wanted stream world
      = ⟨{ stream with pending := stream.pending.drop wanted }, world, [],
          .ok (stream.pending.take wanted)⟩ := by
  induction lines generalizing stream wanted with
  | zero =>
    obtain rfl : wanted = 0 := by omega
    rfl
  | succ lines inductionHypothesis =>
    unfold fill
    split
    · rename_i noneWanted
      rw [noneWanted]
      rfl
    · rename_i someWanted
      by_cases nothingPending : stream.pending = []
      · simp only [refill, nothingPending, List.isEmpty_nil, if_true,
          takeLine_of_closed env fuel closed world, List.drop_nil, List.take_nil]
        rw [← nothingPending]
      · have somePending : 0 < stream.pending.length := List.length_pos_iff.mpr nothingPending
        have fewer : wanted - (stream.pending.take wanted).length ≤ lines := by
          rw [List.length_take]
          omega
        have rest := inductionHypothesis
          (show ({ stream with pending := stream.pending.drop wanted } :
            ByteStream δ).iterator.closed = true from closed) fewer
        obtain ⟨noneDropped, noneTaken⟩ := drop_take_rest stream.pending wanted
        have isEmpty : stream.pending.isEmpty = false := by simpa using nothingPending
        simp only [refill, isEmpty, Bool.false_eq_true, if_false, rest, noneDropped, noneTaken,
          Except.map, List.append_nil]

theorem read_of_closed (isOpen : stream.closed = false) (count : Nat) :
    read env fuel count stream world
      = ⟨{ stream with pending := stream.pending.drop count }, world, [],
          .ok (stream.pending.take count)⟩ := by
  rw [read, if_neg (by simp [isOpen])]
  exact fill_of_closed env fuel closed world (Nat.le_refl count)

theorem readChunks_of_closed (isOpen : stream.closed = false) {chunks : Nat}
    (enough : stream.pending.length < chunks) :
    readChunks env fuel chunks stream world
      = ⟨{ stream with pending := [] }, world, [], .ok stream.pending⟩ := by
  induction chunks generalizing stream with
  | zero => omega
  | succ chunks inductionHypothesis =>
    rw [readChunks, read_of_closed env fuel closed world isOpen]
    cases pending : stream.pending with
    | nil => simp
    | cons byte others =>
      have fewer : ((byte :: others).drop chunkSize).length < chunks := by
        rw [pending] at enough
        simp only [List.length_drop, List.length_cons, chunkSize] at enough ⊢
        omega
      have rest := inductionHypothesis
        (show ({ stream with pending := (byte :: others).drop chunkSize } :
          ByteStream δ).iterator.closed = true from closed) isOpen fewer
      have first : (byte :: others).take chunkSize = byte :: others.take (chunkSize - 1) := rfl
      simp only [first, rest, Except.map, List.append_nil]
      rw [← first, List.take_append_drop]

/-- Some bytes of what is left are handed out, perhaps none. -/
theorem readLine_of_closed (isOpen : stream.closed = false) (limit : Nat) :
    ∃ bytes rest, stream.pending = bytes ++ rest ∧ readLine env fuel limit stream world
      = ⟨{ stream with pending := rest }, world, [], .ok bytes⟩ := by
  induction limit generalizing stream with
  | zero => exact ⟨[], stream.pending, rfl, rfl⟩
  | succ limit inductionHypothesis =>
    rw [readLine, read_of_closed env fuel closed world isOpen]
    dsimp only
    split
    · exact ⟨_, _, (List.take_append_drop 1 stream.pending).symm, rfl⟩
    · obtain ⟨bytes, rest, split, eq⟩ := inductionHypothesis
        (show ({ stream with pending := stream.pending.drop 1 } :
          ByteStream δ).iterator.closed = true from closed) isOpen
      refine ⟨stream.pending.take 1 ++ bytes, rest, ?_, ?_⟩
      · rw [List.append_assoc, ← split, List.take_append_drop]
      · rw [eq]
        rfl

end Closed

/-! ### Reading while the iterator is closed -/

/-- An operation that leaves the iterator closed succeeds, unless it failed with its last query. -/
def Concluded (result : Result ω δ α) : Prop :=
  result.stream.iterator.closed = true → (∃ value, result.outcome = .ok value)
    ∨ ∃ failure, result.outcome = .error failure ∧ FailsWithQuery result.events failure

omit [WaitTime δ] in
/-- An operation ends as the one ends that it ends with. -/
theorem Concluded.after {β : Type} {last : Result ω δ α} (concluded : Concluded last)
    (earlier : List (Event δ)) (hand : α → β) :
    Concluded (⟨last.stream, last.world, earlier ++ last.events, last.outcome.map hand⟩ :
      Result ω δ β) := by
  intro closed
  rcases concluded closed with ⟨value, succeeded⟩ | ⟨failure, failed, withQuery⟩
  · exact Or.inl ⟨hand value, by simp [succeeded, Except.map]⟩
  · exact Or.inr ⟨failure, by simp [failed, Except.map], withQuery.after earlier⟩

omit [WaitTime δ] in
/-- A failure is passed on. -/
theorem Concluded.fails {β : Type} {result : Result ω δ α} (concluded : Concluded result)
    {failure : Failure} (failed : result.outcome = .error failure) :
    Concluded (⟨result.stream, result.world, result.events, .error failure⟩ : Result ω δ β) := by
  intro closed
  rcases concluded closed with ⟨value, succeeded⟩ | ⟨cause, isCause, withQuery⟩
  · simp [failed] at succeeded
  · obtain rfl : cause = failure := Except.error.inj (isCause.symm.trans failed)
    exact Or.inr ⟨cause, rfl, withQuery⟩

theorem concluded_takeLine (stream : ByteStream δ) (world : ω) :
    Concluded (takeLine env fuel stream world) := by
  obtain ⟨sameIterator, -, sameEvents, -⟩ := takeLine_asks env fuel stream world
  intro closed
  rw [sameIterator] at closed
  rw [sameEvents]
  rcases ends_of_closed closed with ends | ⟨failure, failed, withQuery⟩
  · exact Or.inl ⟨false, by simp [takeLine, ends]⟩
  · exact Or.inr ⟨failure, by simp [takeLine, failed], withQuery⟩

theorem concluded_refill (stream : ByteStream δ) (world : ω) :
    Concluded (refill env fuel stream world) := by
  unfold refill
  split
  · exact concluded_takeLine env fuel stream world
  · exact fun _ => Or.inl ⟨true, rfl⟩

theorem concluded_fill (lines wanted : Nat) (stream : ByteStream δ) (world : ω) :
    Concluded (fill env fuel lines wanted stream world) := by
  induction lines generalizing wanted stream world with
  | zero => exact fun _ => Or.inl ⟨[], rfl⟩
  | succ lines inductionHypothesis =>
    unfold fill
    split
    · exact fun _ => Or.inl ⟨[], rfl⟩
    · dsimp only
      split
      · rename_i failed
        exact (concluded_refill env fuel stream world).fails failed
      · exact fun _ => Or.inl ⟨[], rfl⟩
      · exact (inductionHypothesis _ _ _).after _ _

theorem concluded_read {stream : ByteStream δ} (isOpen : stream.closed = false) (count : Nat)
    (world : ω) : Concluded (read env fuel count stream world) := by
  rw [read, if_neg (by simp [isOpen])]
  exact concluded_fill env fuel count count stream world

/-- Reading everything may also run out of chunks. -/
theorem concluded_readChunks {stream : ByteStream δ} (isOpen : stream.closed = false)
    (chunks : Nat) (world : ω) :
    (readChunks env fuel chunks stream world).outcome = .error .unfinished
      ∨ Concluded (readChunks env fuel chunks stream world) := by
  induction chunks generalizing stream world with
  | zero => exact Or.inl rfl
  | succ chunks inductionHypothesis =>
    have first := concluded_read env fuel isOpen chunkSize world
    have stillOpen := (asks_read env fuel chunkSize stream world).closed.trans isOpen
    unfold readChunks
    dsimp only
    split
    · rename_i failed
      exact Or.inr (first.fails failed)
    · exact Or.inr fun _ => Or.inl ⟨[], rfl⟩
    · rcases inductionHypothesis stillOpen
        (read env fuel chunkSize stream world).world with unfinished | concluded
      · exact Or.inl (by simp [unfinished, Except.map])
      · exact Or.inr (concluded.after _ _)

theorem concluded_readLine {stream : ByteStream δ} (isOpen : stream.closed = false) (limit : Nat)
    (world : ω) : Concluded (readLine env fuel limit stream world) := by
  induction limit generalizing stream world with
  | zero => exact fun _ => Or.inl ⟨[], rfl⟩
  | succ limit inductionHypothesis =>
    have first := concluded_read env fuel isOpen 1 world
    have stillOpen := (asks_read env fuel 1 stream world).closed.trans isOpen
    unfold readLine
    dsimp only
    split
    · rename_i failed
      exact first.fails failed
    · split
      · exact fun _ => Or.inl ⟨_, rfl⟩
      · exact (inductionHypothesis stillOpen _).after _ _

end ByteStream

/-! ## Uses -/

/-- A buffer is closed with its stream and a stream with its iterator, and an iterator that is
closed has nothing ready. -/
structure Buffer.Sound {δ : Type} (buffer : Buffer δ) : Prop where
  stream : buffer.closed = true → buffer.stream.closed = true
  iterator : buffer.stream.closed = true → buffer.stream.iterator.closed = true
  nothingReady : buffer.stream.iterator.closed = true → buffer.stream.iterator.ready = []

/-- What an operation hands out. -/
inductive Output
  /-- The number of a log that was opened. -/
  | log (number : Nat)
  /-- An entry, or none. -/
  | entry (found : Option Entry)
  /-- Bytes. -/
  | bytes (bytes : Bytes)
  /-- What is seen of a log. -/
  | shown (shown : Buffer.Shown)
  /-- The outcome of a check. -/
  | verdict (verdict : Client.Verdict)
  /-- Nothing. -/
  | nothing

/-- What can be done with an open log. -/
inductive Usage
  /-- Ask the iterator for the next entry, with at most the given number of fetches. -/
  | next (fuel : Nat)
  /-- Ask the iterator for the first page. -/
  | prefetch
  /-- Read up to a number of bytes from the stream. -/
  | read (fuel count : Nat)
  /-- Read the stream to its end. -/
  | readAll (fuel : Nat)
  /-- Read a line from the stream, up to a number of bytes. -/
  | readLine (fuel limit : Nat)
  /-- Look at the whole log. -/
  | look (fuel : Nat) (view : Buffer.View)
  /-- Close the iterator. -/
  | closeIterator
  /-- Close the stream. -/
  | closeStream
  /-- Close the log. -/
  | close
  deriving DecidableEq, Repr

namespace Usage

variable {ω α : Type}

/-- A buffer with another iterator. -/
def withIterator (buffer : Buffer Float) (iterator : Iterator Float) : Buffer Float :=
  { buffer with stream := { buffer.stream with iterator } }

/-- What is handed out, in terms of all operations. -/
def handing (used : Buffer.Use ω α) (output : α → Output) : Buffer.Use ω Output :=
  ⟨used.buffer, used.world, used.notices, used.outcome.map output⟩

/-- Use a log. -/
def apply (env : Surroundings ω Float) (buffer : Buffer Float) (world : ω) :
    Usage → Buffer.Use ω Output
  | .next fuel =>
    let pull := buffer.stream.iterator.next env fuel world
    ⟨withIterator buffer pull.iterator, pull.world,
      Notice.ofEvents pull.iterator.scope none pull.events, pull.outcome.map .entry⟩
  | .prefetch =>
    let step := buffer.stream.iterator.prefetch env world
    ⟨withIterator buffer step.iterator, step.world,
      Notice.ofEvents step.iterator.scope none step.events,
      match step.failure with
      | none => .ok .nothing
      | some failure => .error failure⟩
  | .read fuel count => handing (buffer.onStream (ByteStream.read env fuel count) world) .bytes
  | .readAll fuel => handing (buffer.onStream (ByteStream.readAll env fuel) world) .bytes
  | .readLine fuel limit =>
    handing (buffer.onStream (ByteStream.readLine env fuel limit) world) .bytes
  | .look fuel view => handing (buffer.look env fuel view world) .shown
  | .closeIterator =>
    ⟨withIterator buffer buffer.stream.iterator.close, world, [], .ok .nothing⟩
  | .closeStream => ⟨{ buffer with stream := buffer.stream.close }, world, [], .ok .nothing⟩
  | .close => ⟨buffer.close, world, [], .ok .nothing⟩

/-- The journal holds no query and no wait. -/
def Quiet (notices : List Notice) : Prop :=
  Notice.windows notices = [] ∧ Notice.waits notices = []

/-- What a use has done with the iterator came about by calls, and where nothing happened the
journal holds no query and no wait. -/
def Reaches (env : Surroundings ω Float) (buffer : Buffer Float) (world : ω)
    (used : Buffer.Use ω α) : Prop :=
  ∃ events, Iterator.MadeOfCalls env buffer.stream.iterator world used.buffer.stream.iterator
      used.world events
    ∧ (events = [] → Quiet used.notices)

theorem quiet_nil : Quiet [] := ⟨rfl, rfl⟩

theorem reaches_onStream {env : Surroundings ω Float} {buffer : Buffer Float} {world : ω}
    {operation : ByteStream Float → ω → ByteStream.Result ω Float α}
    (asks : ByteStream.Asks env buffer.stream world (operation buffer.stream world)) :
    Reaches env buffer world (buffer.onStream operation world) := by
  refine ⟨_, asks.calls, fun nothing => ?_⟩
  simp only [Buffer.onStream, nothing, Notice.ofEvents_nil]
  exact quiet_nil

theorem reaches_whole (env : Surroundings ω Float) (fuel : Nat) (buffer : Buffer Float)
    (world : ω) : Reaches env buffer world (buffer.whole env fuel world) := by
  unfold Buffer.whole Buffer.materialize
  split
  · exact ⟨[], .refl env _ _, fun _ => quiet_nil⟩
  · split
    · exact ⟨[], .refl env _ _, fun _ => quiet_nil⟩
    · refine ⟨_, (ByteStream.asks_readChunks env fuel fuel _ _).calls, fun nothing => ?_⟩
      simp only [Buffer.notices, ByteStream.readAll, nothing, Notice.ofEvents_nil]
      exact ⟨rfl, rfl⟩

theorem reaches_closeStream (env : Surroundings ω Float) (stream : ByteStream Float) (world : ω) :
    Iterator.MadeOfCalls env stream.iterator world stream.close.iterator world [] := by
  unfold ByteStream.close
  split
  · exact .refl env _ _
  · exact .close env _ _

/-- Every use is made of calls. -/
theorem reaches_apply (env : Surroundings ω Float) (buffer : Buffer Float) (world : ω)
    (usage : Usage) : Reaches env buffer world (usage.apply env buffer world) := by
  cases usage with
  | next fuel =>
    refine ⟨_, .next env fuel _ _, fun nothing => ?_⟩
    simp only [apply, nothing, Notice.ofEvents_nil]
    exact quiet_nil
  | prefetch =>
    refine ⟨_, .prefetch env _ _, fun nothing => ?_⟩
    simp only [apply, nothing, Notice.ofEvents_nil]
    exact quiet_nil
  | read fuel count => exact reaches_onStream (ByteStream.asks_read env fuel count _ _)
  | readAll fuel => exact reaches_onStream (ByteStream.asks_readChunks env fuel fuel _ _)
  | readLine fuel limit => exact reaches_onStream (ByteStream.asks_readLine env fuel limit _ _)
  | look fuel view => exact reaches_whole env fuel buffer world
  | closeIterator => exact ⟨[], .close env _ _, fun _ => quiet_nil⟩
  | closeStream => exact ⟨[], reaches_closeStream env buffer.stream world, fun _ => quiet_nil⟩
  | close =>
    refine ⟨[], ?_, fun _ => quiet_nil⟩
    simp only [apply, Buffer.close]
    split
    · exact .refl env _ _
    · exact reaches_closeStream env buffer.stream world

section Closing

variable (env : Surroundings ω Float) {buffer : Buffer Float} (world : ω) (usage : Usage)

/-- A use of a log whose iterator is closed touches nothing outside. -/
theorem apply_of_closed (closed : buffer.stream.iterator.closed = true)
    (nothingReady : buffer.stream.iterator.ready = []) :
    let used := usage.apply env buffer world
    used.buffer.stream.iterator = buffer.stream.iterator ∧ used.world = world
      ∧ Quiet used.notices := by
  obtain ⟨events, made, quiet⟩ := reaches_apply env buffer world usage
  obtain ⟨sameIterator, sameWorld, nothing⟩ := made.of_closed closed nothingReady
  exact ⟨sameIterator, sameWorld, quiet nothing⟩

/-- A use that hands out an entry leaves the iterator open. -/
theorem open_of_entry {entry : Entry}
    (found : (usage.apply env buffer world).outcome = .ok (.entry (some entry))) :
    (usage.apply env buffer world).buffer.stream.iterator.closed = false := by
  cases usage with
  | next fuel =>
    have pulled : (buffer.stream.iterator.next env fuel world).outcome = .ok (some entry) := by
      cases outcome : (buffer.stream.iterator.next env fuel world).outcome <;>
        simp_all [apply, Except.map]
    exact Iterator.closed_of_entry pulled
  | prefetch =>
    simp only [apply] at found
    split at found <;> simp at found
  | read fuel count | readAll fuel | readLine fuel limit | look fuel view =>
    simp only [apply, handing, Except.map] at found
    split at found <;> simp at found
  | closeIterator | closeStream | close => simp [apply] at found

/-- The uses that close the iterator of a log. -/
def closes : Usage → Bool
  | .closeIterator | .closeStream | .close => true
  | _ => false

/-- Other uses close neither the stream nor the buffer. -/
theorem apply_of_not_closes (notClosing : usage.closes = false) :
    let used := usage.apply env buffer world
    used.buffer.closed = buffer.closed
      ∧ used.buffer.stream.closed = buffer.stream.closed := by
  cases usage with
  | next | prefetch => exact ⟨rfl, rfl⟩
  | read fuel count => exact ⟨rfl, (ByteStream.asks_read env fuel count _ _).closed⟩
  | readAll fuel => exact ⟨rfl, (ByteStream.asks_readChunks env fuel fuel _ _).closed⟩
  | readLine fuel limit => exact ⟨rfl, (ByteStream.asks_readLine env fuel limit _ _).closed⟩
  | look fuel view =>
    simp only [apply, handing, Buffer.look, Buffer.whole, Buffer.materialize]
    split
    · exact ⟨rfl, rfl⟩
    · split
      · exact ⟨rfl, rfl⟩
      · exact ⟨rfl, (ByteStream.asks_readChunks env fuel fuel _ _).closed⟩
  | closeIterator | closeStream | close => simp [closes] at notClosing

/-- A use that closes the iterator closes it, whatever was closed before. -/
theorem closed_of_closes (sound : buffer.Sound) (closing : usage.closes = true) :
    (usage.apply env buffer world).buffer.stream.iterator.closed = true := by
  have byStream : buffer.stream.close.iterator.closed = true := by
    unfold ByteStream.close
    split
    · rename_i closed
      exact sound.iterator closed
    · rfl
  cases usage with
  | closeIterator => rfl
  | closeStream => exact byStream
  | close =>
    simp only [apply, Buffer.close]
    split
    · rename_i closed
      exact sound.iterator (sound.stream closed)
    · exact byStream
  | next | prefetch | read | readAll | readLine | look => simp [closes] at closing

/-- A use that closes a buffer closes its stream. -/
theorem closed_stream_apply (sound : buffer.Sound) :
    (usage.apply env buffer world).buffer.closed = true →
      (usage.apply env buffer world).buffer.stream.closed = true := by
  have byClose : buffer.stream.close.closed = true := by
    unfold ByteStream.close
    split
    · assumption
    · rfl
  cases closing : usage.closes with
  | false =>
    obtain ⟨sameBuffer, sameStream⟩ := apply_of_not_closes env world usage closing
    rw [sameBuffer, sameStream]
    exact sound.stream
  | true =>
    cases usage with
    | closeIterator => exact sound.stream
    | closeStream => exact fun _ => byClose
    | close =>
      simp only [apply, Buffer.close]
      split
      · exact sound.stream
      · exact fun _ => byClose
    | next | prefetch | read | readAll | readLine | look => simp [closes] at closing

/-- Every use of a log leaves it sound. -/
theorem sound_apply {record : ω → List Bool} (records : env.Records record)
    (sound : buffer.Sound) : (usage.apply env buffer world).buffer.Sound where
  stream := closed_stream_apply env world usage sound
  iterator closed := by
    cases closing : usage.closes with
    | true => exact closed_of_closes env world usage sound closing
    | false =>
      rw [(apply_of_not_closes env world usage closing).2] at closed
      have before := sound.iterator closed
      rwa [(apply_of_closed env world usage before (sound.nothingReady before)).1]
  nothingReady := by
    obtain ⟨events, made, -⟩ := reaches_apply env buffer world usage
    obtain ⟨-, -, -, -, nothingReady⟩ := made.final records sound.nothingReady
    exact nothingReady

end Closing

end Usage
end RunLog
