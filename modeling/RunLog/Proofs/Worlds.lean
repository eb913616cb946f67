import Mathlib.Tactic.Simps.Basic
import RunLog.Proofs.Using

/-!
# Runs in two worlds

An iterator knows of the world only what its surroundings answer, and what is done with a log only
what the iterator tells.  So along a map between worlds that keeps the answers a run is carried over
to another world.  Two worlds whose surroundings answer alike are the two sides of one world of
pairs, and whatever is done in both of them differs in the worlds alone.
-/

namespace RunLog

/-- What surroundings answer is what others answer in the world that a map leads to. -/
structure Surroundings.Carries {ω υ δ : Type} (env : Surroundings ω δ) (carry : ω → υ)
    (other : Surroundings υ δ) : Prop where
  clock : ∀ world, other.clock (carry world) = ((env.clock world).1, carry (env.clock world).2)
  query : ∀ window world, other.query window (carry world)
    = ((env.query window world).1, carry (env.query window world).2)
  wait : ∀ number interval world, other.wait number interval (carry world)
    = ((env.wait number interval world).1, carry (env.wait number interval world).2)

variable {ω υ δ : Type} {env : Surroundings ω δ} {carry : ω → υ} {other : Surroundings υ δ}

/-! ## Iterators -/

namespace Iterator

/-- A step in another world. -/
@[simps]
def Step.carried (carry : ω → υ) (step : Step ω δ) : Step υ δ :=
  ⟨step.iterator, carry step.world, step.events, step.failure⟩

/-- What comes of asking for an entry, in another world. -/
@[simps]
def Pull.carried (carry : ω → υ) (pull : Pull ω δ) : Pull υ δ :=
  ⟨pull.iterator, carry pull.world, pull.events, pull.outcome⟩

@[simp] theorem Step.carried_after (step : Step ω δ) (events : List (Event δ)) :
    (step.after events).carried carry = (step.carried carry).after events := rfl

section Fetching

variable (carries : env.Carries carry other) (stop : Option Int) (iterator : Iterator δ) (world : ω)
include carries

theorem newWindowStop_carried (complete : Bool) :
    newWindowStop other complete stop (carry world)
      = ((newWindowStop env complete stop world).1,
          carry (newWindowStop env complete stop world).2.1,
          (newWindowStop env complete stop world).2.2) := by
  rcases stop with _ | stop <;> cases complete <;> simp [newWindowStop, carries.clock]

theorem openNext_carried :
    openNext other stop iterator (carry world)
      = (openNext env stop iterator world).carried carry := by
  rw [openNext_eq, openNext_eq, newWindowStop_carried carries]
  rfl

variable [WaitTime δ]

theorem waitThenOpen_carried :
    waitThenOpen other stop iterator (carry world)
      = (waitThenOpen env stop iterator world).carried carry := by
  rcases answer : env.wait (iterator.waits + 1) iterator.policy.interval world
    with ⟨failure | closes, later⟩
  · simp only [waitThenOpen, carries.wait, answer]
    rfl
  · simp only [waitThenOpen, carries.wait, answer, openNext_carried carries]
    cases closes <;> rfl

theorem finishWindow_carried (mayWait : Bool) (windowStop : Int) :
    finishWindow other mayWait stop windowStop iterator (carry world)
      = (finishWindow env mayWait stop windowStop iterator world).carried carry := by
  simp only [finishWindow, openNext_carried carries, waitThenOpen_carried carries]
  split
  · rfl
  · split
    · rfl
    · split
      · rfl
      · split <;> rfl

omit carries [WaitTime δ] in
theorem follow_carried (next : Int) :
    follow next iterator (carry world) = (follow next iterator world).carried carry := by
  rw [follow_eq, follow_eq]
  rfl

theorem takeIn_carried (mayWait : Bool) (windowStop : Int) (batch : Batch) :
    takeIn other mayWait stop windowStop batch iterator (carry world)
      = (takeIn env mayWait stop windowStop batch iterator world).carried carry := by
  unfold takeIn
  rcases acceptAll stop (Entry.sorted batch.entries) iterator with ⟨last, taken, _ | failure⟩
  · cases batch.next with
    | none => simp only [finishWindow_carried carries, Step.carried_after]
    | some next => simp only [follow_carried, Step.carried_after]
  · rfl

theorem load_carried (mayWait : Bool) (windowStop : Int) :
    load other mayWait stop windowStop iterator (carry world)
      = (load env mayWait stop windowStop iterator world).carried carry := by
  rcases answer : env.query ⟨iterator.cursor, windowStop⟩ world with ⟨⟨result, closes⟩, later⟩
  simp only [load, carries.query, answer, takeIn_carried carries]
  cases result with
  | error failure => rfl
  | ok batch => cases closes <;> rfl

theorem advanceWindow_carried (mayWait : Bool) (windowStop : Int) :
    advanceWindow other mayWait stop windowStop iterator (carry world)
      = (advanceWindow env mayWait stop windowStop iterator world).carried carry := by
  unfold advanceWindow
  split
  · exact finishWindow_carried carries ..
  · exact load_carried carries ..

theorem fetchOpen_carried (mayWait : Bool) :
    fetchOpen other mayWait stop iterator (carry world)
      = (fetchOpen env mayWait stop iterator world).carried carry := by
  unfold fetchOpen
  cases iterator.windowStop with
  | some windowStop => exact advanceWindow_carried carries ..
  | none => simp only [newWindowStop_carried carries, advanceWindow_carried carries,
      Step.carried_after]

theorem fetchWithin_carried (mayWait : Bool) :
    fetchWithin other mayWait stop iterator (carry world)
      = (fetchWithin env mayWait stop iterator world).carried carry := by
  unfold fetchWithin
  split
  · simp only [waitThenOpen_carried carries, Step.carried_iterator, Step.carried_world,
      Step.carried_events, Step.carried_failure, fetchOpen_carried carries]
    split <;> rfl
  · exact fetchOpen_carried carries ..

theorem fetch_carried (mayWait : Bool) :
    fetch other mayWait iterator (carry world)
      = (fetch env mayWait iterator world).carried carry := by
  unfold fetch
  cases iterator.scope.stopNanos with
  | error failure => rfl
  | ok stop => exact fetchWithin_carried carries ..

theorem prefetch_carried :
    prefetch other iterator (carry world) = (prefetch env iterator world).carried carry := by
  unfold prefetch
  split
  · rfl
  · exact fetch_carried carries ..

theorem next_carried (fuel : Nat) :
    next other fuel iterator (carry world) = (next env fuel iterator world).carried carry := by
  induction fuel generalizing iterator world with
  | zero =>
    unfold next
    split
    · rfl
    · split
      · rfl
      · split <;> rfl
  | succ fuel inductionHypothesis =>
    unfold next
    split
    · rfl
    · split
      · rfl
      · split
        · rfl
        · simp only [fetch_carried carries]
          cases failed : (fetch env true iterator world).failure with
          | some failure => simp [Step.carried, Pull.carried, failed]
          | none => simp [Step.carried, Pull.carried, failed, inductionHypothesis]

end Fetching

end Iterator

/-! ## Streams -/

namespace ByteStream

variable {α : Type}

/-- What comes of an operation on a stream, in another world. -/
@[simps]
def Result.carried (carry : ω → υ) (result : Result ω δ α) : Result υ δ α :=
  ⟨result.stream, carry result.world, result.events, result.outcome⟩

variable [WaitTime δ] (carries : env.Carries carry other) (fuel : Nat) (stream : ByteStream δ)
  (world : ω)
include carries

theorem takeLine_carried :
    takeLine other fuel stream (carry world) = (takeLine env fuel stream world).carried carry := by
  simp only [takeLine, Iterator.next_carried carries, Iterator.Pull.carried_iterator,
    Iterator.Pull.carried_world, Iterator.Pull.carried_events, Iterator.Pull.carried_outcome]
  split
  · rfl
  · rfl
  · split
    · rfl
    · split <;> rfl

theorem refill_carried :
    refill other fuel stream (carry world) = (refill env fuel stream world).carried carry := by
  unfold refill
  split
  · exact takeLine_carried carries ..
  · rfl

theorem fill_carried (lines wanted : Nat) :
    fill other fuel lines wanted stream (carry world)
      = (fill env fuel lines wanted stream world).carried carry := by
  induction lines generalizing wanted stream world with
  | zero => rfl
  | succ lines inductionHypothesis =>
    simp only [fill, refill_carried carries, Result.carried_stream, Result.carried_world,
      Result.carried_events, Result.carried_outcome, inductionHypothesis]
    split
    · rfl
    · split <;> rfl

theorem read_carried (count : Nat) :
    read other fuel count stream (carry world)
      = (read env fuel count stream world).carried carry := by
  unfold read
  split
  · rfl
  · exact fill_carried carries ..

theorem readChunks_carried (chunks : Nat) :
    readChunks other fuel chunks stream (carry world)
      = (readChunks env fuel chunks stream world).carried carry := by
  induction chunks generalizing stream world with
  | zero => rfl
  | succ chunks inductionHypothesis =>
    simp only [readChunks, read_carried carries, Result.carried_stream, Result.carried_world,
      Result.carried_events, Result.carried_outcome, inductionHypothesis]
    split <;> rfl

theorem readLine_carried (limit : Nat) :
    readLine other fuel limit stream (carry world)
      = (readLine env fuel limit stream world).carried carry := by
  induction limit generalizing stream world with
  | zero => rfl
  | succ limit inductionHypothesis =>
    simp only [readLine, read_carried carries, Result.carried_stream, Result.carried_world,
      Result.carried_events, Result.carried_outcome, inductionHypothesis]
    split
    · rfl
    · split <;> rfl

end ByteStream

/-! ## Buffers -/

/-- What comes of an operation on a buffer, in another world. -/
@[simps]
def Buffer.Use.carried {α : Type} (carry : ω → υ) (used : Buffer.Use ω α) : Buffer.Use υ α :=
  ⟨used.buffer, carry used.world, used.notices, used.outcome⟩

theorem Buffer.whole_carried {env : Surroundings ω Float} {other : Surroundings υ Float}
    (carries : env.Carries carry other) (fuel : Nat) (buffer : Buffer Float) (world : ω) :
    buffer.whole other fuel (carry world) = (buffer.whole env fuel world).carried carry := by
  unfold whole materialize
  split
  · rfl
  · split
    · rfl
    · simp only [ByteStream.readAll, ByteStream.readChunks_carried carries]
      rfl

/-- What is done with a log is carried over with the run. -/
theorem Usage.apply_carried {env : Surroundings ω Float} {other : Surroundings υ Float}
    (carries : env.Carries carry other) (buffer : Buffer Float) (world : ω) (usage : Usage) :
    usage.apply other buffer (carry world) = (usage.apply env buffer world).carried carry := by
  cases usage with
  | next fuel =>
    simp only [apply, Iterator.next_carried carries]
    rfl
  | prefetch =>
    simp only [apply, Iterator.prefetch_carried carries]
    rfl
  | read fuel count =>
    simp only [apply, Buffer.onStream, ByteStream.read_carried carries]
    rfl
  | readAll fuel =>
    simp only [apply, Buffer.onStream, ByteStream.readAll, ByteStream.readChunks_carried carries]
    rfl
  | readLine fuel limit =>
    simp only [apply, Buffer.onStream, ByteStream.readLine_carried carries]
    rfl
  | look fuel view =>
    simp only [apply, Buffer.look, Buffer.whole_carried carries]
    rfl
  | closeIterator | closeStream | close => rfl

/-! ## Two worlds -/

/-- In worlds that are related two surroundings answer alike, and the worlds remain related. -/
structure Surroundings.Agree (Related : ω → υ → Prop) (first : Surroundings ω δ)
    (second : Surroundings υ δ) : Prop where
  clock : ∀ world world', Related world world' →
    (second.clock world').1 = (first.clock world).1
      ∧ Related (first.clock world).2 (second.clock world').2
  query : ∀ window world world', Related world world' →
    (second.query window world').1 = (first.query window world).1
      ∧ Related (first.query window world).2 (second.query window world').2
  wait : ∀ number interval world world', Related world world' →
    (second.wait number interval world').1 = (first.wait number interval world).1
      ∧ Related (first.wait number interval world).2 (second.wait number interval world').2

/-- Two worlds that are related. -/
structure Pair (Related : ω → υ → Prop) where
  /-- The one world. -/
  first : ω
  /-- The other world. -/
  second : υ
  /-- They are related. -/
  related : Related first second

section Agreeing

variable {Related : ω → υ → Prop} {first : Surroundings ω δ} {second : Surroundings υ δ}
  (agree : first.Agree Related second)

namespace Surroundings.Agree

/-- The surroundings of two worlds at once. -/
def pair : Surroundings (Pair Related) δ where
  clock worlds :=
    ((first.clock worlds.first).1, ⟨_, _, (agree.clock _ _ worlds.related).2⟩)
  query window worlds :=
    ((first.query window worlds.first).1, ⟨_, _, (agree.query window _ _ worlds.related).2⟩)
  wait number interval worlds :=
    ((first.wait number interval worlds.first).1,
      ⟨_, _, (agree.wait number interval _ _ worlds.related).2⟩)

theorem carries_first : agree.pair.Carries Pair.first first where
  clock _ := rfl
  query _ _ := rfl
  wait _ _ _ := rfl

theorem carries_second : agree.pair.Carries Pair.second second where
  clock worlds := Prod.ext (agree.clock _ _ worlds.related).1 rfl
  query window worlds := Prod.ext (agree.query window _ _ worlds.related).1 rfl
  wait number interval worlds := Prod.ext (agree.wait number interval _ _ worlds.related).1 rfl

end Surroundings.Agree

include agree

/-- Asking for the first page is the same in both worlds. -/
theorem Iterator.exists_prefetch_pair [WaitTime δ] (iterator : Iterator δ)
    (worlds : Pair Related) :
    ∃ step : Step (Pair Related) δ,
      prefetch first iterator worlds.first = step.carried Pair.first
        ∧ prefetch second iterator worlds.second = step.carried Pair.second :=
  ⟨prefetch agree.pair iterator worlds, prefetch_carried agree.carries_first iterator worlds,
    prefetch_carried agree.carries_second iterator worlds⟩

end Agreeing

/-- What is done with a log is the same in both worlds. -/
theorem Usage.exists_apply_pair {Related : ω → υ → Prop} {first : Surroundings ω Float}
    {second : Surroundings υ Float} (agree : first.Agree Related second) (usage : Usage)
    (buffer : Buffer Float) (worlds : Pair Related) :
    ∃ used : Buffer.Use (Pair Related) Output,
      usage.apply first buffer worlds.first = used.carried Pair.first
        ∧ usage.apply second buffer worlds.second = used.carried Pair.second :=
  ⟨usage.apply agree.pair buffer worlds, apply_carried agree.carries_first buffer worlds usage,
    apply_carried agree.carries_second buffer worlds usage⟩

end RunLog
