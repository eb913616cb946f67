import RunLog.Proofs.InMemory
import RunLog.Proofs.Locating

/-!
# Bytes that failed reads lose

A read that fails hands out nothing, but it does not put back what it has taken.  The bytes of the
current line that it came upon and the lines that it took before the failure are neither returned
nor pending; the next read goes on behind them, and they count as read.

So what reads return and what failed ones lose makes up the log, in this order.  The number of bytes
read is the number of bytes returned exactly if the reads that failed have lost nothing, and then
what was returned is the beginning of the log.
-/

namespace RunLog
namespace ByteStream

open Iterator

variable {ω δ : Type}

/-! ## What attempts return and lose -/

/-- An attempt to read from a stream. -/
structure Attempt (δ : Type) where
  /-- The stream before it. -/
  before : ByteStream δ
  /-- The stream after it. -/
  after : ByteStream δ
  /-- The bytes, or a failure. -/
  outcome : Except Failure Bytes

namespace Attempt

/-- The bytes that an attempt returns. -/
def returned (attempt : Attempt δ) : Bytes :=
  match attempt.outcome with
  | .ok bytes => bytes
  | .error _ => []

/-- The bytes that an attempt came upon: those that were pending, and the lines that it took. -/
def met (lines : List Bytes) (attempt : Attempt δ) : Bytes :=
  attempt.before.pending
    ++ ((lines.take attempt.after.lines).drop attempt.before.lines).flatten

/-- The bytes that a failed attempt came upon and did not keep for the next one. -/
def lost (lines : List Bytes) (attempt : Attempt δ) : Bytes :=
  match attempt.outcome with
  | .ok _ => []
  | .error _ =>
    (attempt.met lines).take ((attempt.met lines).length - attempt.after.pending.length)

/-- The bytes that are gone with an attempt. -/
def gone (lines : List Bytes) (attempt : Attempt δ) : Bytes :=
  attempt.returned ++ attempt.lost lines

end Attempt

/-- The attempts that are made to answer some demands. -/
def attempts [WaitTime δ] (env : Surroundings ω δ) (fuel : Nat) :
    List Demand → ByteStream δ → ω → List (Attempt δ)
  | [], _, _ => []
  | demand :: rest, stream, world =>
    let first := answer env fuel demand stream world
    ⟨stream, first.stream, first.outcome⟩ :: attempts env fuel rest first.stream first.world

/-! ## One attempt -/

variable {extractor : Extractor} {run later : Run ω δ} {gone goneLater : Bytes}
  {stream laterStream : ByteStream δ}

/-- What an attempt came upon leads from the log before it to the log after it. -/
theorem Follows.log_append_met (follows : Follows extractor run gone stream)
    (followsLater : Follows extractor later goneLater laterStream)
    (grows : run.delivered <+: later.delivered) {lines : List Bytes}
    (known : extractor.lines later.delivered <+: lines) (outcome : Except Failure Bytes) :
    gone ++ Attempt.met lines ⟨stream, laterStream, outcome⟩ = extractor.log later.delivered := by
  obtain ⟨rest, lines_eq⟩ : extractor.lines run.delivered <+: extractor.lines later.delivered :=
    Extractor.lines_prefix grows
  have taken : lines.take laterStream.lines = extractor.lines later.delivered := by
    rw [followsLater.lines_eq]
    exact (List.prefix_iff_eq_take.mp known).symm
  have added : (extractor.lines later.delivered).drop stream.lines = rest := by
    rw [← lines_eq, follows.lines_eq, List.drop_left]
  simp only [Attempt.met]
  rw [taken, added, ← List.append_assoc, ← follows.log_eq, ← Extractor.flatten_lines,
    ← List.flatten_append, lines_eq, Extractor.flatten_lines]

variable [WaitTime δ] (env : Surroundings ω δ) (fuel : Nat)

/-- A read that fails leaves nothing pending. -/
theorem pending_of_failed_fill {lines wanted : Nat} {failure : Failure}
    (follows : Follows extractor run gone stream)
    (failed : (fill env fuel lines wanted stream run.world).outcome = .error failure) :
    (fill env fuel lines wanted stream run.world).stream.pending = [] := by
  induction lines generalizing run stream gone wanted with
  | zero => simp [fill] at failed
  | succ lines inductionHypothesis =>
    unfold fill at failed ⊢
    split at failed
    · simp at failed
    · rename_i someWanted
      obtain ⟨count, world_eq, refilled, -, hasNone, -⟩ := follows_refill env fuel follows
      rw [if_neg someWanted]
      generalize refill env fuel stream run.world = filled at *
      dsimp only at failed ⊢
      cases outcome : filled.outcome with
      | error found => exact hasNone (by simp [outcome])
      | ok found =>
        cases found with
        | false => simp [outcome] at failed
        | true =>
          simp only [outcome, world_eq] at failed ⊢
          exact inductionHypothesis (refilled.handOut wanted) (map_eq_error.mp failed)

/-- The outcome of an attempt comes right after what has gone, and nothing is kept after a failure
other than that there was no end in sight. -/
structure Advancing (result : Result ω δ Bytes) (gone goneLater : Bytes) : Prop where
  /-- What has gone stays gone. -/
  grows : gone <+: goneLater
  /-- Nothing is kept. -/
  keepsNothing : ∀ failure, result.outcome = .error failure →
    failure = .unfinished ∨ result.stream.pending = []

omit [WaitTime δ] in
theorem Advancing.of_follows {result : Result ω δ Bytes}
    (follows : Follows extractor run gone stream)
    (followsLater : Follows extractor later goneLater result.stream)
    (grows : run.delivered <+: later.delivered)
    (returned : ∀ bytes, result.outcome = .ok bytes → goneLater = gone ++ bytes)
    (keepsNothing : ∀ failure, result.outcome = .error failure → result.stream.pending = []) :
    Advancing result gone goneLater where
  grows := by
    cases outcome : result.outcome with
    | ok bytes =>
      rw [returned bytes outcome]
      exact List.prefix_append _ _
    | error failure =>
      have wholeLater := followsLater.log_eq
      rw [keepsNothing failure outcome, List.append_nil] at wholeLater
      rw [← wholeLater]
      refine List.IsPrefix.trans ?_ (Extractor.log_prefix grows)
      rw [follows.log_eq]
      exact List.prefix_append _ _
  keepsNothing := fun failure failed => Or.inr (keepsNothing failure failed)

/-- A read goes on right after what has gone. -/
theorem advancing_read (wanted : Nat) (follows : Follows extractor run gone stream)
    (begun : gone = [] → stream.pending = []) :
    ∃ count goneLater,
      Reading env fuel extractor run gone (read env fuel wanted stream run.world) count goneLater
        ∧ Advancing (read env fuel wanted stream run.world) gone goneLater := by
  obtain ⟨count, goneLater, reading, -⟩ := reading_read env fuel wanted follows begun
  refine ⟨count, goneLater, reading, .of_follows follows reading.follows
    (delivered_prefix_pulls env fuel count run) reading.returned fun failure failed => ?_⟩
  unfold read at failed ⊢
  rw [follows.notClosed] at failed ⊢
  exact pending_of_failed_fill env fuel follows failed

/-- Reading to the end goes on right after what has gone. -/
theorem advancing_readChunks (chunks : Nat) (follows : Follows extractor run gone stream)
    (begun : gone = [] → stream.pending = []) :
    ∃ count goneLater,
      Reading env fuel extractor run gone (readChunks env fuel chunks stream run.world) count
          goneLater
        ∧ Advancing (readChunks env fuel chunks stream run.world) gone goneLater := by
  induction chunks generalizing run stream gone with
  | zero =>
    refine ⟨0, gone, ⟨rfl, follows, begun, by simp [readChunks]⟩, List.prefix_rfl, ?_⟩
    rintro failure failed
    exact Or.inl (Except.error.inj failed).symm
  | succ chunks inductionHypothesis =>
    unfold readChunks
    obtain ⟨count, goneNext, first, advancing⟩ := advancing_read env fuel chunkSize follows begun
    generalize read env fuel chunkSize stream run.world = chunk at *
    dsimp only
    cases outcome : chunk.outcome with
    | error failure =>
      refine ⟨count, goneNext, ⟨first.world_eq, first.follows, first.begun, by simp⟩,
        advancing.grows, fun found failed => advancing.keepsNothing found ?_⟩
      rwa [outcome]
    | ok bytes =>
      cases bytes with
      | nil =>
        exact ⟨count, goneNext, ⟨first.world_eq, first.follows, first.begun, fun bytes isBytes =>
          first.returned bytes (outcome.trans isBytes)⟩, advancing.grows, by simp⟩
      | cons byte others =>
        obtain rfl := first.returned _ outcome
        obtain ⟨more, goneLater, reading, rest⟩ := inductionHypothesis first.follows first.begun
        rw [← first.world_eq] at reading rest
        exact ⟨count + more, goneLater, reading.after env fuel _,
          advancing.grows.trans rest.grows, fun failure failed =>
            rest.keepsNothing failure (map_eq_error.mp failed)⟩

/-- Every answer goes on right after what has gone. -/
theorem advancing_answer (demand : Demand) (follows : Follows extractor run gone stream)
    (begun : gone = [] → stream.pending = []) :
    ∃ count goneLater,
      Reading env fuel extractor run gone (answer env fuel demand stream run.world) count goneLater
        ∧ Advancing (answer env fuel demand stream run.world) gone goneLater := by
  cases demand with
  | upTo wanted => exact advancing_read env fuel wanted follows begun
  | all => exact advancing_readChunks env fuel fuel follows begun

omit [WaitTime δ] in
/-- What has gone after an attempt is what had gone before, what is returned and what is lost. -/
theorem Advancing.gone_eq {result : Result ω δ Bytes} (advancing : Advancing result gone goneLater)
    (returned : ∀ bytes, result.outcome = .ok bytes → goneLater = gone ++ bytes)
    (follows : Follows extractor run gone stream)
    (followsLater : Follows extractor later goneLater result.stream)
    (grows : run.delivered <+: later.delivered) {lines : List Bytes}
    (known : extractor.lines later.delivered <+: lines) :
    goneLater = gone ++ Attempt.gone lines ⟨stream, result.stream, result.outcome⟩ := by
  cases outcome : result.outcome with
  | ok bytes =>
    rw [returned bytes outcome]
    simp [Attempt.gone, Attempt.returned, Attempt.lost]
  | error failure =>
    obtain ⟨added, rfl⟩ := advancing.grows
    have met := follows.log_append_met followsLater grows known (.error failure)
    rw [followsLater.log_eq, List.append_assoc, List.append_cancel_left_eq] at met
    simp [Attempt.gone, Attempt.returned, Attempt.lost, met]

/-! ## Several attempts -/

/-- Failed attempts keep nothing, unless there was no end in sight. -/
def KeepNothing (made : List (Attempt δ)) : Prop :=
  ∀ attempt ∈ made, ∀ failure, attempt.outcome = .error failure →
    failure = .unfinished ∨ attempt.after.pending = []

/-- What some attempts return and lose makes up what has gone. -/
theorem follows_attempts (demands : List Demand) (follows : Follows extractor run gone stream)
    (begun : gone = [] → stream.pending = []) :
    ∃ count goneLater,
      (answers env fuel demands stream run.world).world = (run.pulls env fuel count).world
        ∧ Follows extractor (run.pulls env fuel count) goneLater
          (answers env fuel demands stream run.world).stream
        ∧ KeepNothing (attempts env fuel demands stream run.world)
        ∧ ∀ lines, extractor.lines (run.pulls env fuel count).delivered <+: lines →
          goneLater = gone
            ++ (attempts env fuel demands stream run.world).flatMap (Attempt.gone lines) := by
  induction demands generalizing run stream gone with
  | nil => exact ⟨0, gone, rfl, follows, by simp [KeepNothing, attempts], by simp [attempts]⟩
  | cons demand rest inductionHypothesis =>
    obtain ⟨count, goneNext, reading, advancing⟩ := advancing_answer env fuel demand follows begun
    obtain ⟨more, goneLater, world_eq, followsOn, keepNothing, gone_eq⟩ :=
      inductionHypothesis reading.follows reading.begun
    rw [← reading.world_eq] at world_eq followsOn keepNothing gone_eq
    simp only [answers, attempts]
    refine ⟨count + more, goneLater, ?_⟩
    rw [Run.pulls_add]
    refine ⟨world_eq, followsOn, List.forall_mem_cons.mpr ⟨advancing.keepsNothing, keepNothing⟩,
      fun lines known => ?_⟩
    have knownFirst : extractor.lines (run.pulls env fuel count).delivered <+: lines :=
      (Extractor.lines_prefix (delivered_prefix_pulls env fuel more _)).trans known
    have goneNext_eq := advancing.gone_eq reading.returned follows reading.follows
      (delivered_prefix_pulls env fuel count run) knownFirst
    rw [gone_eq lines known, goneNext_eq, List.flatMap_cons, List.append_assoc]

omit [WaitTime δ] in
/-- As many bytes are gone as are returned exactly if none are lost. -/
theorem length_flatMap_gone_iff (made : List (Attempt δ)) (lines : List Bytes) :
    (made.flatMap (Attempt.gone lines)).length = (made.flatMap Attempt.returned).length
      ↔ ∀ attempt ∈ made, attempt.lost lines = [] := by
  induction made with
  | nil => simp
  | cons attempt rest inductionHypothesis =>
    have atLeast : (rest.flatMap Attempt.returned).length
        ≤ (rest.flatMap (Attempt.gone lines)).length := by
      clear inductionHypothesis
      induction rest with
      | nil => exact Nat.le_refl 0
      | cons attempt rest inductionHypothesis =>
        simp only [List.flatMap_cons, List.length_append, Attempt.gone]
        omega
    rw [List.forall_mem_cons, ← inductionHypothesis, ← List.length_eq_zero_iff]
    simp only [List.flatMap_cons, List.length_append, Attempt.gone]
    omega

omit [WaitTime δ] in
theorem flatMap_gone_of_nothingLost {made : List (Attempt δ)} {lines : List Bytes}
    (nothingLost : ∀ attempt ∈ made, attempt.lost lines = []) :
    made.flatMap (Attempt.gone lines) = made.flatMap Attempt.returned := by
  refine List.flatMap_congr fun attempt among => ?_
  rw [Attempt.gone, nothingLost attempt among, List.append_nil]

/-- What attempts return and what failed ones lose, in order, is the log up to what is pending, and
all of it counts as read.

A failed attempt loses what was pending before it and the lines that it took.  The bytes read are as
many as the bytes returned exactly if no attempt loses any, and then what was returned is the
beginning of the log. -/
theorem attempts_return_or_lose (iterator : Iterator δ) (world : ω) (extractor : Extractor)
    (demands : List Demand) :
    let opened := ByteStream.start iterator extractor
    let made := attempts env fuel demands opened world
    let last := answers env fuel demands opened world
    ∃ count,
      let run := (Run.start iterator world).pulls env fuel count
      let lines := extractor.lines run.delivered
      let returned := made.flatMap Attempt.returned
      last.stream.iterator = run.iterator ∧ last.world = run.world
        ∧ made.flatMap (Attempt.gone lines) ++ last.stream.pending = extractor.log run.delivered
        ∧ last.stream.bytesRead = (made.flatMap (Attempt.gone lines)).length
        ∧ KeepNothing made
        ∧ (last.stream.bytesRead = returned.length ↔ ∀ attempt ∈ made, attempt.lost lines = [])
        ∧ (last.stream.bytesRead = returned.length → returned <+: extractor.log run.delivered) := by
  intro opened made last
  have atFirst : Follows extractor (Run.start iterator world) [] opened :=
    follows_start iterator world
  obtain ⟨count, gone, world_eq, follows, keepNothing, gone_eq⟩ :=
    follows_attempts env fuel demands atFirst fun _ => rfl
  refine ⟨count, ?_⟩
  intro run lines returned
  obtain rfl : gone = made.flatMap (Attempt.gone lines) := gone_eq lines List.prefix_rfl
  have bytesRead_iff : last.stream.bytesRead = returned.length
      ↔ ∀ attempt ∈ made, attempt.lost lines = [] := by
    refine Iff.trans ?_ (length_flatMap_gone_iff made lines)
    rw [show last.stream.bytesRead = _ from follows.bytesRead_eq, Int.natCast_inj]
  refine ⟨follows.iterator_eq, world_eq, follows.log_eq.symm, follows.bytesRead_eq, keepNothing,
    bytesRead_iff, fun all => ?_⟩
  rw [follows.log_eq, flatMap_gone_of_nothingLost (bytesRead_iff.mp all)]
  exact List.prefix_append _ _

/-- The iterator hands out two lines, but the first one is lost with the read that fails, and counts
as read. -/
theorem interrupted_reads_lose_line :
    ∃ iterator, Iterator.start (Scope.firstMicrosecond true) TailPolicy.standard = .ok iterator ∧
      let demands := [.upTo 5, .upTo 5]
      let opened := ByteStream.start iterator Extractor.plain
      let made := attempts Script.surroundings 9 demands opened Buffer.interrupted
      let log : Bytes := [0x61, 0x0A, 0x62, 0x0A]
      (∃ lines, HandsOut Script.surroundings 9 iterator Buffer.interrupted lines
        ∧ Extractor.plain.log lines = log)
        ∧ made.map Attempt.outcome
          = [.error (.raised ⟨.unreachable, "down", none, []⟩), .ok [0x62, 0x0A]]
        ∧ ¬made.flatMap Attempt.returned <+: log
        ∧ (answers Script.surroundings 9 demands opened Buffer.interrupted).stream.bytesRead
          ≠ (made.flatMap Attempt.returned).length := by
  refine ⟨_, rfl, ⟨_, handsOut_of_ended 4 (Or.inr ?_), ?_⟩, ?_, ?_, ?_⟩ <;> decide +kernel

end ByteStream
end RunLog
