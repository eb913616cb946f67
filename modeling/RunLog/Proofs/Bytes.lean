import RunLog.ByteStream
import RunLog.Proofs.Offsets
import RunLog.Proofs.Reading
import RunLog.Proofs.Trace

/-!
# The bytes of a log

A byte stream takes the lines of an iterator one by one and hands out their renderings.  At any
time what it has handed out so far, followed by the bytes of the current line that are left, is the
rendering of all lines that it has taken.  This is kept by every read, whether or not the read
succeeds.  A read that fails hands out nothing, but what it had taken from earlier lines counts as
handed out.

The offset map is always the one of the lines that were taken.  It never refuses a line, since
every line has a byte at least.
-/

namespace RunLog

namespace Iterator

variable {ω δ : Type} [WaitTime δ] {env : Surroundings ω δ} {fuel : Nat}

/-- An iterator that hands out nothing any more. -/
def Ended (iterator : Iterator δ) : Prop :=
  iterator.closed = true ∨ iterator.exhausted = true ∧ iterator.ready = []

theorem next_of_ended {iterator : Iterator δ} {world : ω} (ended : iterator.Ended) :
    next env fuel iterator world = ⟨iterator, world, [], .ok none⟩ := by
  cases closed : iterator.closed with
  | true => exact next_closed env fuel iterator world closed
  | false =>
    obtain ⟨exhausted, nothingReady⟩ := ended.resolve_left (by simp [closed])
    exact next_exhausted env fuel closed nothingReady exhausted

theorem ended_of_needsNoFetch {iterator : Iterator δ} {world : ω}
    (needsNoFetch : NeedsNoFetch iterator)
    (nothing : (next env fuel iterator world).outcome = .ok none) :
    (next env fuel iterator world).iterator.Ended := by
  cases closed : iterator.closed with
  | true =>
    rw [next_closed env fuel iterator world closed]
    exact Or.inl closed
  | false =>
    cases ready : iterator.ready with
    | cons entry rest =>
      rw [next_ready env fuel closed ready] at nothing
      simp at nothing
    | nil =>
      have exhausted : iterator.exhausted = true := by
        simpa [NeedsNoFetch, closed, ready] using needsNoFetch
      rw [next_exhausted env fuel closed ready exhausted]
      exact Or.inr ⟨exhausted, ready⟩

/-- An iterator that hands out nothing when it is asked never hands out anything again. -/
theorem ended_of_next {iterator : Iterator δ} {world : ω}
    (nothing : (next env fuel iterator world).outcome = .ok none) :
    (next env fuel iterator world).iterator.Ended := by
  induction fuel generalizing iterator world with
  | zero =>
    by_cases needsNoFetch : NeedsNoFetch iterator
    · exact ended_of_needsNoFetch needsNoFetch nothing
    · obtain ⟨notClosed, nothingReady, notExhausted⟩ := not_needsNoFetch.mp needsNoFetch
      rw [next_zero env notClosed nothingReady notExhausted] at nothing
      simp at nothing
  | succ fuel inductionHypothesis =>
    by_cases needsNoFetch : NeedsNoFetch iterator
    · exact ended_of_needsNoFetch needsNoFetch nothing
    · obtain ⟨notClosed, nothingReady, notExhausted⟩ := not_needsNoFetch.mp needsNoFetch
      cases failed : (fetch env true iterator world).failure with
      | some failure =>
        rw [next_failed env fuel notClosed nothingReady notExhausted failed] at nothing
        simp at nothing
      | none =>
        rw [next_fetched env fuel notClosed nothingReady notExhausted failed] at nothing ⊢
        exact inductionHypothesis nothing

namespace Run

/-- A run after the next entry was asked for a number of times. -/
def pulls (env : Surroundings ω δ) (fuel count : Nat) (run : Run ω δ) : Run ω δ :=
  run.calls env (List.replicate count (.next fuel))

theorem pulls_one (run : Run ω δ) : run.pulls env fuel 1 = run.call env (.next fuel) := rfl

theorem pulls_add (run : Run ω δ) (first second : Nat) :
    run.pulls env fuel (first + second) = (run.pulls env fuel first).pulls env fuel second := by
  rw [pulls, ← List.replicate_append_replicate, calls, List.foldl_append]
  rfl

/-- Nothing changes once the iterator has ended. -/
theorem pulls_of_ended {run : Run ω δ} (ended : run.iterator.Ended) (count : Nat) :
    run.pulls env fuel count = run := by
  induction count with
  | zero => rfl
  | succ count inductionHypothesis =>
    rw [pulls_add, inductionHypothesis, pulls_one, call, next_of_ended ended]
    simp [afterPull, Except.toOption]

end Run
end Iterator

namespace Extractor

/-- The bytes of a line with its end; none if it cannot be rendered. -/
def lineBytes (extractor : Extractor) (entry : Entry) : Bytes :=
  match extractor.render entry with
  | .ok rendered => rendered ++ [ByteStream.lineEnd]
  | .error _ => []

/-- The bytes of some lines. -/
def log (extractor : Extractor) (entries : List Entry) : Bytes :=
  entries.flatMap extractor.lineBytes

theorem log_append (extractor : Extractor) (first second : List Entry) :
    extractor.log (first ++ second) = extractor.log first ++ extractor.log second := by
  simp [log]

/-- The first lines have the first bytes. -/
theorem log_prefix {extractor : Extractor} {some all : List Entry} (begins : some <+: all) :
    extractor.log some <+: extractor.log all := by
  obtain ⟨rest, rfl⟩ := begins
  rw [log_append]
  exact List.prefix_append _ _

/-- The lines of some entries with their ends, without those that cannot be rendered. -/
def lines (extractor : Extractor) (entries : List Entry) : List Bytes :=
  (entries.map extractor.lineBytes).filter fun line => !line.isEmpty

/-- The lines of the first entries are the first lines. -/
theorem lines_prefix {extractor : Extractor} {some all : List Entry} (begins : some <+: all) :
    extractor.lines some <+: extractor.lines all := by
  obtain ⟨rest, rfl⟩ := begins
  rw [lines, lines, List.map_append, List.filter_append]
  exact List.prefix_append _ _

@[simp] theorem flatten_lines (extractor : Extractor) (entries : List Entry) :
    (extractor.lines entries).flatten = extractor.log entries := by
  rw [lines, List.flatten_filter_not_isEmpty, log, List.flatMap_def]

theorem ne_nil_of_mem_lines {extractor : Extractor} {entries : List Entry} {line : Bytes}
    (among : line ∈ extractor.lines entries) : line ≠ [] := by
  simpa using (List.mem_filter.mp among).2

section Append

variable {extractor : Extractor} {entry : Entry} (entries : List Entry)

theorem lines_append_rendered {rendered : Bytes}
    (rendering : extractor.render entry = .ok rendered) :
    extractor.lines (entries ++ [entry])
      = extractor.lines entries ++ [rendered ++ [ByteStream.lineEnd]] := by
  simp [lines, lineBytes, rendering]

theorem lines_append_failed {failure : Failure} (failed : extractor.render entry = .error failure) :
    extractor.lines (entries ++ [entry]) = extractor.lines entries := by
  simp [lines, lineBytes, failed]

end Append

end Extractor

namespace ByteStream

open Iterator

variable {ω δ : Type} {run : Run ω δ} {extractor : Extractor} {gone : Bytes}
  {stream : ByteStream δ}

/-- A stream over an iterator in a run.  It has handed out some bytes of the log, and the bytes that
are pending are what is left of the lines so far. -/
structure Follows (extractor : Extractor) (run : Run ω δ) (gone : Bytes)
    (stream : ByteStream δ) : Prop where
  /-- The stream takes its lines from the iterator of the run. -/
  iterator_eq : stream.iterator = run.iterator
  /-- The extractor stays. -/
  extractor_eq : stream.extractor = extractor
  /-- The stream is open. -/
  notClosed : stream.closed = false
  /-- What is gone and what is pending make up the log so far. -/
  log_eq : extractor.log run.delivered = gone ++ stream.pending
  /-- The offset is the end of the log so far. -/
  offset_eq : stream.offset = (extractor.log run.delivered).length
  /-- The lines so far are counted. -/
  lines_eq : stream.lines = (extractor.lines run.delivered).length
  /-- The map is the one of the lines so far. -/
  map_eq : stream.map = OffsetMap.ofLines (extractor.lines run.delivered)

/-- What is gone is counted. -/
theorem Follows.bytesRead_eq (follows : Follows extractor run gone stream) :
    stream.bytesRead = gone.length := by
  have lengths : stream.offset = gone.length + stream.pending.length := by
    rw [follows.offset_eq, follows.log_eq, List.length_append]
  unfold bytesRead
  omega

/-- No line was taken exactly if there are no bytes. -/
theorem Follows.noLine_iff (follows : Follows extractor run gone stream) :
    stream.lines = 0 ↔ stream.offset = 0 := by
  have noByte : (extractor.lines run.delivered).flatten = []
      ↔ extractor.lines run.delivered = [] := by
    rw [List.flatten_eq_nil_iff]
    refine ⟨fun noneHasBytes => List.eq_nil_iff_forall_not_mem.mpr fun line among => ?_, ?_⟩
    · exact Extractor.ne_nil_of_mem_lines among (noneHasBytes line among)
    · rintro noLine line among
      simp [noLine] at among
  rw [follows.lines_eq, follows.offset_eq, ← Extractor.flatten_lines, List.length_eq_zero_iff,
    List.length_eq_zero_iff, noByte]

theorem follows_start (iterator : Iterator δ) (world : ω) :
    Follows extractor (Run.start iterator world) [] (start iterator extractor) where
  iterator_eq := rfl
  extractor_eq := rfl
  notClosed := rfl
  log_eq := rfl
  offset_eq := rfl
  lines_eq := rfl
  map_eq := rfl

/-- A line is never refused. -/
theorem Follows.put_eq (follows : Follows extractor run gone stream) (line : Bytes) :
    stream.map.put ⟨stream.offset, stream.lines⟩
      = .ok (OffsetMap.ofLines (extractor.lines run.delivered ++ [line])) := by
  rw [follows.map_eq, follows.offset_eq, follows.lines_eq, ← Extractor.flatten_lines]
  exact OffsetMap.put_ofLines (fun _ => Extractor.ne_nil_of_mem_lines) line

/-- A call that adds no line to the log. -/
theorem Follows.same (follows : Follows extractor run gone stream) {later : Run ω δ}
    (sameLines : extractor.lines later.delivered = extractor.lines run.delivered) :
    Follows extractor later gone { stream with iterator := later.iterator } := by
  have sameLog : extractor.log later.delivered = extractor.log run.delivered := by
    rw [← Extractor.flatten_lines, sameLines, Extractor.flatten_lines]
  exact
    { iterator_eq := rfl
      extractor_eq := follows.extractor_eq
      notClosed := follows.notClosed
      log_eq := sameLog.trans follows.log_eq
      offset_eq := follows.offset_eq.trans (congrArg List.length sameLog.symm)
      lines_eq := follows.lines_eq.trans (congrArg List.length sameLines.symm)
      map_eq := follows.map_eq.trans (congrArg OffsetMap.ofLines sameLines.symm) }

/-- A call that adds a line to the log, which becomes the current line. -/
theorem Follows.line (follows : Follows extractor run gone stream)
    (nothingPending : stream.pending = []) {later : Run ω δ} {rendered : Bytes}
    (newLines : extractor.lines later.delivered
      = extractor.lines run.delivered ++ [rendered ++ [lineEnd]]) :
    ∃ entered, enter { stream with iterator := later.iterator } rendered = (entered, .ok ())
      ∧ entered.pending = rendered ++ [lineEnd] ∧ Follows extractor later gone entered := by
  have newLog : extractor.log later.delivered
      = extractor.log run.delivered ++ (rendered ++ [lineEnd]) := by
    rw [← Extractor.flatten_lines, newLines, List.flatten_append, Extractor.flatten_lines,
      List.flatten_singleton]
  simp only [enter, follows.put_eq (rendered ++ [lineEnd])]
  refine ⟨_, rfl, rfl, rfl, follows.extractor_eq, follows.notClosed, ?_, ?_, ?_, ?_⟩
  · rw [newLog, follows.log_eq, nothingPending, List.append_nil]
  · simp only [newLog, List.length_append, follows.offset_eq]
  · simp only [newLines, List.length_append, List.length_singleton, follows.lines_eq]
  · rw [newLines]

variable [WaitTime δ] (env : Surroundings ω δ) (fuel : Nat)

/-- A line is taken: the next entry is asked for, and if there is one it is the current line. -/
theorem follows_takeLine (follows : Follows extractor run gone stream)
    (nothingPending : stream.pending = []) :
    (takeLine env fuel stream run.world).world = (run.call env (.next fuel)).world
      ∧ Follows extractor (run.call env (.next fuel)) gone
        (takeLine env fuel stream run.world).stream
      ∧ ((takeLine env fuel stream run.world).outcome = .ok true →
        (takeLine env fuel stream run.world).stream.pending ≠ [])
      ∧ ((takeLine env fuel stream run.world).outcome ≠ .ok true →
        (takeLine env fuel stream run.world).stream.pending = [])
      ∧ ((takeLine env fuel stream run.world).outcome = .ok false →
        (run.call env (.next fuel)).iterator.Ended) := by
  obtain rfl := follows.extractor_eq
  unfold takeLine
  rw [Run.call, follows.iterator_eq]
  dsimp only
  rcases outcome : (Iterator.next env fuel run.iterator run.world).outcome with
    failure | _ | entry
  · refine ⟨rfl, follows.same ?_, by simp, fun _ => nothingPending, by simp⟩
    simp [Run.afterPull, outcome, Except.toOption]
  · refine ⟨rfl, follows.same ?_, by simp, fun _ => nothingPending, fun _ => ended_of_next outcome⟩
    simp [Run.afterPull, outcome, Except.toOption]
  · have delivered : (run.afterPull (Iterator.next env fuel run.iterator run.world)).delivered
        = run.delivered ++ [entry] := by
      simp [Run.afterPull, outcome, Except.toOption]
    cases rendering : stream.extractor.render entry with
    | error failure =>
      have added := Extractor.lines_append_failed run.delivered rendering
      rw [← delivered] at added
      simp only [rendering]
      exact ⟨rfl, follows.same added, by simp, fun _ => nothingPending, by simp⟩
    | ok rendered =>
      have added := Extractor.lines_append_rendered run.delivered rendering
      rw [← delivered] at added
      obtain ⟨entered, isEntered, pending, followsOn⟩ := follows.line nothingPending added
      simp only [Run.afterPull, Run.advance] at isEntered
      simp only [rendering, isEntered]
      exact ⟨rfl, followsOn, by simp [pending], by simp, by simp⟩

/-- The current line has bytes left or the next line is taken. -/
theorem follows_refill (follows : Follows extractor run gone stream) :
    ∃ count, (refill env fuel stream run.world).world = (run.pulls env fuel count).world
      ∧ Follows extractor (run.pulls env fuel count) gone
        (refill env fuel stream run.world).stream
      ∧ ((refill env fuel stream run.world).outcome = .ok true →
        (refill env fuel stream run.world).stream.pending ≠ [])
      ∧ ((refill env fuel stream run.world).outcome ≠ .ok true →
        (refill env fuel stream run.world).stream.pending = [])
      ∧ ((refill env fuel stream run.world).outcome = .ok false →
        (run.pulls env fuel count).iterator.Ended) := by
  unfold refill
  split
  · rename_i nothingPending
    exact ⟨1, follows_takeLine env fuel follows (List.isEmpty_iff.mp nothingPending)⟩
  · rename_i pending
    exact ⟨0, rfl, follows, fun _ => by simpa using pending, by simp, by simp⟩

omit [WaitTime δ] in
/-- Bytes of the current line are handed out. -/
theorem Follows.handOut (follows : Follows extractor run gone stream) (count : Nat) :
    Follows extractor run (gone ++ stream.pending.take count)
      { stream with pending := stream.pending.drop count } where
  iterator_eq := follows.iterator_eq
  extractor_eq := follows.extractor_eq
  notClosed := follows.notClosed
  log_eq := by
    rw [follows.log_eq, List.append_assoc, List.take_append_drop]
  offset_eq := follows.offset_eq
  lines_eq := follows.lines_eq
  map_eq := follows.map_eq

/-- A read has led from a run to a later one.  If it succeeds, it returns what has gone since; if
not, other bytes may have gone.  Lines that are taken are begun to be handed out. -/
structure Reading (env : Surroundings ω δ) (fuel : Nat) (extractor : Extractor) (run : Run ω δ)
    (gone : Bytes) (result : Result ω δ Bytes) (count : Nat) (goneLater : Bytes) : Prop where
  /-- The world is the one of the later run. -/
  world_eq : result.world = (run.pulls env fuel count).world
  /-- The stream follows the later run. -/
  follows : Follows extractor (run.pulls env fuel count) goneLater result.stream
  /-- If nothing has gone, nothing was taken. -/
  begun : goneLater = [] → result.stream.pending = []
  /-- What is returned has gone. -/
  returned : ∀ bytes, result.outcome = .ok bytes → goneLater = gone ++ bytes

/-- A read that does nothing. -/
theorem Follows.reading_nothing (follows : Follows extractor run gone stream)
    (begun : gone = [] → stream.pending = []) :
    Reading env fuel extractor run gone ⟨stream, run.world, [], .ok []⟩ 0 gone where
  world_eq := rfl
  follows := follows
  begun := begun
  returned := by
    intro bytes isBytes
    cases Except.ok.inj isBytes
    simp

/-- Bytes that have gone come before what a later read returns. -/
theorem Reading.after {first goneLater : Bytes} {rest : Result ω δ Bytes} {count more : Nat}
    (reading : Reading env fuel extractor (run.pulls env fuel count) (gone ++ first) rest more
      goneLater) (events : List (Event δ)) :
    Reading env fuel extractor run gone
      ⟨rest.stream, rest.world, events, rest.outcome.map (first ++ ·)⟩ (count + more)
      goneLater where
  world_eq := by
    rw [Run.pulls_add]
    exact reading.world_eq
  follows := by
    rw [Run.pulls_add]
    exact reading.follows
  begun := reading.begun
  returned := by
    intro bytes isBytes
    obtain ⟨later, isLater, rfl⟩ := map_eq_ok.mp isBytes
    rw [reading.returned later isLater, List.append_assoc]

/-- Filling a place hands out as many bytes as it has room for, unless the log ends. -/
theorem reading_fill {lines wanted : Nat} (enough : wanted ≤ lines)
    (follows : Follows extractor run gone stream) (begun : gone = [] → stream.pending = []) :
    ∃ count goneLater,
      Reading env fuel extractor run gone (fill env fuel lines wanted stream run.world) count
          goneLater
        ∧ ∀ bytes, (fill env fuel lines wanted stream run.world).outcome = .ok bytes →
          bytes.length < wanted → (run.pulls env fuel count).iterator.Ended
            ∧ (fill env fuel lines wanted stream run.world).stream.pending = [] := by
  induction lines generalizing run stream gone wanted with
  | zero =>
    exact ⟨0, gone, follows.reading_nothing env fuel begun, fun bytes _ short => by omega⟩
  | succ lines inductionHypothesis =>
    unfold fill
    split
    · exact ⟨0, gone, follows.reading_nothing env fuel begun, fun bytes _ short => by omega⟩
    · rename_i someWanted
      obtain ⟨count, world_eq, refilled, hasBytes, hasNone, ended⟩ :=
        follows_refill env fuel follows
      generalize refill env fuel stream run.world = filled at *
      dsimp only
      cases outcome : filled.outcome with
      | error failure =>
        exact ⟨count, gone, ⟨world_eq, refilled, fun _ => hasNone (by simp [outcome]), by simp⟩,
          by simp⟩
      | ok found =>
        cases found with
        | false =>
          have nothingPending := hasNone (by simp [outcome])
          exact ⟨count, gone, ⟨world_eq, refilled, fun _ => nothingPending, by simp⟩,
            fun _ _ _ => ⟨ended outcome, nothingPending⟩⟩
        | true =>
          have somePending : 0 < filled.stream.pending.length :=
            List.length_pos_iff.mpr (hasBytes outcome)
          have handedOut := refilled.handOut wanted
          have someTaken : 0 < (filled.stream.pending.take wanted).length := by
            rw [List.length_take]
            omega
          generalize filled.stream.pending.take wanted = chunk at *
          have notNothing : gone ++ chunk ≠ [] := by
            simp [List.length_pos_iff.mp someTaken]
          obtain ⟨more, goneLater, reading, stopped⟩ := inductionHypothesis
            (show wanted - chunk.length ≤ lines by omega) handedOut fun nothing =>
              absurd nothing notNothing
          rw [← world_eq] at reading stopped
          rw [← Run.pulls_add] at stopped
          generalize fill env fuel lines (wanted - chunk.length) _ filled.world = rest at *
          refine ⟨count + more, goneLater, reading.after env fuel _, fun bytes isBytes short => ?_⟩
          obtain ⟨later, isLater, rfl⟩ := map_eq_ok.mp isBytes
          rw [List.length_append] at short
          exact stopped later isLater (by omega)

/-- A read is a fill of an open stream. -/
theorem reading_read (wanted : Nat) (follows : Follows extractor run gone stream)
    (begun : gone = [] → stream.pending = []) :
    ∃ count goneLater,
      Reading env fuel extractor run gone (read env fuel wanted stream run.world) count goneLater
        ∧ ∀ bytes, (read env fuel wanted stream run.world).outcome = .ok bytes →
          bytes.length < wanted → (run.pulls env fuel count).iterator.Ended
            ∧ (read env fuel wanted stream run.world).stream.pending = [] := by
  unfold read
  rw [follows.notClosed]
  exact reading_fill env fuel (Nat.le_refl wanted) follows begun

/-- Reading to the end returns all that has not gone before. -/
theorem reading_readChunks (chunks : Nat) (follows : Follows extractor run gone stream)
    (begun : gone = [] → stream.pending = []) :
    ∃ count goneLater,
      Reading env fuel extractor run gone (readChunks env fuel chunks stream run.world) count
          goneLater
        ∧ ∀ bytes, (readChunks env fuel chunks stream run.world).outcome = .ok bytes →
          (run.pulls env fuel count).iterator.Ended
            ∧ (readChunks env fuel chunks stream run.world).stream.pending = [] := by
  induction chunks generalizing run stream gone with
  | zero => exact ⟨0, gone, ⟨rfl, follows, begun, by simp [readChunks]⟩, by simp [readChunks]⟩
  | succ chunks inductionHypothesis =>
    unfold readChunks
    obtain ⟨count, goneNext, first, stopped⟩ :=
      reading_read env fuel chunkSize follows begun
    generalize read env fuel chunkSize stream run.world = chunk at *
    dsimp only
    cases outcome : chunk.outcome with
    | error failure =>
      exact ⟨count, goneNext, ⟨first.world_eq, first.follows, first.begun, by simp⟩, by simp⟩
    | ok bytes =>
      cases bytes with
      | nil =>
        exact ⟨count, goneNext, ⟨first.world_eq, first.follows, first.begun, fun bytes isBytes =>
          first.returned bytes (outcome.trans isBytes)⟩,
          fun bytes isBytes => stopped [] outcome (by simp [chunkSize])⟩
      | cons byte others =>
        obtain rfl := first.returned _ outcome
        obtain ⟨more, goneLater, reading, ended⟩ := inductionHypothesis first.follows first.begun
        rw [← first.world_eq] at reading ended
        rw [← Run.pulls_add] at ended
        generalize readChunks env fuel chunks chunk.stream chunk.world = rest at *
        refine ⟨count + more, goneLater, reading.after env fuel _, fun bytes isBytes => ?_⟩
        obtain ⟨later, isLater, rfl⟩ := map_eq_ok.mp isBytes
        exact ended later isLater

end ByteStream
end RunLog
