import Mathlib.Order.Bounds.Basic
import RunLog.Proofs.Bytes
import RunLog.Proofs.Retrying
import RunLog.Script

/-!
# Reading a log in pieces

A reader asks a byte stream for some bytes, or for all that are left, again and again.  The answers
are the log cut into pieces: each of them begins where the one before it ends, and has as many bytes
as were asked for unless the log ends.

Reading is lazy.  A line is taken from the iterator when its first byte is wanted, so the lines that
were taken are the fewest that have the bytes that were handed out.  The iterator is asked in vain
only when all bytes of the log have been handed out.

What an iterator hands out is described without a bound on the fetches: `Gives` says that the run
hands out some entries one after the other, `Ends` that it then hands out nothing more.
-/

namespace RunLog

namespace Iterator.Run

variable {ω δ : Type} [WaitTime δ] {env : Surroundings ω δ} {fuel much : Nat}
  {run later last : Run ω δ} {entries : List Entry}

/-- The run hands out some entries one after the other. -/
inductive Gives (env : Surroundings ω δ) (fuel : Nat) : Run ω δ → List Entry → Run ω δ → Prop
  | nothing {run : Run ω δ} : Gives env fuel run [] run
  | entry {run middle later : Run ω δ} {entry : Entry} {entries : List Entry}
      (pulled : run.pull env fuel = (middle, .ok (some entry)))
      (onward : Gives env fuel middle entries later) : Gives env fuel run (entry :: entries) later

/-- The run is asked for the next entry, and there is none. -/
def Ends (env : Surroundings ω δ) (fuel : Nat) (run last : Run ω δ) : Prop :=
  run.pull env fuel = (last, .ok none)

/-- Whatever the run has handed out, the next entry or the end is found. -/
def Unfailing (env : Surroundings ω δ) (run : Run ω δ) : Prop :=
  ∀ fuel entries later, Gives env fuel run entries later →
    ∃ much last found, later.pull env much = (last, .ok found)

theorem Gives.mono (gives : Gives env fuel run entries later) (enough : fuel ≤ much) :
    Gives env much run entries later := by
  induction gives with
  | nothing => exact .nothing
  | entry pulled _ inductionHypothesis => exact .entry (pull_mono pulled enough) inductionHypothesis

theorem Ends.mono (ends : Ends env fuel run last) (enough : fuel ≤ much) :
    Ends env much run last :=
  pull_mono ends enough

/-- What is handed out is handed out in the order of the entries. -/
theorem gives_append {more : List Entry} :
    Gives env fuel run (entries ++ more) later ↔
      ∃ middle, Gives env fuel run entries middle ∧ Gives env fuel middle more later := by
  induction entries generalizing run with
  | nil =>
    refine ⟨fun gives => ⟨run, .nothing, gives⟩, ?_⟩
    rintro ⟨_, ⟨⟩, gives⟩
    exact gives
  | cons entry rest inductionHypothesis =>
    constructor
    · rintro (_ | ⟨pulled, onward⟩)
      obtain ⟨middle, first, second⟩ := inductionHypothesis.mp onward
      exact ⟨middle, .entry pulled first, second⟩
    · rintro ⟨middle, _ | ⟨pulled, first⟩, second⟩
      exact .entry pulled (inductionHypothesis.mpr ⟨middle, first, second⟩)

/-- The entries determine the run. -/
theorem Gives.unique (gives : Gives env fuel run entries later)
    (again : Gives env fuel run entries last) : later = last := by
  induction gives with
  | nothing =>
    cases again
    rfl
  | entry pulled _ inductionHypothesis =>
    obtain _ | ⟨pulledAgain, onward⟩ := again
    cases pulled.symm.trans pulledAgain
    exact inductionHypothesis onward

theorem delivered_of_pulled {found : Option Entry}
    (pulled : run.pull env fuel = (later, .ok found)) :
    later.delivered = run.delivered ++ found.toList := by
  obtain ⟨rfl, outcome⟩ := Prod.mk.inj pulled
  simp [afterPull, outcome, Except.toOption]

theorem Gives.delivered_eq (gives : Gives env fuel run entries later) :
    later.delivered = run.delivered ++ entries := by
  induction gives with
  | nothing => simp
  | entry pulled _ inductionHypothesis =>
    rw [inductionHypothesis, delivered_of_pulled pulled]
    simp

/-- Some entries that a run hands out come first among all that it hands out until its end. -/
theorem Gives.prefix_of_ends {part : List Entry} {middle : Run ω δ}
    (gives : Gives env fuel run entries later) (ends : Ends env fuel later last)
    (others : Gives env fuel run part middle) : part <+: entries := by
  induction others generalizing entries with
  | nothing => exact List.nil_prefix
  | entry pulled _ inductionHypothesis =>
    cases gives with
    | nothing => simp [Ends, pulled] at ends
    | entry pulledFirst onward =>
      cases pulledFirst.symm.trans pulled
      exact List.cons_prefix_cons.mpr ⟨rfl, inductionHypothesis onward⟩

theorem Ends.again (ends : Ends env fuel run last) : Ends env fuel last last := by
  obtain ⟨rfl, nothing⟩ := Prod.mk.inj ends
  have ended : (run.afterPull (next env fuel run.iterator run.world)).iterator.Ended :=
    ended_of_next nothing
  unfold Ends pull
  rw [next_of_ended ended]
  simp [afterPull, Except.toOption]

/-- A run that comes to its end does not fail before. -/
theorem unfailing_of_ends (gives : Gives env fuel run entries later)
    (ends : Ends env fuel later last) : Unfailing env run := by
  intro more part middle others
  have whole := gives.mono (Nat.le_max_left fuel more)
  have partly := others.mono (Nat.le_max_right fuel more)
  obtain ⟨left, rfl⟩ := whole.prefix_of_ends (ends.mono (Nat.le_max_left fuel more)) partly
  obtain ⟨between, first, second⟩ := gives_append.mp whole
  cases first.unique partly
  cases second with
  | nothing => exact ⟨fuel, last, none, ends⟩
  | entry pulled _ => exact ⟨_, _, _, pulled⟩

end Iterator.Run

namespace ByteStream

open Iterator

variable {ω δ : Type} [WaitTime δ]

/-! ## Demands -/

/-- What a reader asks a stream for. -/
inductive Demand
  /-- Up to so many bytes. -/
  | upTo (count : Nat)
  /-- All bytes that are left. -/
  | all
  deriving DecidableEq, Repr

/-- Answer a demand. -/
def answer (env : Surroundings ω δ) (fuel : Nat) (demand : Demand) (stream : ByteStream δ)
    (world : ω) : Result ω δ Bytes :=
  match demand with
  | .upTo count => read env fuel count stream world
  | .all => readAll env fuel stream world

/-- What came of a demand, and how many bytes had been read before. -/
structure Piece where
  /-- How many bytes had been read. -/
  position : Int
  /-- The bytes, or a failure. -/
  outcome : Except Failure Bytes

/-- What comes of several demands. -/
structure Pieces (ω δ : Type) where
  /-- The stream afterwards. -/
  stream : ByteStream δ
  /-- The world afterwards. -/
  world : ω
  /-- What happened. -/
  events : List (Event δ)
  /-- What came of the demands, in order. -/
  pieces : List Piece

/-- Answer demands one after the other. -/
def answers (env : Surroundings ω δ) (fuel : Nat) : List Demand → ByteStream δ → ω → Pieces ω δ
  | [], stream, world => ⟨stream, world, [], []⟩
  | demand :: rest, stream, world =>
    let first := answer env fuel demand stream world
    let later := answers env fuel rest first.stream first.world
    ⟨later.stream, later.world, first.events ++ later.events,
      ⟨stream.bytesRead, first.outcome⟩ :: later.pieces⟩

/-- Some bytes, cut into pieces as they are asked for. -/
def cut : List Demand → Bytes → List Bytes
  | [], _ => []
  | .upTo count :: rest, bytes => bytes.take count :: cut rest (bytes.drop count)
  | .all :: rest, bytes => bytes :: cut rest []

/-- How many bytes are asked for, if only so many are. -/
def asked : List Demand → Option Nat
  | [] => some 0
  | .upTo count :: rest => (asked rest).map (count + ·)
  | .all :: _ => none

/-- The pieces, put together, are the beginning of the bytes. -/
theorem prefix_flatten_cut (demands : List Demand) (bytes : Bytes) :
    (cut demands bytes).flatten <+: bytes := by
  induction demands generalizing bytes with
  | nil => exact List.nil_prefix
  | cons demand rest inductionHypothesis =>
    cases demand with
    | upTo count =>
      conv_rhs => rw [← List.take_append_drop count bytes]
      exact (List.prefix_append_right_inj _).mpr (inductionHypothesis (bytes.drop count))
    | all =>
      obtain ⟨left, nothingLeft⟩ := inductionHypothesis []
      have nothing := (List.append_eq_nil_iff.mp nothingLeft).1
      simp [cut, nothing]

/-! ## Taking lines -/

section Taking

variable {env : Surroundings ω δ} {fuel wanted : Nat} {extractor : Extractor}
  {start run middle later last : Run ω δ} {entries : List Entry} {entry : Entry}
  {gone rendered : Bytes} {stream : ByteStream δ}

/-- The next entry is rendered and becomes the current line. -/
theorem takeLine_of_pulled (follows : Follows extractor run gone stream)
    (nothingPending : stream.pending = [])
    (pulled : run.pull env fuel = (middle, .ok (some entry)))
    (rendering : extractor.render entry = .ok rendered) :
    ∃ entered events, takeLine env fuel stream run.world = ⟨entered, middle.world, events, .ok true⟩
      ∧ middle.events = run.events ++ events ∧ entered.pending = rendered ++ [lineEnd]
      ∧ Follows extractor middle gone entered := by
  obtain rfl := follows.extractor_eq
  have delivered : middle.delivered = run.delivered ++ [entry] :=
    Run.delivered_of_pulled pulled
  have newLines := Extractor.lines_append_rendered run.delivered rendering
  rw [← delivered] at newLines
  obtain ⟨entered, isEntered, pending, followsOn⟩ := follows.line nothingPending newLines
  obtain ⟨rfl, outcome⟩ := Prod.mk.inj pulled
  refine ⟨entered, _, ?_, rfl, pending, followsOn⟩
  simp only [Run.afterPull, Run.advance] at isEntered
  simp only [takeLine, follows.iterator_eq, outcome, rendering, isEntered]
  rfl

/-- There is no next entry. -/
theorem takeLine_of_ended (follows : Follows extractor run gone stream)
    (ends : run.Ends env fuel last) :
    ∃ events, takeLine env fuel stream run.world
        = ⟨{ stream with iterator := last.iterator }, last.world, events, .ok false⟩
      ∧ last.events = run.events ++ events
      ∧ Follows extractor last gone { stream with iterator := last.iterator } := by
  have sameLines : extractor.lines last.delivered = extractor.lines run.delivered := by
    rw [Run.delivered_of_pulled ends, Option.toList_none, List.append_nil]
  have followsOn := follows.same sameLines
  obtain ⟨rfl, outcome⟩ := Prod.mk.inj ends
  refine ⟨_, ?_, rfl, followsOn⟩
  simp only [takeLine, follows.iterator_eq, outcome]
  rfl

/-- A stream has handed out some bytes of the lines of a run, and has taken no line before its first
byte was wanted. -/
structure Drawn (env : Surroundings ω δ) (fuel : Nat) (extractor : Extractor) (start : Run ω δ)
    (entries : List Entry) (gone : Bytes) (run : Run ω δ) (stream : ByteStream δ) : Prop where
  /-- The bytes are those of the lines that were taken, without those that are pending. -/
  follows : Follows extractor run gone stream
  /-- Without the last line, there were not enough bytes. -/
  needed : ∀ before last, run.delivered = before ++ [last] →
    (extractor.log before).length < gone.length
  /-- The lines are the first ones; the end is found only after the last byte. -/
  inPlace : (∃ left, run.delivered ++ left = entries ∧ start.Gives env fuel run.delivered run)
    ∨ gone = extractor.log entries
      ∧ ∃ middle, start.Gives env fuel entries middle ∧ middle.Ends env fuel run

/-- What has gone is the beginning of the log. -/
theorem Drawn.gone_prefix (drawn : Drawn env fuel extractor start entries gone run stream) :
    gone <+: extractor.log entries := by
  rcases drawn.inPlace with ⟨left, rfl, -⟩ | ⟨rfl, -⟩
  · refine ⟨stream.pending ++ extractor.log left, ?_⟩
    rw [← List.append_assoc, ← drawn.follows.log_eq]
    simp [Extractor.log]
  · exact List.prefix_rfl

/-- Once the end is found, nothing is pending. -/
theorem Drawn.pending_of_ended (fresh : start.delivered = [])
    (drawn : Drawn env fuel extractor start entries gone run stream)
    (allGone : gone = extractor.log entries) (gives : start.Gives env fuel entries middle)
    (ends : middle.Ends env fuel run) : stream.pending = [] := by
  have log_eq := drawn.follows.log_eq
  rw [Run.delivered_of_pulled ends, gives.delivered_eq, fresh, allGone] at log_eq
  simpa using log_eq

/-- Some pending bytes are handed out. -/
theorem Drawn.handOut (fresh : start.delivered = [])
    (drawn : Drawn env fuel extractor start entries gone run stream)
    (somePending : stream.pending ≠ []) (wanted : Nat) :
    Drawn env fuel extractor start entries (gone ++ stream.pending.take wanted) run
      { stream with pending := stream.pending.drop wanted } where
  follows := drawn.follows.handOut wanted
  needed before last split := by
    rw [List.length_append]
    exact Nat.lt_add_right _ (drawn.needed before last split)
  inPlace := by
    rcases drawn.inPlace with inside | ⟨allGone, middle, gives, ends⟩
    · exact Or.inl inside
    · exact absurd (drawn.pending_of_ended fresh allGone gives ends) somePending

/-- The current line has bytes left, the next line is taken, or there is none.  A line that was
taken is needed as soon as a byte of it is handed out. -/
theorem drawn_refill (fresh : start.delivered = [])
    (renders : ∀ entry ∈ entries, ∃ rendered, extractor.render entry = .ok rendered)
    (gives : start.Gives env fuel entries later)
    (covers : (∃ last, later.Ends env fuel last) ∨ gone.length < (extractor.log entries).length)
    (drawn : Drawn env fuel extractor start entries gone run stream) :
    ∃ (reached : Run ω δ) (after : ByteStream δ) (events : List (Event δ)),
      reached.events = run.events ++ events
        ∧ (refill env fuel stream run.world = ⟨after, reached.world, events, .ok false⟩
            ∧ gone = extractor.log entries
            ∧ Drawn env fuel extractor start entries gone reached after
          ∨ refill env fuel stream run.world = ⟨after, reached.world, events, .ok true⟩
            ∧ after.pending ≠ []
            ∧ ∀ wanted, wanted ≠ 0 → Drawn env fuel extractor start entries
              (gone ++ after.pending.take wanted) reached
              { after with pending := after.pending.drop wanted }) := by
  by_cases pending : stream.pending = []
  case neg =>
    have kept : refill env fuel stream run.world = ⟨stream, run.world, [], .ok true⟩ := by
      simp [refill, pending]
    exact ⟨run, stream, [], by simp, Or.inr ⟨kept, pending, fun wanted _ =>
      drawn.handOut fresh pending wanted⟩⟩
  case pos =>
    have taking : refill env fuel stream run.world = takeLine env fuel stream run.world := by
      simp [refill, pending]
    have log_eq := drawn.follows.log_eq
    rw [pending, List.append_nil] at log_eq
    rw [taking]
    rcases drawn.inPlace with ⟨left, split, soFar⟩ | ⟨allGone, middle, givesAll, ends⟩
    · rw [← split] at gives
      obtain ⟨here, before, onward⟩ := Run.gives_append.mp gives
      cases before.unique soFar
      cases onward with
      | nothing =>
        -- all lines were taken, so the iterator has come to its end
        rw [List.append_nil] at split
        rw [split] at log_eq
        obtain ⟨last, ends⟩ := covers.resolve_right (by simp [log_eq])
        obtain ⟨events, taken, events_eq, followsOn⟩ := takeLine_of_ended drawn.follows ends
        refine ⟨last, _, events, events_eq, Or.inl ⟨taken, log_eq.symm, followsOn, ?_, Or.inr
          ⟨log_eq.symm, run, by rwa [← split], ends⟩⟩⟩
        rw [Run.delivered_of_pulled ends, Option.toList_none, List.append_nil]
        exact drawn.needed
      | @entry _ next _ entry rest pulled onward =>
        obtain ⟨rendered, rendering⟩ := renders entry (by simp [← split])
        obtain ⟨entered, events, taken, events_eq, newPending, followsOn⟩ :=
          takeLine_of_pulled drawn.follows pending pulled rendering
        have delivered : next.delivered = run.delivered ++ [entry] := Run.delivered_of_pulled pulled
        have someBytes : entered.pending ≠ [] := by simp [newPending]
        refine ⟨next, entered, events, events_eq, Or.inr ⟨taken, someBytes, fun wanted someWanted =>
          ⟨followsOn.handOut wanted, fun before last isLast => ?_, Or.inl ⟨rest, ?_, ?_⟩⟩⟩⟩
        · rw [delivered] at isLast
          obtain ⟨rfl, -⟩ := List.append_inj' isLast rfl
          rw [log_eq, List.length_append, List.length_take]
          have := List.length_pos_iff.mpr someBytes
          omega
        · rw [delivered, ← split, List.append_assoc, List.singleton_append]
        · rw [delivered]
          exact Run.gives_append.mpr ⟨run, soFar, .entry pulled .nothing⟩
    · obtain ⟨events, taken, events_eq, followsOn⟩ := takeLine_of_ended drawn.follows ends.again
      exact ⟨run, _, events, events_eq,
        Or.inl ⟨taken, allGone, followsOn, drawn.needed, drawn.inPlace⟩⟩

/-- An operation on a stream draws some bytes. -/
def Draws (env : Surroundings ω δ) (fuel : Nat) (extractor : Extractor) (start : Run ω δ)
    (entries : List Entry) (gone : Bytes) (run : Run ω δ) (result : Result ω δ Bytes)
    (bytes : Bytes) : Prop :=
  result.outcome = .ok bytes ∧ ∃ reached : Run ω δ, result.world = reached.world
    ∧ reached.events = run.events ++ result.events
    ∧ Drawn env fuel extractor start entries (gone ++ bytes) reached result.stream

/-- An operation that does nothing. -/
theorem Drawn.draws_nothing (drawn : Drawn env fuel extractor start entries gone run stream) :
    Draws env fuel extractor start entries gone run ⟨stream, run.world, [], .ok []⟩ [] :=
  ⟨rfl, run, rfl, by simp, by simpa using drawn⟩

/-- Bytes that were drawn before come first. -/
theorem Draws.after {first bytes : Bytes} {rest : Result ω δ Bytes} {events : List (Event δ)}
    (draws : Draws env fuel extractor start entries (gone ++ first) middle rest bytes)
    (events_eq : middle.events = run.events ++ events) :
    Draws env fuel extractor start entries gone run
      ⟨rest.stream, rest.world, events ++ rest.events, rest.outcome.map (first ++ ·)⟩
      (first ++ bytes) := by
  obtain ⟨outcome, reached, world_eq, more_eq, drawn⟩ := draws
  refine ⟨by simp [outcome, Except.map], reached, world_eq, ?_, ?_⟩
  · rw [more_eq, events_eq, List.append_assoc]
  · rwa [← List.append_assoc]

omit [WaitTime δ] in
/-- What comes after a part comes after its piece. -/
theorem append_drop_of_prefix {whole chunk : Bytes} (begins : gone ++ chunk <+: whole) :
    chunk ++ whole.drop (gone ++ chunk).length = whole.drop gone.length := by
  obtain ⟨rest, rfl⟩ := begins
  rw [List.drop_left, List.append_assoc, List.drop_left]

omit [WaitTime δ] in
/-- A piece can be taken in two parts. -/
theorem take_drop_of_prefix {whole chunk : Bytes} (begins : gone ++ chunk <+: whole)
    (short : chunk.length ≤ wanted) :
    chunk ++ (whole.drop (gone ++ chunk).length).take (wanted - chunk.length)
      = (whole.drop gone.length).take wanted := by
  rw [← append_drop_of_prefix begins, List.take_append, List.take_of_length_le short]

/-- Filling a place draws as many bytes as it has room for, or all that are left. -/
theorem draws_fill (fresh : start.delivered = [])
    (renders : ∀ entry ∈ entries, ∃ rendered, extractor.render entry = .ok rendered)
    (gives : start.Gives env fuel entries later) {lines : Nat} (enough : wanted ≤ lines)
    (covers : (∃ last, later.Ends env fuel last)
      ∨ gone.length + wanted ≤ (extractor.log entries).length)
    (drawn : Drawn env fuel extractor start entries gone run stream) :
    Draws env fuel extractor start entries gone run (fill env fuel lines wanted stream run.world)
      (((extractor.log entries).drop gone.length).take wanted) := by
  induction lines generalizing run stream gone wanted with
  | zero =>
    obtain rfl : wanted = 0 := by omega
    exact drawn.draws_nothing
  | succ lines inductionHypothesis =>
    unfold fill
    split
    · rename_i noneWanted
      subst noneWanted
      exact drawn.draws_nothing
    · rename_i someWanted
      obtain ⟨reached, after, events, events_eq, ⟨refilled, allGone, drawnOn⟩ |
        ⟨refilled, someBytes, drawnOn⟩⟩ :=
        drawn_refill fresh renders gives (covers.imp_right fun room => by omega) drawn
      · rw [refilled, allGone, List.drop_length, List.take_nil]
        exact ⟨rfl, reached, rfl, events_eq, by simpa [← allGone] using drawnOn⟩
      · simp only [refilled]
        replace drawnOn := drawnOn wanted someWanted
        have short : (after.pending.take wanted).length ≤ wanted := by simp
        have someTaken : 0 < (after.pending.take wanted).length := by
          rw [List.length_take]
          have := List.length_pos_iff.mpr someBytes
          omega
        generalize after.pending.take wanted = chunk at *
        have rest := inductionHypothesis (show wanted - chunk.length ≤ lines by omega)
          (covers.imp_right fun room => by
            rw [List.length_append]
            omega) drawnOn
        rw [← take_drop_of_prefix drawnOn.gone_prefix short]
        exact rest.after events_eq

/-- A read draws as many bytes as are wanted, or all that are left. -/
theorem draws_read (fresh : start.delivered = [])
    (renders : ∀ entry ∈ entries, ∃ rendered, extractor.render entry = .ok rendered)
    (gives : start.Gives env fuel entries later)
    (covers : (∃ last, later.Ends env fuel last)
      ∨ gone.length + wanted ≤ (extractor.log entries).length)
    (drawn : Drawn env fuel extractor start entries gone run stream) :
    Draws env fuel extractor start entries gone run (read env fuel wanted stream run.world)
      (((extractor.log entries).drop gone.length).take wanted) := by
  unfold read
  rw [drawn.follows.notClosed]
  exact draws_fill fresh renders gives (Nat.le_refl wanted) covers drawn

/-- Reading to the end draws all that is left. -/
theorem draws_readChunks (fresh : start.delivered = [])
    (renders : ∀ entry ∈ entries, ∃ rendered, extractor.render entry = .ok rendered)
    (gives : start.Gives env fuel entries later) (ends : later.Ends env fuel last) {chunks : Nat}
    (enough : (extractor.log entries).length < gone.length + chunks)
    (drawn : Drawn env fuel extractor start entries gone run stream) :
    Draws env fuel extractor start entries gone run (readChunks env fuel chunks stream run.world)
      ((extractor.log entries).drop gone.length) := by
  induction chunks generalizing run stream gone with
  | zero =>
    have := drawn.gone_prefix.length_le
    omega
  | succ chunks inductionHypothesis =>
    obtain ⟨outcome, reached, world_eq, events_eq, drawnOn⟩ :
        Draws env fuel extractor start entries gone run (read env fuel chunkSize stream run.world)
          (((extractor.log entries).drop gone.length).take chunkSize) :=
      draws_read fresh renders gives (Or.inl ⟨last, ends⟩) drawn
    unfold readChunks
    generalize read env fuel chunkSize stream run.world = chunk at *
    cases left : (extractor.log entries).drop gone.length with
    | nil =>
      rw [left] at outcome drawnOn
      simp only [List.take_nil] at outcome
      simp only [outcome]
      exact ⟨rfl, reached, world_eq, events_eq, drawnOn⟩
    | cons byte others =>
      obtain ⟨more, begins⟩ : ∃ more,
          ((extractor.log entries).drop gone.length).take chunkSize = byte :: more := by
        rw [left]
        exact ⟨_, rfl⟩
      rw [begins] at outcome drawnOn
      simp only [outcome, world_eq]
      have rest := inductionHypothesis (by simp; omega) drawnOn
      rw [← left, ← append_drop_of_prefix drawnOn.gone_prefix]
      exact rest.after events_eq

omit [WaitTime δ] in
/-- After a piece the rest is what comes after it. -/
theorem drop_take_length {whole : Bytes}
    (begins : gone ++ (whole.drop gone.length).take wanted <+: whole) :
    whole.drop (gone ++ (whole.drop gone.length).take wanted).length
      = (whole.drop gone.length).drop wanted := by
  have together := append_drop_of_prefix begins
  conv_rhs at together => rw [← List.take_append_drop wanted (whole.drop gone.length)]
  exact List.append_cancel_left together

/-- Answers to several demands draw some pieces. -/
def DrawsPieces (env : Surroundings ω δ) (fuel : Nat) (extractor : Extractor) (start : Run ω δ)
    (entries : List Entry) (gone : Bytes) (run : Run ω δ) (made : Pieces ω δ)
    (pieces : List Bytes) : Prop :=
  made.pieces.map (·.outcome) = pieces.map .ok ∧ ∃ reached : Run ω δ, made.world = reached.world
    ∧ reached.events = run.events ++ made.events
    ∧ Drawn env fuel extractor start entries (gone ++ pieces.flatten) reached made.stream

/-- The answer to a demand comes before the answers to later ones. -/
theorem Draws.cons {demand : Demand} {demands : List Demand} {bytes : Bytes} {pieces : List Bytes}
    (draws : Draws env fuel extractor start entries gone run
      (answer env fuel demand stream run.world) bytes)
    (onward : ∀ {middle : Run ω δ} {after : ByteStream δ},
      Drawn env fuel extractor start entries (gone ++ bytes) middle after →
        DrawsPieces env fuel extractor start entries (gone ++ bytes) middle
          (answers env fuel demands after middle.world) pieces) :
    DrawsPieces env fuel extractor start entries gone run
      (answers env fuel (demand :: demands) stream run.world) (bytes :: pieces) := by
  obtain ⟨outcome, middle, world_eq, events_eq, drawn⟩ := draws
  obtain ⟨outcomes, reached, reached_eq, more_eq, drawnOn⟩ := onward drawn
  rw [← world_eq] at outcomes reached_eq more_eq drawnOn
  simp only [answers, DrawsPieces, List.map_cons, outcome, outcomes, List.flatten_cons]
  refine ⟨trivial, reached, reached_eq, ?_, ?_⟩
  · rw [more_eq, events_eq, List.append_assoc]
  · rwa [← List.append_assoc]

/-- The answers to some demands are the log cut into pieces. -/
theorem draws_answers (fresh : start.delivered = [])
    (renders : ∀ entry ∈ entries, ∃ rendered, extractor.render entry = .ok rendered)
    (gives : start.Gives env fuel entries later)
    (enough : (extractor.log entries).length < fuel) (demands : List Demand)
    (covers : (∃ last, later.Ends env fuel last)
      ∨ ∃ count, asked demands = some count
        ∧ gone.length + count ≤ (extractor.log entries).length)
    (drawn : Drawn env fuel extractor start entries gone run stream) :
    DrawsPieces env fuel extractor start entries gone run
      (answers env fuel demands stream run.world)
      (cut demands ((extractor.log entries).drop gone.length)) := by
  induction demands generalizing run stream gone with
  | nil => exact ⟨rfl, run, rfl, by simp [answers], by simpa [cut, answers] using drawn⟩
  | cons demand rest inductionHypothesis =>
    cases demand with
    | upTo count =>
      have first : Draws env fuel extractor start entries gone run
          (answer env fuel (.upTo count) stream run.world)
          (((extractor.log entries).drop gone.length).take count) := by
        refine draws_read fresh renders gives (covers.imp_right ?_) drawn
        rintro ⟨total, isTotal, room⟩
        obtain ⟨later, -, rfl⟩ := Option.map_eq_some_iff.mp isTotal
        omega
      refine first.cons fun drawnOn => ?_
      rw [← drop_take_length drawnOn.gone_prefix]
      refine inductionHypothesis (covers.imp_right ?_) drawnOn
      rintro ⟨total, isTotal, room⟩
      obtain ⟨left, isLeft, rfl⟩ := Option.map_eq_some_iff.mp isTotal
      refine ⟨left, isLeft, ?_⟩
      rw [List.length_append, List.length_take]
      omega
    | all =>
      obtain ⟨last, ends⟩ := covers.resolve_right (by simp [asked])
      have first : Draws env fuel extractor start entries gone run
          (answer env fuel .all stream run.world) ((extractor.log entries).drop gone.length) :=
        draws_readChunks fresh renders gives ends (by omega) drawn
      refine first.cons fun drawnOn => ?_
      have allGone : (extractor.log entries).drop
          (gone ++ (extractor.log entries).drop gone.length).length = [] := by
        rw [List.drop_eq_nil_iff, List.length_append, List.length_drop]
        omega
      rw [← allGone]
      exact inductionHypothesis (Or.inl ⟨last, ends⟩) drawnOn

end Taking

/-! ## The fewest lines -/

section Fewest

variable {env : Surroundings ω δ} {fuel : Nat} {extractor : Extractor} {start run : Run ω δ}
  {entries : List Entry} {gone : Bytes} {stream : ByteStream δ} {demands : List Demand}

/-- The lines that were taken are the first ones. -/
theorem Drawn.delivered_prefix (fresh : start.delivered = [])
    (drawn : Drawn env fuel extractor start entries gone run stream) :
    run.delivered <+: entries := by
  rcases drawn.inPlace with ⟨left, split, -⟩ | ⟨-, middle, gives, ends⟩
  · exact ⟨left, split⟩
  · rw [Run.delivered_of_pulled ends, gives.delivered_eq, fresh]
    simp

omit [WaitTime δ] in
theorem length_lines
    (renders : ∀ entry ∈ entries, ∃ rendered, extractor.render entry = .ok rendered) :
    (extractor.lines entries).length = entries.length := by
  have nonempty : ∀ line ∈ entries.map extractor.lineBytes, (!line.isEmpty) = true := by
    intro line among
    obtain ⟨entry, present, rfl⟩ := List.mem_map.mp among
    obtain ⟨rendered, rendering⟩ := renders entry present
    simp [Extractor.lineBytes, rendering]
  rw [Extractor.lines, List.filter_eq_self.mpr nonempty, List.length_map]

omit [WaitTime δ] in
theorem eq_nil_of_log_eq_nil
    (renders : ∀ entry ∈ entries, ∃ rendered, extractor.render entry = .ok rendered)
    (nothing : extractor.log entries = []) : entries = [] := by
  cases entries with
  | nil => rfl
  | cons entry rest =>
    obtain ⟨rendered, rendering⟩ := renders entry List.mem_cons_self
    simp [Extractor.log, Extractor.lineBytes, rendering] at nothing

/-- No fewer lines have the bytes that have gone. -/
theorem Drawn.isLeast (fresh : start.delivered = [])
    (renders : ∀ entry ∈ entries, ∃ rendered, extractor.render entry = .ok rendered)
    (drawn : Drawn env fuel extractor start entries gone run stream) :
    run.delivered = entries.take stream.lines ∧
      IsLeast {count | gone.length ≤ (extractor.log (entries.take count)).length} stream.lines := by
  have begins := drawn.delivered_prefix fresh
  have lines_eq : stream.lines = run.delivered.length := by
    rw [drawn.follows.lines_eq, length_lines fun entry among => renders entry (begins.subset among)]
  have taken : run.delivered = entries.take stream.lines := by
    rw [lines_eq]
    exact List.prefix_iff_eq_take.mp begins
  refine ⟨taken, ?_, fun count enough => ?_⟩
  · rw [Set.mem_ofPred_eq, ← taken, drawn.follows.log_eq, List.length_append]
    exact Nat.le_add_right _ _
  · by_contra fewer
    obtain ⟨before, last, split⟩ : ∃ before last, run.delivered = before ++ [last] := by
      rcases List.eq_nil_or_concat run.delivered with nothing | ⟨before, last, split⟩
      · simp [lines_eq, nothing] at fewer
      · exact ⟨before, last, by rw [split, List.concat_eq_append]⟩
    have inside : entries.take count <+: before := by
      have isBefore : before = entries.take (stream.lines - 1) := by
        rw [lines_eq, split, List.length_append, List.length_singleton, Nat.add_sub_cancel]
        exact List.prefix_iff_eq_take.mp ((split ▸ List.prefix_append before [last]).trans begins)
      rw [isBefore]
      exact List.take_prefix_take_left (by omega)
    have := drawn.needed before last split
    have : (extractor.log (entries.take count)).length ≤ (extractor.log before).length :=
      (Extractor.log_prefix inside).length_le
    rw [Set.mem_ofPred_eq] at enough
    omega

/-- If a piece is shorter than what was asked for, the pieces are all that there is, and less than
was asked for. -/
theorem flatten_cut_of_short {bytes piece : Bytes} {count : Nat}
    (among : (Demand.upTo count, piece) ∈ demands.zip (cut demands bytes))
    (short : piece.length < count) :
    (cut demands bytes).flatten = bytes
      ∧ ∀ total, asked demands = some total → bytes.length < total := by
  induction demands generalizing bytes with
  | nil => simp at among
  | cons demand rest inductionHypothesis =>
    cases demand with
    | upTo wanted =>
      simp only [cut, List.zip_cons_cons, List.mem_cons, List.flatten_cons, asked,
        Option.map_eq_some_iff] at among ⊢
      rcases among with here | later
      · obtain ⟨⟨⟩, rfl⟩ := Prod.mk.inj here
        have few : bytes.length < count := by
          rw [List.length_take] at short
          omega
        have nothing : (cut rest (bytes.drop count)).flatten = [] := by
          rw [List.drop_eq_nil_of_le few.le]
          exact List.prefix_nil.mp (prefix_flatten_cut rest [])
        rw [nothing, List.append_nil, List.take_of_length_le few.le]
        refine ⟨rfl, ?_⟩
        rintro total ⟨left, -, rfl⟩
        omega
      · obtain ⟨whole, more⟩ := inductionHypothesis later
        rw [whole, List.take_append_drop]
        refine ⟨rfl, ?_⟩
        rintro total ⟨left, isLeft, rfl⟩
        have := more left isLeft
        rw [List.length_drop] at this
        omega
    | all =>
      have nothing : (cut rest []).flatten = [] :=
        List.prefix_nil.mp (prefix_flatten_cut rest [])
      simp [cut, asked, nothing]

end Fewest

/-! ## Reading in pieces -/

/-- Some entries that a run hands out have all bytes that are asked for, or there are no others. -/
def Suffices (env : Surroundings ω δ) (extractor : Extractor) (start : Run ω δ)
    (demands : List Demand) (entries : List Entry) : Prop :=
  ∃ fuel later, start.Gives env fuel entries later ∧ ((∃ last, later.Ends env fuel last)
    ∨ ∃ count, asked demands = some count ∧ count ≤ (extractor.log entries).length)

/-- The extractor renders all entries that a run hands out. -/
def Renders (env : Surroundings ω δ) (extractor : Extractor) (start : Run ω δ) : Prop :=
  ∀ fuel entries later, start.Gives env fuel entries later →
    ∀ entry ∈ entries, ∃ rendered, extractor.render entry = .ok rendered

/-- The run comes to its end. -/
def Finite (env : Surroundings ω δ) (start : Run ω δ) : Prop :=
  ∃ fuel entries later last, start.Gives env fuel entries later ∧ later.Ends env fuel last

/-- What was read stands where a run stands. -/
structure Pieces.StandsAt (made : Pieces ω δ) (run : Run ω δ) : Prop where
  iterator_eq : made.stream.iterator = run.iterator
  world_eq : made.world = run.world
  events_eq : made.events = run.events

section Reading

variable {env : Surroundings ω δ} {extractor : Extractor} {start : Run ω δ} {demands : List Demand}

theorem mem_all_of_asked (unlimited : asked demands = none) : Demand.all ∈ demands := by
  induction demands with
  | nil => simp [asked] at unlimited
  | cons demand rest inductionHypothesis =>
    cases demand with
    | upTo count =>
      exact List.mem_cons_of_mem _ (inductionHypothesis (Option.map_eq_none_iff.mp unlimited))
    | all => exact List.mem_cons_self

/-- A run that does not fail hands out lines until there are enough bytes or no more lines. -/
theorem exists_gives (unfailing : start.Unfailing env) (renders : Renders env extractor start)
    (count : Nat) :
    ∃ fuel entries later, start.Gives env fuel entries later
      ∧ ((∃ last, later.Ends env fuel last) ∨ count ≤ (extractor.log entries).length) := by
  induction count with
  | zero => exact ⟨0, [], start, .nothing, Or.inr (Nat.zero_le _)⟩
  | succ count inductionHypothesis =>
    obtain ⟨fuel, entries, later, gives, ended | enough⟩ := inductionHypothesis
    · exact ⟨fuel, entries, later, gives, Or.inl ended⟩
    · obtain ⟨more, last, found, pulled⟩ := unfailing fuel entries later gives
      have sofar := gives.mono (Nat.le_max_left fuel more)
      have next := Run.pull_mono pulled (Nat.le_max_right fuel more)
      cases found with
      | none => exact ⟨_, entries, later, sofar, Or.inl ⟨last, next⟩⟩
      | some entry =>
        have onward := Run.gives_append.mpr ⟨later, sofar, .entry next .nothing⟩
        obtain ⟨rendered, rendering⟩ := renders _ _ _ onward entry (by simp)
        refine ⟨_, _, last, onward, Or.inr ?_⟩
        have whole : (extractor.log (entries ++ [entry])).length
            = (extractor.log entries).length + (rendered.length + 1) := by
          simp [Extractor.log, Extractor.lineBytes, rendering]
        omega

theorem exists_suffices (unfailing : start.Unfailing env) (renders : Renders env extractor start)
    (finite : Demand.all ∈ demands → Finite env start) :
    ∃ entries, Suffices env extractor start demands entries := by
  cases isTotal : asked demands with
  | none =>
    obtain ⟨fuel, entries, later, last, gives, ends⟩ := finite (mem_all_of_asked isTotal)
    exact ⟨entries, fuel, later, gives, Or.inl ⟨last, ends⟩⟩
  | some total =>
    obtain ⟨fuel, entries, later, gives, covers⟩ := exists_gives unfailing renders total
    exact ⟨entries, fuel, later, gives, covers.imp_right fun room => ⟨total, isTotal, room⟩⟩

/-- Whatever a reader asks for, the answers are the log cut into pieces.  The lines that were taken
are the fewest that have the bytes read, and nothing else was asked of the iterator but, after the
last byte, the end.  A piece that is too short means the end. -/
theorem reads_in_pieces (iterator : Iterator δ) (world : ω)
    (unfailing : (Run.start iterator world).Unfailing env)
    (renders : Renders env extractor (Run.start iterator world)) (demands : List Demand)
    (finite : Demand.all ∈ demands → Finite env (Run.start iterator world)) :
    (∃ entries, Suffices env extractor (Run.start iterator world) demands entries)
      ∧ ∀ entries, Suffices env extractor (Run.start iterator world) demands entries →
        ∃ enough, ∀ fuel, enough ≤ fuel →
          let log := extractor.log entries
          let made := answers env fuel demands (ByteStream.start iterator extractor) world
          ∃ (count : Nat) (middle : Run ω δ),
            made.pieces.map (·.outcome) = (cut demands log).map .ok
              ∧ made.stream.bytesRead = count ∧ (cut demands log).flatten = log.take count
              ∧ IsLeast {lines | count ≤ (extractor.log (entries.take lines)).length}
                made.stream.lines
              ∧ (Run.start iterator world).Gives env fuel (entries.take made.stream.lines) middle
              ∧ (made.StandsAt middle
                ∨ count = log.length ∧ ∃ last, middle.Ends env fuel last ∧ made.StandsAt last)
              ∧ ∀ wanted piece, (Demand.upTo wanted, piece) ∈ demands.zip (cut demands log) →
                piece.length < wanted →
                  count = log.length ∧ ∃ last, middle.Ends env fuel last := by
  refine ⟨exists_suffices unfailing renders finite, fun entries sufficient => ?_⟩
  obtain ⟨some, later, givesSome, covers⟩ := sufficient
  refine ⟨max some ((extractor.log entries).length + 1), fun fuel enough => ?_⟩
  intro log made
  have gives := givesSome.mono ((Nat.le_max_left _ _).trans enough)
  have coversAll : (∃ last, later.Ends env fuel last) ∨ ∃ count, asked demands = .some count
      ∧ ([] : Bytes).length + count ≤ (extractor.log entries).length := by
    refine covers.imp (fun ended => ?_) fun room => ?_
    · exact ended.imp fun last ends => ends.mono ((Nat.le_max_left _ _).trans enough)
    · simpa using room
  have rendersAll := renders _ _ _ gives
  have drawnAtFirst : Drawn env fuel extractor (Run.start iterator world) entries []
      (Run.start iterator world) (ByteStream.start iterator extractor) :=
    ⟨follows_start iterator world, by simp [Run.start], Or.inl ⟨entries, rfl, .nothing⟩⟩
  obtain ⟨outcomes, reached, world_eq, events_eq, drawn⟩ :
      DrawsPieces env fuel extractor (Run.start iterator world) entries []
        (Run.start iterator world) made (cut demands log) :=
    draws_answers rfl rendersAll gives
      (by have := (Nat.le_max_right some _).trans enough; omega) demands coversAll drawnAtFirst
  rw [List.nil_append] at drawn
  obtain ⟨delivered, least⟩ := drawn.isLeast rfl rendersAll
  have stands : made.StandsAt reached := ⟨drawn.follows.iterator_eq, world_eq, events_eq.symm⟩
  have isStart : (cut demands log).flatten = log.take (cut demands log).flatten.length :=
    List.prefix_iff_eq_take.mp (prefix_flatten_cut demands log)
  have allRead {wanted : Nat} {piece : Bytes}
      (among : (Demand.upTo wanted, piece) ∈ demands.zip (cut demands log))
      (short : piece.length < wanted) :
      (cut demands log).flatten = log ∧ ∃ last, later.Ends env fuel last := by
    obtain ⟨whole, tooFew⟩ := flatten_cut_of_short among short
    refine ⟨whole, coversAll.resolve_right ?_⟩
    rintro ⟨total, isTotal, room⟩
    have := tooFew total isTotal
    simp only [log, List.length_nil] at this room
    omega
  rcases drawn.inPlace with ⟨left, split, soFar⟩ | ⟨allGone, middle, givesAll, ends⟩
  · refine ⟨_, reached, outcomes, drawn.follows.bytesRead_eq, isStart, least, by rwa [← delivered],
      Or.inl stands, fun wanted piece among short => ?_⟩
    obtain ⟨whole, ended⟩ := allRead among short
    refine ⟨by rw [whole], ?_⟩
    -- no line is left, since all bytes were read
    have noneLeft : left = [] := by
      have lengths :
          log.length = (extractor.log reached.delivered ++ extractor.log left).length := by
        rw [← Extractor.log_append, split]
      rw [drawn.follows.log_eq, whole, List.length_append, List.length_append] at lengths
      refine eq_nil_of_log_eq_nil (fun entry among => rendersAll entry ?_)
        (List.length_eq_zero_iff.mp (by omega))
      rw [← split]
      exact List.mem_append_right _ among
    rw [noneLeft, List.append_nil] at split
    rw [split] at soFar
    rwa [soFar.unique gives]
  · have whole : entries.take made.stream.lines = entries := by
      rw [← delivered, Run.delivered_of_pulled ends, givesAll.delivered_eq]
      simp [Run.start]
    exact ⟨_, middle, outcomes, drawn.follows.bytesRead_eq, isStart, least, by rwa [whole],
      Or.inr ⟨by rw [allGone], reached, ends, stands⟩,
      fun wanted piece among short => ⟨by rw [allGone], reached, ends⟩⟩

end Reading

/-- Two pages with a line each; the second line is empty. -/
def twoPages : Script where
  readings := []
  deliveries := []
  batches := [(.ok ⟨[⟨1, 0, [0x61, 0x62], []⟩], some 1⟩, false),
    (.ok ⟨[⟨2, 0, [], []⟩], none⟩, false)]
  closeAtWait := none
  now := ⟨0, none⟩
  sent := []

/-- The two lines are cut into pieces, however large the pieces are. -/
theorem twoPages_in_pieces :
    ∃ iterator, Iterator.start (Scope.firstMicrosecond true) TailPolicy.standard = .ok iterator ∧
      let start := Run.start iterator twoPages
      let demands : List Demand := [.upTo 1, .upTo 0, .upTo 3, .all, .upTo 2]
      start.Unfailing Script.surroundings ∧ Renders Script.surroundings .plain start
        ∧ Finite Script.surroundings start
        ∧ ∃ enough, ∀ fuel, enough ≤ fuel →
          (answers Script.surroundings fuel demands (ByteStream.start iterator .plain)
              twoPages).pieces.map (·.outcome)
            = [.ok [0x61], .ok [], .ok [0x62, 0x0A, 0x0A], .ok [], .ok []] := by
  refine ⟨_, rfl, ?_⟩
  intro start demands
  let first := start.pull Script.surroundings 4
  let second := first.1.pull Script.surroundings 4
  have shows (run : Run Script Float) (line : Option Bytes)
      (shown : (run.pull Script.surroundings 4).2.map (Option.map Entry.line) = .ok line) :
      ∃ found, run.pull Script.surroundings 4 = ((run.pull Script.surroundings 4).1, .ok found)
        ∧ found.map Entry.line = line :=
    (map_eq_ok.mp shown).imp fun found => And.imp_left (Prod.ext rfl)
  obtain ⟨_, foundFirst, isFirst⟩ := shows start (some [0x61, 0x62]) (by decide +kernel)
  obtain ⟨_, foundSecond, isSecond⟩ := shows first.1 (some []) (by decide +kernel)
  obtain ⟨_, ends, isEnd⟩ := shows second.1 none (by decide +kernel)
  obtain ⟨entry, rfl, line⟩ := Option.map_eq_some_iff.mp isFirst
  obtain ⟨other, rfl, otherLine⟩ := Option.map_eq_some_iff.mp isSecond
  cases Option.map_eq_none_iff.mp isEnd
  have gives : start.Gives Script.surroundings 4 [entry, other] second.1 :=
    .entry foundFirst (.entry foundSecond .nothing)
  have log_eq : Extractor.plain.log [entry, other] = [0x61, 0x62, 0x0A, 0x0A] := by
    simp [Extractor.log, Extractor.lineBytes, line, otherLine, lineEnd]
  have unfailing := Run.unfailing_of_ends gives ends
  have renders : Renders Script.surroundings .plain start :=
    fun _ _ _ _ entry _ => ⟨entry.line, rfl⟩
  have finite : Finite Script.surroundings start := ⟨4, _, _, _, gives, ends⟩
  obtain ⟨-, pieces⟩ := reads_in_pieces _ twoPages unfailing renders demands fun _ => finite
  obtain ⟨enough, answered⟩ := pieces _ ⟨4, _, gives, Or.inl ⟨_, ends⟩⟩
  refine ⟨unfailing, renders, finite, enough, fun fuel isEnough => ?_⟩
  obtain ⟨_, _, outcomes, -⟩ := answered fuel isEnough
  rwa [log_eq] at outcomes

end ByteStream
end RunLog
