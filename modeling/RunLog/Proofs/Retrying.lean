import RunLog.Proofs.Numbering
import RunLog.Proofs.Reasking

/-!
# Retrying a query that failed

A consumer that is told of a failed query can call again.  Beside such a run stands another one in
which every query is tried again until it succeeds, and in which the calls that failed with a query
are left out.  The two runs hand out the same entries, and apart from the failed queries the same
happens in them.  A wait that fails is no query: it fails in both runs.

A run is behind another one if fetches lead to it, or a failed query is all that lies between them.
Such runs hand out the same entry next, with all that happens until then.  A call that fails with a
query leaves the run without it behind, and asking for the first page keeps a run behind, even if a
wait is put off.  A call that hands out an entry makes the two runs equal.
-/

namespace RunLog

/-- What asks for a page. -/
abbrev Querying (ω : Type) := Window → ω → (Except Failure Batch × Bool) × ω

namespace Surroundings

variable {ω δ : Type}

/-- A query that tries what the surroundings answer until it succeeds. -/
structure Persists (env : Surroundings ω δ) (query : Querying ω) : Prop where
  answered : ∀ window world batch closes later,
    env.query window world = ((.ok batch, closes), later) →
      query window world = ((.ok batch, closes), later)
  retried : ∀ window world failure closes later,
    env.query window world = ((.error failure, closes), later) →
      query window world = query window later

/-- What a query comes to that is tried again until it succeeds. -/
inductive Yields (env : Surroundings ω δ) (window : Window) :
    ω → (Except Failure Batch × Bool) × ω → Prop
  | answered {world later : ω} {batch : Batch} {closes : Bool}
      (answer : env.query window world = ((.ok batch, closes), later)) :
      Yields env window world ((.ok batch, closes), later)
  | retried {world later : ω} {failure : Failure} {closes : Bool}
      {reply : (Except Failure Batch × Bool) × ω}
      (answer : env.query window world = ((.error failure, closes), later))
      (yields : Yields env window later reply) : Yields env window world reply

/-- Any query can be tried until it succeeds; one that never does may come to anything. -/
theorem exists_persists (env : Surroundings ω δ) : ∃ query, env.Persists query := by
  have possible (world : ω) : Nonempty ((Except Failure Batch × Bool) × ω) :=
    ⟨((.error .unfinished, false), world)⟩
  let trying (window : Window) (world : ω) : (Except Failure Batch × Bool) × ω :=
    @Classical.epsilon _ (possible world) (env.Yields window world)
  refine ⟨trying, fun window world batch closes later answer => ?_,
    fun window world failure closes later answer => ?_⟩
  · have yields : env.Yields window world (trying window world) :=
      @Classical.epsilon_spec _ (env.Yields window world) ⟨_, .answered answer⟩
    generalize trying window world = reply at yields ⊢
    cases yields with
    | answered found => rw [← found, answer]
    | retried found => simp [answer] at found
  · have same : env.Yields window world = env.Yields window later := by
      ext reply
      refine ⟨fun yields => ?_, Yields.retried answer⟩
      cases yields with
      | answered found => simp [answer] at found
      | retried found yields =>
        rw [answer] at found
        cases found
        exact yields
    exact congrArg (@Classical.epsilon _ (possible world)) same

/-- Entries of a page have fingerprints, and a query that fails leaves the iterator open. -/
structure Orderly (env : Surroundings ω δ) : Prop where
  fingerprints : ∀ window world batch closes later,
    env.query window world = ((.ok batch, closes), later) →
      ∀ entry ∈ batch.entries, ∃ fingerprint, entry.fingerprint = .ok fingerprint
  staysOpen : ∀ window world failure closes later,
    env.query window world = ((.error failure, closes), later) → closes = false

end Surroundings

namespace Iterator

variable {ω δ : Type} [WaitTime δ] {env : Surroundings ω δ} {query : Querying ω}
  {iterator : Iterator δ} {world : ω}

/-! ## Fetches -/

/-- Of a window that is not used up a page is asked for. -/
theorem advanceWindow_inside (asked : Querying ω) (mayWait : Bool) {stop : Option Int}
    {windowStop : Int} (inside : iterator.cursor < windowStop) :
    advanceWindow { env with query := asked } mayWait stop windowStop iterator world
      = takeReply env mayWait stop windowStop iterator
        (asked ⟨iterator.cursor, windowStop⟩ world) := by
  rw [advanceWindow, if_neg (Int.not_le.mpr inside)]
  rfl

/-- Of a window that is used up no page is asked for. -/
theorem advanceWindow_past (asked : Querying ω) (mayWait : Bool) {stop : Option Int}
    {windowStop : Int} (past : windowStop ≤ iterator.cursor) :
    advanceWindow { env with query := asked } mayWait stop windowStop iterator world
      = finishWindow env mayWait stop windowStop iterator world := by
  rw [advanceWindow, if_pos past]
  rfl

/-- A fetch that comes to its end, by itself or at a wait that fails, and does so in the same way
when queries persist. -/
structure Completes (env : Surroundings ω δ) (query : Querying ω) (mayWait : Bool)
    (iterator : Iterator δ) (world : ω) : Prop where
  failsInWait : (fetch env mayWait iterator world).FailsInWait
  same : fetch { env with query } mayWait iterator world = fetch env mayWait iterator world
  quiet : answered (fetch env mayWait iterator world).events
    = (fetch env mayWait iterator world).events

/-- A fetch that fails with something else than a wait.  The same question is asked again after it,
and where queries persist the outcome is the same as without the failure. -/
structure Breaks (env : Surroundings ω δ) (query : Querying ω) (mayWait : Bool)
    (iterator : Iterator δ) (world : ω) : Prop where
  failed : (fetch env mayWait iterator world).failure.isSome = true
  noneFailed : waitFailed (fetch env mayWait iterator world).events = false
  stillHungry : ¬NeedsNoFetch (fetch env mayWait iterator world).iterator
  again : ∀ waits, fetch { env with query } waits iterator world
    = (fetch { env with query } waits (fetch env mayWait iterator world).iterator
        (fetch env mayWait iterator world).world).after
          (answered (fetch env mayWait iterator world).events)

/-- A fetch breaks if its query fails: the question is asked again in a world in which it has
failed. -/
theorem breaks_of_failed (persists : env.Persists query) {mayWait : Bool} {asking : Iterator δ}
    {stop : Option Int} {windowStop : Int} {later after : ω} {events : List (Event δ)}
    {failure : Failure} (asks : Hungry asking stop) (opened : asking.windowStop = some windowStop)
    (inside : asking.cursor < windowStop) (quiet : Unfailing events)
    (eq : ∀ query mayWait, fetch { env with query } mayWait iterator world
      = (advanceWindow { env with query } mayWait stop windowStop asking later).after events)
    (reply : env.query ⟨asking.cursor, windowStop⟩ later = ((.error failure, false), after)) :
    Breaks env query mayWait iterator world := by
  have broken : fetch env mayWait iterator world
      = ⟨asking, after, events ++ [.queried ⟨asking.cursor, windowStop⟩ (.error failure)],
        some failure⟩ := by
    have real : fetch env mayWait iterator world = _ := eq env.query mayWait
    rw [real, advanceWindow_inside _ _ inside, reply]
    rfl
  have quietBreak : answered
      (events ++ [Event.queried ⟨asking.cursor, windowStop⟩ (.error failure)]) = events := by
    rw [answered_append, quiet.answered]
    simp [answered, Event.isFailedQuery]
  have again (waits : Bool) : fetch { env with query } waits asking after
      = takeReply env waits stop windowStop asking
        (query ⟨asking.cursor, windowStop⟩ after) := by
    rw [fetch_of_hungry waits asks opened, advanceWindow_inside _ _ inside]
  refine ⟨by rw [broken]; rfl, ?_, ?_, fun waits => ?_⟩
  · rw [broken, waitFailed_append, quiet.waited]
    rfl
  · rw [broken]
    exact not_needsNoFetch.mpr ⟨asks.notClosed, asks.nothingReady, asks.notExhausted⟩
  · rw [broken, eq query waits, advanceWindow_inside _ _ inside,
      persists.retried _ _ _ _ _ reply, ← again, quietBreak]

/-- Where entries have fingerprints a fetch comes to its end or breaks at a query. -/
theorem completes_or_breaks (persists : env.Persists query) (orderly : env.Orderly) (mayWait : Bool)
    (world : ω) (hungry : ¬NeedsNoFetch iterator) :
    Completes env query mayWait iterator world ∨ Breaks env query mayWait iterator world := by
  obtain ⟨notClosed, nothingReady, notExhausted⟩ := not_needsNoFetch.mp hungry
  cases stopNanos : iterator.scope.stopNanos with
  | error fault =>
    have real : fetch env mayWait iterator world = ⟨iterator, world, [], some fault⟩ := by
      simp [fetch, stopNanos]
    exact Or.inr ⟨by rw [real]; rfl, by rw [real]; rfl, by rwa [real], fun _ => by rw [real]; rfl⟩
  | ok stop =>
    rcases fetch_cases env world ⟨notClosed, notExhausted, stopNanos⟩ nothingReady with
      ⟨step, -, failsInWait, quiet, eq⟩ |
      ⟨asking, windowStop, later, events, asks, opened, quiet, eq⟩
    · have real : fetch env mayWait iterator world = step := eq env.query mayWait
      exact Or.inl ⟨real ▸ failsInWait, real ▸ eq query mayWait, by rw [real, quiet]⟩
    · have real : fetch env mayWait iterator world = _ := eq env.query mayWait
      rcases Int.lt_or_le asking.cursor windowStop with inside | past
      · rw [advanceWindow_inside _ _ inside] at real
        rcases reply : env.query ⟨asking.cursor, windowStop⟩ later
          with ⟨⟨fault | batch, closes⟩, after⟩
        · cases orderly.staysOpen _ _ _ _ _ reply
          exact Or.inr (breaks_of_failed persists asks opened inside quiet eq reply)
        · have failsInWait : (takeReply env mayWait stop windowStop asking
              ((.ok batch, closes), after)).FailsInWait :=
            failsInWait_takeReply mayWait asks.notClosed
              (orderly.fingerprints _ _ _ _ _ reply)
          rw [reply] at real
          refine Or.inl ⟨real ▸ failsInWait.after quiet.waited, ?_, ?_⟩
          · rw [real, eq query mayWait, advanceWindow_inside _ _ inside,
              persists.answered _ _ _ _ _ reply]
          · rw [real, Step.after, answered_append, quiet.answered, answered_takeReply]
      · rw [advanceWindow_past _ _ past] at real
        refine Or.inl ⟨real ▸ (failsInWait_finishWindow mayWait asks.notClosed).after quiet.waited,
          ?_, ?_⟩
        · rw [real, eq query mayWait, advanceWindow_past _ _ past]
        · rw [real, Step.after, answered_append, quiet.answered, answered_finishWindow]

/-- A fetch that puts a wait off differs from one that waits in nothing but the wait. -/
theorem putOff_fetch (env : Surroundings ω δ) (world : ω) {stop : Option Int}
    (stopNanos : iterator.scope.stopNanos = .ok stop) (hungry : ¬NeedsNoFetch iterator) :
    PutOff env stop (fetch env false iterator world) (fetch env true iterator world) := by
  obtain ⟨notClosed, nothingReady, notExhausted⟩ := not_needsNoFetch.mp hungry
  rcases fetch_cases env world ⟨notClosed, notExhausted, stopNanos⟩ nothingReady
    with ⟨step, -, -, -, eq⟩ | ⟨asking, windowStop, later, events, asks, -, -, eq⟩
  · rw [show fetch env false iterator world = step from eq env.query false,
      show fetch env true iterator world = step from eq env.query true]
    exact PutOff.same step
  · rw [show fetch env false iterator world = _ from eq env.query false,
      show fetch env true iterator world = _ from eq env.query true]
    exact (putOff_advanceWindow asks).after events

/-! ## Asking for the next entry -/

/-- Without a fetch the next entry depends on the iterator alone. -/
theorem next_of_needsNoFetch (ω : Type) (needsNoFetch : NeedsNoFetch iterator) :
    ∃ (later : Iterator δ) (found : Option Entry), ∀ (env : Surroundings ω δ) (fuel : Nat)
      (world : ω), next env fuel iterator world = ⟨later, world, [], .ok found⟩ := by
  cases closed : iterator.closed with
  | true => exact ⟨iterator, none, fun env fuel world => next_closed env fuel iterator world closed⟩
  | false =>
    cases ready : iterator.ready with
    | cons entry rest => exact ⟨_, _, fun env fuel world => next_ready env fuel closed ready⟩
    | nil =>
      have exhausted : iterator.exhausted = true := by
        simpa [NeedsNoFetch, closed, ready] using needsNoFetch
      exact ⟨_, _, fun env fuel world => next_exhausted env fuel closed ready exhausted⟩

namespace Run

/-- Ask for the next entry: the run afterwards, and what came of it. -/
def pull (env : Surroundings ω δ) (fuel : Nat) (run : Run ω δ) :
    Run ω δ × Except Failure (Option Entry) :=
  let pull := next env fuel run.iterator run.world
  (run.afterPull pull, pull.outcome)

/-- A run without the queries that failed. -/
def answered (run : Run ω δ) : Run ω δ :=
  { run with events := Iterator.answered run.events }

variable {run first second third : Run ω δ} {fuel : Nat}

omit [WaitTime δ] in
theorem answered_after (run : Run ω δ) (step : Step ω δ) :
    (run.after step).answered
      = run.answered.after { step with events := Iterator.answered step.events } := by
  simp [answered, after, advance]

theorem pull_of_needsNoFetch (needsNoFetch : NeedsNoFetch run.iterator) :
    ∃ (later : Run ω δ) (found : Option Entry),
      (∀ env fuel, run.pull env fuel = (later, .ok found))
        ∧ ∀ env fuel, run.answered.pull env fuel = (later.answered, .ok found) := by
  obtain ⟨iterator, found, eq⟩ := next_of_needsNoFetch ω needsNoFetch
  refine ⟨run.afterPull ⟨iterator, run.world, [], .ok found⟩, found, fun env fuel => ?_,
    fun env fuel => ?_⟩
  · simp only [pull, eq]
  · simp only [pull, answered, eq]
    simp [afterPull, advance]

/-- What comes of asking for the next entry after a fetch. -/
def goOn (env : Surroundings ω δ) (fuel : Nat) (run : Run ω δ) (step : Step ω δ) :
    Run ω δ × Except Failure (Option Entry) :=
  match step.failure with
  | some failure => (run.after step, .error failure)
  | none => (run.after step).pull env fuel

theorem goOn_after (first second : Step ω δ) :
    (run.after first).goOn env fuel second = run.goOn env fuel (second.after first.events) := by
  simp only [goOn, after_after, Step.failure_after]

theorem pull_succ (hungry : ¬NeedsNoFetch run.iterator) :
    run.pull env (fuel + 1) = run.goOn env fuel (fetch env true run.iterator run.world) := by
  obtain ⟨notClosed, nothingReady, notExhausted⟩ := not_needsNoFetch.mp hungry
  cases failed : (fetch env true run.iterator run.world).failure with
  | some failure =>
    simp only [pull, next_failed env fuel notClosed nothingReady notExhausted failed, goOn, failed]
    simp [afterPull, after, advance, Except.toOption]
  | none =>
    simp only [pull, next_fetched env fuel notClosed nothingReady notExhausted failed, goOn, failed]
    simp [afterPull, after, advance]

theorem pull_zero (hungry : ¬NeedsNoFetch run.iterator) :
    run.pull env 0 = (run, .error .unfinished) := by
  obtain ⟨notClosed, nothingReady, notExhausted⟩ := not_needsNoFetch.mp hungry
  simp only [pull, next_zero env notClosed nothingReady notExhausted]
  simp [afterPull, advance, Except.toOption]

/-- What is found is found with more fetches as well. -/
theorem pull_mono {later : Run ω δ} {found : Option Entry}
    (pulled : run.pull env fuel = (later, .ok found)) {much : Nat} (enough : fuel ≤ much) :
    run.pull env much = (later, .ok found) := by
  induction fuel generalizing run much with
  | zero =>
    by_cases needsNoFetch : NeedsNoFetch run.iterator
    · obtain ⟨_, _, eq, -⟩ := pull_of_needsNoFetch needsNoFetch
      rw [eq env much, ← eq env 0, pulled]
    · simp [pull_zero needsNoFetch] at pulled
  | succ fuel inductionHypothesis =>
    by_cases needsNoFetch : NeedsNoFetch run.iterator
    · obtain ⟨_, _, eq, -⟩ := pull_of_needsNoFetch needsNoFetch
      rw [eq env much, ← eq env (fuel + 1), pulled]
    · obtain ⟨more, rfl⟩ : ∃ more, much = more + 1 := ⟨much - 1, by omega⟩
      rw [pull_succ needsNoFetch, goOn] at pulled ⊢
      cases failed : (fetch env true run.iterator run.world).failure with
      | some failure => simp [failed] at pulled
      | none =>
        simp only [failed] at pulled ⊢
        exact inductionHypothesis pulled (by omega)

/-- Whether a call comes to its end: it succeeds, or a wait fails in it. -/
def settles (env : Surroundings ω δ) (run : Run ω δ) : Call → Bool
  | .next fuel =>
    let pull := next env fuel run.iterator run.world
    pull.outcome.isOk || waitFailed pull.events
  | .prefetch =>
    let step := prefetch env run.iterator run.world
    step.failure.isNone || waitFailed step.events
  | .close => true

theorem settles_zero (hungry : ¬NeedsNoFetch run.iterator) :
    run.settles env (.next 0) = false := by
  obtain ⟨notClosed, nothingReady, notExhausted⟩ := not_needsNoFetch.mp hungry
  rw [settles, next_zero env notClosed nothingReady notExhausted]
  rfl

theorem settles_failed {failure : Failure} (hungry : ¬NeedsNoFetch run.iterator)
    (failed : (fetch env true run.iterator run.world).failure = some failure) :
    run.settles env (.next (fuel + 1))
      = waitFailed (fetch env true run.iterator run.world).events := by
  obtain ⟨notClosed, nothingReady, notExhausted⟩ := not_needsNoFetch.mp hungry
  simp only [settles, next_failed env fuel notClosed nothingReady notExhausted failed]
  rfl

theorem settles_fetched (hungry : ¬NeedsNoFetch run.iterator)
    (fetched : (fetch env true run.iterator run.world).failure = none)
    (noneFailed : waitFailed (fetch env true run.iterator run.world).events = false) :
    run.settles env (.next (fuel + 1))
      = (run.after (fetch env true run.iterator run.world)).settles env (.next fuel) := by
  obtain ⟨notClosed, nothingReady, notExhausted⟩ := not_needsNoFetch.mp hungry
  simp only [settles, next_fetched env fuel notClosed nothingReady notExhausted fetched,
    waitFailed_append, noneFailed, Bool.false_or]
  rfl

/-- A question that comes to its end comes to the same when queries persist, also with more
fetches. -/
theorem pull_answered (persists : env.Persists query) (orderly : env.Orderly)
    (settled : run.settles env (.next fuel) = true) {much : Nat} (enough : fuel ≤ much) :
    run.answered.pull { env with query } much
      = ((run.pull env fuel).1.answered, (run.pull env fuel).2) := by
  induction fuel generalizing run much with
  | zero =>
    by_cases needsNoFetch : NeedsNoFetch run.iterator
    · obtain ⟨_, _, eq, eqAnswered⟩ := pull_of_needsNoFetch needsNoFetch
      rw [eq, eqAnswered]
    · simp [settles_zero needsNoFetch] at settled
  | succ fuel inductionHypothesis =>
    by_cases needsNoFetch : NeedsNoFetch run.iterator
    · obtain ⟨_, _, eq, eqAnswered⟩ := pull_of_needsNoFetch needsNoFetch
      rw [eq, eqAnswered]
    · obtain ⟨more, rfl⟩ : ∃ more, much = more + 1 := ⟨much - 1, by omega⟩
      have hungry : ¬NeedsNoFetch run.answered.iterator := needsNoFetch
      rcases completes_or_breaks persists orderly true run.world needsNoFetch
        with completes | breaks
      · have same : fetch { env with query } true run.answered.iterator run.answered.world
            = fetch env true run.iterator run.world := completes.same
        have onward : run.answered.after (fetch env true run.iterator run.world)
            = (run.after (fetch env true run.iterator run.world)).answered := by
          rw [answered_after, completes.quiet]
        rw [pull_succ hungry, pull_succ needsNoFetch, same]
        cases failed : (fetch env true run.iterator run.world).failure with
        | some failure => simp only [goOn, failed, onward]
        | none =>
          have noneFailed : waitFailed (fetch env true run.iterator run.world).events = false := by
            rw [← completes.failsInWait.failed, failed, Option.isSome_none]
          rw [settles_fetched needsNoFetch failed noneFailed] at settled
          simp only [goOn, failed, onward]
          exact inductionHypothesis settled (by omega)
      · obtain ⟨failure, failed⟩ := Option.isSome_iff_exists.mp breaks.failed
        rw [settles_failed needsNoFetch failed, breaks.noneFailed] at settled
        simp at settled

/-! ## Runs that are behind others -/

/-- A step after which the next fetch is the same as without it. -/
theorem pull_skip {step : Step ω δ} (hungry : ¬NeedsNoFetch run.iterator)
    (stillHungry : ¬NeedsNoFetch step.iterator)
    (again : fetch env true run.iterator run.world
      = (fetch env true step.iterator step.world).after step.events) :
    run.pull env (fuel + 1) = (run.after step).pull env (fuel + 1) := by
  have hungryToo : ¬NeedsNoFetch (run.after step).iterator := stillHungry
  rw [pull_succ hungry, pull_succ hungryToo, again, ← goOn_after]
  rfl

/-- After a step that puts a wait off the next entry is the same, with all that happens until then,
as after the step that waits. -/
theorem goOn_of_putOff {stop : Option Int} {early late : Step ω δ}
    (putOff : PutOff env stop early late) :
    run.goOn env (fuel + 1) early = run.goOn env (fuel + 1) late := by
  cases putOff with
  | same => rfl
  | @wait iterator world events hungry =>
    let step : Step ω δ := ⟨{ iterator with waitDue := true }, world, events, none⟩
    let early : Run ω δ := run.after step
    have hungryEarly : ¬NeedsNoFetch early.iterator :=
      not_needsNoFetch.mpr ⟨hungry.notClosed, hungry.nothingReady, hungry.notExhausted⟩
    have due : fetch env true early.iterator early.world
        = (let waited := waitThenOpen env stop iterator world
          if waited.iterator.closed || waited.failure.isSome then waited
          else (fetch env true waited.iterator waited.world).after waited.events) :=
      fetch_of_due true hungry
    have stillHungry := hungry_waitThenOpen env world hungry.toActive hungry.nothingReady
      hungry.notDue
    have onward : run.goOn env (fuel + 1) ((waitThenOpen env stop iterator world).after events)
        = early.goOn env (fuel + 1) (waitThenOpen env stop iterator world) :=
      (goOn_after step _).symm
    change early.pull env (fuel + 1) = _
    rw [onward, pull_succ hungryEarly]
    generalize waitThenOpen env stop iterator world = waited at *
    cases failed : waited.failure with
    | some failure =>
      have cut : fetch env true early.iterator early.world = waited := by
        simpa [failed] using due
      simp only [cut, goOn, failed]
    | none =>
      have waits : early.goOn env (fuel + 1) waited
          = (early.after waited).pull env (fuel + 1) := by
        simp only [goOn, failed]
      rw [waits]
      cases closed : waited.iterator.closed with
      | true =>
        have cut : fetch env true early.iterator early.world = waited := by
          simpa [closed] using due
        have needsNoFetch : NeedsNoFetch (early.after waited).iterator := Or.inl closed
        obtain ⟨_, _, eq, -⟩ := pull_of_needsNoFetch needsNoFetch
        simp only [cut, goOn, failed, eq]
      | false =>
        have asks := stillHungry closed
        have hungryThen : ¬NeedsNoFetch (early.after waited).iterator :=
          not_needsNoFetch.mpr ⟨asks.notClosed, asks.nothingReady, asks.notExhausted⟩
        have twice : fetch env true early.iterator early.world
            = (fetch env true waited.iterator waited.world).after waited.events := by
          simpa [closed, failed] using due
        rw [twice, ← goOn_after, pull_succ hungryThen]
        rfl

/-- A fetch that does not wait changes nothing about the next entry, but that a fetch less is
needed. -/
theorem pull_fetch_false (hungry : ¬NeedsNoFetch run.iterator)
    (succeeded : (fetch env false run.iterator run.world).failure = none) :
    (run.after (fetch env false run.iterator run.world)).pull env (fuel + 1)
      = run.pull env (fuel + 2) := by
  cases stopNanos : run.iterator.scope.stopNanos with
  | error failure => simp [fetch, stopNanos] at succeeded
  | ok stop =>
    have onward : run.goOn env (fuel + 1) (fetch env false run.iterator run.world)
        = (run.after (fetch env false run.iterator run.world)).pull env (fuel + 1) := by
      simp only [goOn, succeeded]
    rw [← onward, goOn_of_putOff (putOff_fetch env run.world stopNanos hungry), pull_succ hungry]

/-- One run comes to another by a fetch, or by a step after which the next fetch is the same as
without it. -/
inductive Lags (env : Surroundings ω δ) : Run ω δ → Run ω δ → Prop
  | fetched {run : Run ω δ} (mayWait : Bool) (hungry : ¬NeedsNoFetch run.iterator)
      (succeeded : (fetch env mayWait run.iterator run.world).failure = none) :
      Lags env run (run.after (fetch env mayWait run.iterator run.world))
  | skipped {run : Run ω δ} {step : Step ω δ} (hungry : ¬NeedsNoFetch run.iterator)
      (stillHungry : ¬NeedsNoFetch step.iterator)
      (again : ∀ mayWait, fetch env mayWait run.iterator run.world
        = (fetch env mayWait step.iterator step.world).after step.events) :
      Lags env run (run.after step)

/-- One run comes to another by fetches and steps of no consequence. -/
def Behind (env : Surroundings ω δ) : Run ω δ → Run ω δ → Prop :=
  Relation.ReflTransGen (Lags env)

/-- A run that is behind another one is answered in the same way, with some more fetches. -/
theorem Behind.pull_eq (behind : Behind env first second) :
    ∃ extra, ∀ fuel, first.pull env (extra + fuel + 1) = second.pull env (fuel + 1) := by
  induction behind using Relation.ReflTransGen.head_induction_on with
  | refl => exact ⟨0, fun fuel => by rw [Nat.zero_add]⟩
  | head lags _ inductionHypothesis =>
    obtain ⟨extra, same⟩ := inductionHypothesis
    cases lags with
    | fetched mayWait hungry succeeded =>
      refine ⟨extra + 1, fun fuel => ?_⟩
      rw [← same fuel, Nat.add_right_comm extra 1 fuel]
      cases mayWait with
      | true => simp only [pull_succ hungry, goOn, succeeded]
      | false => exact (pull_fetch_false hungry succeeded).symm
    | skipped hungry stillHungry again =>
      exact ⟨extra, fun fuel => (pull_skip hungry stillHungry (again true)).trans (same fuel)⟩

/-- What a run comes to is come to by a run that is behind it without the failed queries. -/
theorem Behind.pull_answered (persists : env.Persists query) (orderly : env.Orderly)
    (behind : Behind { env with query } first run.answered)
    (settled : run.settles env (.next fuel) = true) :
    ∃ enough, ∀ much, enough ≤ much → first.pull { env with query } much
      = ((run.pull env fuel).1.answered, (run.pull env fuel).2) := by
  obtain ⟨extra, same⟩ := behind.pull_eq
  refine ⟨extra + fuel + 1, fun much enough => ?_⟩
  obtain ⟨more, rfl⟩ : ∃ more, much = extra + more + 1 := ⟨much - extra - 1, by omega⟩
  rw [same more]
  exact Run.pull_answered persists orderly settled (by omega)

/-! ## Calls -/

/-- A fetch that breaks is of no consequence when queries persist. -/
theorem behind_of_breaks {mayWait : Bool} (hungry : ¬NeedsNoFetch run.iterator)
    (breaks : Breaks env query mayWait run.iterator run.world) :
    Behind { env with query } run.answered
      (run.after (fetch env mayWait run.iterator run.world)).answered := by
  rw [answered_after]
  exact Relation.ReflTransGen.single (Lags.skipped hungry breaks.stillHungry breaks.again)

/-- Asking for an entry is of no consequence when queries persist, if it does not come to its
end. -/
theorem behind_next (persists : env.Persists query) (orderly : env.Orderly)
    (unsettled : run.settles env (.next fuel) = false) :
    Behind { env with query } run.answered (run.call env (.next fuel)).answered := by
  change Behind _ _ (run.pull env fuel).1.answered
  have needsFetch {run : Run ω δ} {fuel : Nat} (unsettled : run.settles env (.next fuel) = false) :
      ¬NeedsNoFetch run.iterator := by
    intro needsNoFetch
    obtain ⟨_, _, eq⟩ := next_of_needsNoFetch ω needsNoFetch
    simp [settles, eq, Except.isOk, Except.toBool] at unsettled
  induction fuel generalizing run with
  | zero =>
    rw [pull_zero (needsFetch unsettled)]
    exact Relation.ReflTransGen.refl
  | succ fuel inductionHypothesis =>
    have hungry := needsFetch unsettled
    rw [pull_succ hungry]
    rcases completes_or_breaks persists orderly true run.world hungry
      with completes | breaks
    · cases failed : (fetch env true run.iterator run.world).failure with
      | some failure =>
        rw [settles_failed hungry failed, ← completes.failsInWait.failed, failed] at unsettled
        simp at unsettled
      | none =>
        have noneFailed : waitFailed (fetch env true run.iterator run.world).events = false := by
          rw [← completes.failsInWait.failed, failed, Option.isSome_none]
        rw [settles_fetched hungry failed noneFailed] at unsettled
        have same : fetch { env with query } true run.answered.iterator run.answered.world
            = fetch env true run.iterator run.world := completes.same
        have fetched : Lags { env with query } run.answered
            (run.after (fetch env true run.iterator run.world)).answered := by
          rw [answered_after, completes.quiet, ← same]
          exact Lags.fetched true hungry (by rw [same, failed])
        simp only [goOn, failed]
        exact Relation.ReflTransGen.head fetched (inductionHypothesis unsettled)
    · obtain ⟨failure, failed⟩ := Option.isSome_iff_exists.mp breaks.failed
      simp only [goOn, failed]
      exact behind_of_breaks hungry breaks

theorem prefetch_of_needsNoFetch (needsNoFetch : NeedsNoFetch iterator) :
    prefetch env iterator world = ⟨iterator, world, [], none⟩ := by
  have skipped : (iterator.closed || iterator.exhausted || !iterator.ready.isEmpty) = true := by
    rcases needsNoFetch with closed | ready | exhausted
    · simp [closed]
    · simp [ready]
    · simp [exhausted]
  rw [prefetch, if_pos skipped]

theorem prefetch_of_hungry (hungry : ¬NeedsNoFetch iterator) :
    prefetch env iterator world = fetch env false iterator world := by
  obtain ⟨notClosed, nothingReady, notExhausted⟩ := not_needsNoFetch.mp hungry
  simp [prefetch, notClosed, nothingReady, notExhausted]

/-- Asking for the first page changes nothing about what comes next, but that a fetch less is
needed. -/
theorem pull_prefetch (env : Surroundings ω δ) (run : Run ω δ)
    (succeeded : (prefetch env run.iterator run.world).failure = none) (fuel : Nat) :
    (run.call env .prefetch).pull env (fuel + 1) = run.pull env (fuel + 2) := by
  change (run.after (prefetch env run.iterator run.world)).pull env (fuel + 1) = _
  by_cases needsNoFetch : NeedsNoFetch run.iterator
  · rw [prefetch_of_needsNoFetch needsNoFetch, after_silent]
    obtain ⟨_, _, eq, -⟩ := pull_of_needsNoFetch needsNoFetch
    rw [eq, eq]
  · rw [prefetch_of_hungry needsNoFetch] at succeeded ⊢
    exact pull_fetch_false needsNoFetch succeeded

theorem behind_prefetch
    (succeeded : (prefetch env run.iterator run.world).failure = none) :
    Behind env run (run.call env .prefetch) := by
  change Behind env run (run.after (prefetch env run.iterator run.world))
  by_cases needsNoFetch : NeedsNoFetch run.iterator
  · rw [prefetch_of_needsNoFetch needsNoFetch, after_silent]
    exact Relation.ReflTransGen.refl
  · rw [prefetch_of_hungry needsNoFetch] at succeeded ⊢
    exact Relation.ReflTransGen.single (Lags.fetched false needsNoFetch succeeded)

/-- A fetch that puts a wait off is behind one that waits. -/
theorem behind_fetch (hungry : ¬NeedsNoFetch run.iterator)
    (succeeded : (fetch env true run.iterator run.world).failure = none) :
    (fetch env false run.iterator run.world).failure = none
      ∧ Behind env (run.after (fetch env false run.iterator run.world))
          (run.after (fetch env true run.iterator run.world)) := by
  cases stopNanos : run.iterator.scope.stopNanos with
  | error failure => simp [fetch, stopNanos] at succeeded
  | ok stop =>
    have putOff := putOff_fetch env run.world stopNanos hungry
    generalize fetch env false run.iterator run.world = early at *
    generalize fetch env true run.iterator run.world = late at *
    cases putOff with
    | same => exact ⟨succeeded, Relation.ReflTransGen.refl⟩
    | @wait iterator world events asks =>
      refine ⟨rfl, Relation.ReflTransGen.single ?_⟩
      let step : Step ω δ := ⟨{ iterator with waitDue := true }, world, events, none⟩
      let early : Run ω δ := run.after step
      have hungryEarly : ¬NeedsNoFetch early.iterator :=
        not_needsNoFetch.mpr ⟨asks.notClosed, asks.nothingReady, asks.notExhausted⟩
      have due (mayWait : Bool) : fetch env mayWait early.iterator early.world
          = (let waited := waitThenOpen env stop iterator world
            if waited.iterator.closed || waited.failure.isSome then waited
            else (fetch env mayWait waited.iterator waited.world).after waited.events) :=
        fetch_of_due mayWait asks
      have stillHungry := hungry_waitThenOpen env world asks.toActive asks.nothingReady
        asks.notDue
      have waits : run.after ((waitThenOpen env stop iterator world).after events)
          = early.after (waitThenOpen env stop iterator world) := (after_after run step _).symm
      rw [Step.failure_after] at succeeded
      rw [waits]
      change Lags env early _
      generalize waitThenOpen env stop iterator world = waited at *
      cases closed : waited.iterator.closed with
      | true =>
        have cut : fetch env true early.iterator early.world = waited := by
          simpa [closed] using due true
        rw [← cut] at succeeded ⊢
        exact Lags.fetched true hungryEarly succeeded
      | false =>
        have asksThen := stillHungry closed
        refine Lags.skipped hungryEarly (not_needsNoFetch.mpr
          ⟨asksThen.notClosed, asksThen.nothingReady, asksThen.notExhausted⟩) fun mayWait => ?_
        simpa [closed, succeeded] using due mayWait

/-- Where asking for the first page succeeds, it does in a run that is behind, which stays so. -/
theorem Behind.prefetch (behind : Behind env first second)
    (succeeded : (prefetch env second.iterator second.world).failure = none) :
    Behind env (first.call env .prefetch) (second.call env .prefetch) := by
  induction behind using Relation.ReflTransGen.head_induction_on with
  | refl => exact Relation.ReflTransGen.refl
  | @head first third lags behind inductionHypothesis =>
    have onward : Behind env third (second.call env .prefetch) :=
      behind.trans (behind_prefetch succeeded)
    cases lags with
    | fetched mayWait hungry fetched =>
      have early : first.call env .prefetch
          = first.after (fetch env false first.iterator first.world) := by
        rw [Run.call, prefetch_of_hungry hungry]
      rw [early]
      cases mayWait with
      | false => exact onward
      | true => exact (behind_fetch hungry fetched).2.trans onward
    | @skipped step hungry stillHungry again =>
      have early : first.call env .prefetch = (first.after step).call env .prefetch := by
        have hungryToo : ¬NeedsNoFetch (first.after step).iterator := stillHungry
        rw [Run.call, Run.call, prefetch_of_hungry hungry, prefetch_of_hungry hungryToo, again,
          after_after]
        rfl
      rw [early]
      exact inductionHypothesis

/-- A first page that is asked for and comes is the same when queries persist. -/
theorem prefetch_answered (persists : env.Persists query) (orderly : env.Orderly)
    (succeeded : (prefetch env run.iterator run.world).failure = none) :
    (prefetch { env with query } run.answered.iterator run.answered.world).failure = none
      ∧ run.answered.call { env with query } .prefetch = (run.call env .prefetch).answered := by
  change (prefetch { env with query } run.iterator run.world).failure = none
    ∧ run.answered.after (prefetch { env with query } run.iterator run.world)
      = (run.after (prefetch env run.iterator run.world)).answered
  rw [answered_after]
  by_cases needsNoFetch : NeedsNoFetch run.iterator
  · rw [prefetch_of_needsNoFetch needsNoFetch, prefetch_of_needsNoFetch needsNoFetch]
    exact ⟨rfl, rfl⟩
  · rw [prefetch_of_hungry needsNoFetch] at succeeded
    rw [prefetch_of_hungry needsNoFetch, prefetch_of_hungry needsNoFetch]
    rcases completes_or_breaks persists orderly false run.world needsNoFetch
      with completes | breaks
    · rw [completes.same, completes.quiet]
      exact ⟨succeeded, rfl⟩
    · exact absurd breaks.failed (by simp [succeeded])

/-- Asking for the first page in vain is of no consequence when queries persist, unless a wait
fails. -/
theorem behind_prefetch_failed (persists : env.Persists query) (orderly : env.Orderly)
    (unsettled : run.settles env .prefetch = false) :
    Behind { env with query } run.answered (run.call env .prefetch).answered := by
  change Behind _ _ (run.after (prefetch env run.iterator run.world)).answered
  rw [settles] at unsettled
  by_cases needsNoFetch : NeedsNoFetch run.iterator
  · simp [prefetch_of_needsNoFetch needsNoFetch] at unsettled
  · rw [prefetch_of_hungry needsNoFetch] at unsettled ⊢
    rcases completes_or_breaks persists orderly false run.world needsNoFetch
      with completes | breaks
    · rw [← completes.failsInWait.failed] at unsettled
      cases failed : (fetch env false run.iterator run.world).failure <;> simp [failed] at unsettled
    · exact behind_of_breaks needsNoFetch breaks

/-- If a wait fails when the first page is asked for, it fails in the same way when the next entry
is. -/
theorem call_prefetch_eq_next {failure : Failure}
    (failed : (prefetch env run.iterator run.world).failure = some failure)
    (settled : run.settles env .prefetch = true) (fuel : Nat) :
    run.settles env (.next (fuel + 1)) = true
      ∧ run.call env .prefetch = run.call env (.next (fuel + 1)) := by
  rw [settles] at settled
  by_cases needsNoFetch : NeedsNoFetch run.iterator
  · simp [prefetch_of_needsNoFetch needsNoFetch] at failed
  · change _ ∧ run.after (prefetch env run.iterator run.world) = (run.pull env (fuel + 1)).1
    rw [prefetch_of_hungry needsNoFetch] at failed settled ⊢
    have same : fetch env false run.iterator run.world
        = fetch env true run.iterator run.world := by
      cases stopNanos : run.iterator.scope.stopNanos with
      | error fault => simp [fetch, stopNanos]
      | ok stop =>
        have putOff := putOff_fetch env run.world stopNanos needsNoFetch
        generalize fetch env false run.iterator run.world = early at *
        generalize fetch env true run.iterator run.world = late at *
        cases putOff with
        | same => rfl
        | wait => simp at failed
    rw [same] at failed settled ⊢
    rw [settles_failed needsNoFetch failed]
    refine ⟨by simpa [failed] using settled, ?_⟩
    simp only [pull_succ needsNoFetch, goOn, failed]

/-- The calls that come to their end, with another number of fetches.  Where a wait fails, whatever
was asked for is a question for the next entry. -/
def settled (env : Surroundings ω δ) (fuel : Nat) : Run ω δ → List Call → List Call
  | _, [] => []
  | run, call :: rest =>
    let later := settled env fuel (run.call env call) rest
    if run.settles env call then
      match call with
      | .close => .close :: later
      | .next _ => .next fuel :: later
      | .prefetch =>
        if (prefetch env run.iterator run.world).failure.isNone then .prefetch :: later
        else .next fuel :: later
    else later

theorem settled_of_unsettled {call : Call} (unsettled : run.settles env call = false) (much : Nat)
    (rest : List Call) :
    run.settled env much (call :: rest) = (run.call env call).settled env much rest := by
  simp [settled, unsettled]

/-- A call that does not come to its end is of no consequence when queries persist. -/
theorem behind_of_unsettled_call (persists : env.Persists query) (orderly : env.Orderly)
    {call : Call} (unsettled : run.settles env call = false) :
    Behind { env with query } run.answered (run.call env call).answered := by
  cases call with
  | close => simp [settles] at unsettled
  | prefetch => exact behind_prefetch_failed persists orderly unsettled
  | next fuel => exact behind_next persists orderly unsettled

/-- A run that is behind one without its failures is led to the same by the calls that come to their
end. -/
theorem pull_settled (persists : env.Persists query) (orderly : env.Orderly)
    {calls : List Call} (notClosing : .close ∉ calls) {twin : Run ω δ}
    (comesToEnd : (run.calls env calls).settles env (.next fuel) = true)
    (behind : Behind { env with query } twin run.answered) :
    ∃ enough, ∀ much, enough ≤ much →
      (twin.calls { env with query } (run.settled env much calls)).pull { env with query } much
        = (((run.calls env calls).pull env fuel).1.answered,
          ((run.calls env calls).pull env fuel).2) := by
  induction calls generalizing run twin with
  | nil => exact behind.pull_answered persists orderly comesToEnd
  | cons call rest inductionHypothesis =>
    rw [List.mem_cons, not_or] at notClosing
    -- a question for the next entry that comes to its end makes the two runs equal
    have asksNext {count : Nat} (settledHere : run.settles env (.next count) = true)
        (same : run.call env call = run.call env (.next count)) :
        ∃ enough, ∀ much, enough ≤ much →
          ((twin.call { env with query } (.next much)).calls { env with query }
              ((run.call env call).settled env much rest)).pull { env with query } much
            = (((run.calls env (call :: rest)).pull env fuel).1.answered,
              ((run.calls env (call :: rest)).pull env fuel).2) := by
      obtain ⟨enough, sameHere⟩ := behind.pull_answered persists orderly settledHere
      obtain ⟨enoughAfter, sameAfter⟩ := inductionHypothesis
        notClosing.2 comesToEnd Relation.ReflTransGen.refl
      refine ⟨max enough enoughAfter, fun much isEnough => ?_⟩
      have together : twin.call { env with query } (.next much)
          = (run.call env call).answered := by
        rw [same]
        exact congrArg Prod.fst (sameHere much (by omega))
      rw [together]
      exact sameAfter much (by omega)
    cases settledHere : run.settles env call with
    | false =>
      simp only [settled_of_unsettled settledHere]
      exact inductionHypothesis notClosing.2 comesToEnd
        (behind.trans (behind_of_unsettled_call persists orderly settledHere))
    | true =>
      cases call with
      | close => exact absurd rfl notClosing.1
      | next count =>
        obtain ⟨enough, same⟩ := asksNext settledHere rfl
        refine ⟨enough, fun much isEnough => ?_⟩
        rw [settled, if_pos settledHere, ← same much isEnough]
        rfl
      | prefetch =>
        cases failed : (prefetch env run.iterator run.world).failure with
        | some failure =>
          obtain ⟨settledNext, sameNext⟩ := call_prefetch_eq_next failed settledHere 0
          obtain ⟨enough, same⟩ := asksNext settledNext sameNext
          refine ⟨enough, fun much isEnough => ?_⟩
          rw [settled, if_pos settledHere, ← same much isEnough]
          simp [failed, Run.calls]
        | none =>
          obtain ⟨succeeded, sameCall⟩ := prefetch_answered persists orderly failed
          have onward := behind.prefetch succeeded
          rw [sameCall] at onward
          obtain ⟨enough, same⟩ := inductionHypothesis notClosing.2 comesToEnd onward
          refine ⟨enough, fun much isEnough => ?_⟩
          rw [settled, if_pos settledHere]
          simpa [failed, Run.calls] using same much isEnough

end Run

/-! ## Runs with failures and without -/

/-- A query that failed is asked again by the next fetch, for the same window.  Where queries are
tried until they succeed and the calls that failed with a query are left out, the same entries are
handed out, and apart from the failed queries the same happens on the way. -/
theorem failures_leave_no_trace (persists : env.Persists query) (orderly : env.Orderly)
    (iterator : Iterator δ) (world : ω) (calls : List Call) (notClosing : .close ∉ calls) :
    let start := Run.start iterator world
    let run := start.calls env calls
    run.events.IsChain AskedAgain
      ∧ (∀ window, EndsInFailure run.events window → run.iterator.closed = false →
        (∀ fuel, ∃ outcome rest,
          (next env (fuel + 1) run.iterator run.world).events = .queried window outcome :: rest)
        ∧ ∃ outcome rest,
          (prefetch env run.iterator run.world).events = .queried window outcome :: rest)
      ∧ ∀ fuel later outcome, run.pull env fuel = (later, outcome) →
        run.settles env (.next fuel) = true →
        ∃ enough, ∀ much, enough ≤ much →
          (start.calls { env with query } (start.settled env much calls)).pull
              { env with query } much
            = (later.answered, outcome) := by
  intro start run
  have persistent : Persistent .resting run := persistent_calls env world iterator calls
  refine ⟨persistent.askedAgain, fun window endsInFailure notClosed => ?_,
    fun fuel later outcome pulled settled => ?_⟩
  · have asking : Asking run.iterator window :=
      (persistent.asking window endsInFailure).2.resolve_left (by simp [notClosed])
    exact ⟨asking.next env run.world, asking.prefetch env run.world⟩
  · have nothingBehind : Run.Behind { env with query } start start.answered :=
      Relation.ReflTransGen.refl
    obtain ⟨enough, same⟩ := Run.pull_settled persists orderly notClosing settled nothingBehind
    refine ⟨enough, fun much isEnough => ?_⟩
    rw [same much isEnough, show (start.calls env calls).pull env fuel = _ from pulled]

/-- Every other query fails; the first one that does not fills a page, and the later ones end. -/
def everyOtherFails : Surroundings Nat Float where
  clock := fun asked => (0, asked)
  query := fun _ asked =>
    if asked % 2 = 0 then ((.error (.raised ⟨.unreachable, "down", none, []⟩), false), asked + 1)
    else if asked = 1 then ((.ok ⟨[⟨1, 0, [0x61], []⟩], some 1⟩, false), asked + 1)
    else ((.ok ⟨[⟨2, 0, [0x62], []⟩], none⟩, false), asked + 1)
  wait := fun _ _ asked => (.ok false, asked)

/-- A query that does not fail: each of these is the one after a failure. -/
def noneFails : Querying Nat := fun window asked =>
  everyOtherFails.query window (if asked % 2 = 0 then asked + 1 else asked)

theorem persists_noneFails : everyOtherFails.Persists noneFails where
  answered window asked batch closes later answer := by
    have odd : asked % 2 ≠ 0 := by
      intro even
      simp [everyOtherFails, even] at answer
    simp only [noneFails, if_neg odd, answer]
  retried window asked failure closes later answer := by
    have even : asked % 2 = 0 := by
      by_contra odd
      by_cases first : asked = 1 <;> simp [everyOtherFails, odd, first] at answer
    have next : later = asked + 1 := by
      simp [everyOtherFails, even] at answer
      exact answer.2.symm
    have odd : (asked + 1) % 2 ≠ 0 := by omega
    simp only [noneFails, if_pos even, if_neg odd, next]

theorem orderly_everyOtherFails : everyOtherFails.Orderly where
  fingerprints window asked batch closes later answer entry among := by
    have unlabelled : entry.labels = [] := by
      simp only [everyOtherFails] at answer
      split at answer
      · simp at answer
      · split at answer <;> cases answer <;> cases List.mem_singleton.mp among <;> rfl
    have encoded : Labels.encoded? [] = .ok [] := by cbv
    exact ⟨_, by rw [Entry.fingerprint, unlabelled, encoded]⟩
  staysOpen window asked failure closes later answer := by
    simp only [everyOtherFails] at answer
    split at answer
    · cases answer
      rfl
    · split at answer <;> cases answer

/-- Four calls of which two fail are like two calls of which none does. -/
theorem everyOtherFails_leaves_no_trace :
    ∃ iterator, Iterator.start (Scope.firstMicrosecond true) TailPolicy.standard = .ok iterator ∧
      let start : Run Nat Float := Run.start iterator 0
      let run := start.calls everyOtherFails [.prefetch, .next 3, .next 3]
      let later : Run Nat Float := (run.pull everyOtherFails 3).1
      later.delivered.map Entry.line = [[0x61], [0x62]]
        ∧ run.events.IsChain AskedAgain
        ∧ EndsInFailure run.events ⟨1, 1000⟩
        ∧ (∃ outcome rest, (next everyOtherFails 3 run.iterator run.world).events
          = .queried ⟨1, 1000⟩ outcome :: rest)
        ∧ ∃ enough, ∀ much, enough ≤ much →
          (start.calls { everyOtherFails with query := noneFails } [.next much]).pull
              { everyOtherFails with query := noneFails } much
            = (later.answered, (run.pull everyOtherFails 3).2) := by
  refine ⟨_, rfl, ?_⟩
  intro start run later
  have failsFirst : start.settles everyOtherFails .prefetch = false := by decide +kernel
  have succeedsThen :
      (start.call everyOtherFails .prefetch).settles everyOtherFails (.next 3) = true := by
    decide +kernel
  have failsAgain : ((start.call everyOtherFails .prefetch).call everyOtherFails (.next 3)).settles
      everyOtherFails (.next 3) = false := by
    decide +kernel
  have settled (much : Nat) :
      start.settled everyOtherFails much [.prefetch, .next 3, .next 3] = [.next much] := by
    simp [Run.settled, failsFirst, succeedsThen, failsAgain]
  have endsInFailure : EndsInFailure run.events ⟨1, 1000⟩ := by decide +kernel
  have notClosed : run.iterator.closed = false := by decide +kernel
  have settles : run.settles everyOtherFails (.next 3) = true := by decide +kernel
  obtain ⟨askedAgain, asksNext, sameLater⟩ := failures_leave_no_trace persists_noneFails
    orderly_everyOtherFails _ 0 [.prefetch, .next 3, .next 3] (by decide)
  obtain ⟨enough, same⟩ := sameLater 3 later (run.pull everyOtherFails 3).2 rfl settles
  refine ⟨by decide +kernel, askedAgain, endsInFailure,
    (asksNext _ endsInFailure notClosed).1 2, enough, fun much isEnough => ?_⟩
  have sameHere := same much isEnough
  rwa [settled much] at sameHere

end Iterator
end RunLog
