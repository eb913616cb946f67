import Mathlib.Data.Nat.Find
import Mathlib.Order.Bounds.Defs
import RunLog.Proofs.Closing
import RunLog.Proofs.Patience
import RunLog.Proofs.Requests

/-!
# Following a log without lines

A log that grows and never gets a line is followed until the waits add up to the patience of the
policy.  Settings are read from texts, and any decimals pass.  What decides is whether some number
of intervals, added up as doubles, reaches the patience: where one does, the iterator comes to its
end after the least such number of waits, and where none does, it asks and waits without end.

A host waits for a limited time.  An interval beyond that makes every wait fail, and so every call,
unless the patience is reached without a wait.
-/

namespace RunLog

/-- Surroundings that never answer with a line and never close the iterator, as long as the world
stays of some kind, which it does.  What comes of waits of an interval is always the same. -/
structure Surroundings.Barren {ω δ : Type} (env : Surroundings ω δ) (Kind : ω → Prop) (interval : δ)
    (outcome : Except Failure Bool) : Prop where
  clock : ∀ world, Kind world → Kind (env.clock world).2
  query : ∀ window world, Kind world →
    ∃ later, Kind later ∧ env.query window world = ((.ok ⟨[], none⟩, false), later)
  wait : ∀ number world, Kind world →
    ∃ later, Kind later ∧ env.wait number interval world = (outcome, later)

namespace Iterator

variable {ω δ : Type} [WaitTime δ] {policy : TailPolicy δ} {count : Nat} {iterator : Iterator δ}

/-- An iterator over a growing scope without an end that has seen no line and waited so often. -/
structure Watching (policy : TailPolicy δ) (count : Nat) (iterator : Iterator δ) : Prop extends
    Hungry iterator none where
  growing : iterator.scope.complete = false
  samePolicy : iterator.policy = policy
  nothingSeen : iterator.last = none
  foundNone : iterator.windowCount = 0
  elapsed : iterator.elapsed = policy.passed count

theorem Watching.withWindow (watching : Watching policy count iterator) (windowStop : Option Int) :
    Watching policy count { iterator with windowStop } :=
  ⟨⟨⟨watching.notClosed, watching.notExhausted, watching.stopNanos⟩, watching.nothingReady,
    watching.notDue⟩, watching.growing, watching.samePolicy, watching.nothingSeen,
    watching.foundNone, watching.elapsed⟩

/-- A wait that fails takes no time. -/
theorem Watching.countWait (watching : Watching policy count iterator) :
    Watching policy count iterator.countWait :=
  ⟨⟨⟨watching.notClosed, watching.notExhausted, watching.stopNanos⟩, watching.nothingReady,
    watching.notDue⟩, watching.growing, watching.samePolicy, watching.nothingSeen,
    watching.foundNone, watching.elapsed⟩

/-- What a fetch comes to without a line, with at most so many queries, where it is known what comes
of a wait: the end if the patience is reached, and a wait if it is not. -/
inductive Fruitless (policy : TailPolicy δ) (count queries : Nat) (Kind : ω → Prop) :
    Except Failure Bool → Step ω δ → Prop
  | ended {outcome : Except Failure Bool} {step : Step ω δ}
      (reached : WaitTime.reached policy.patience (policy.passed count) = true)
      (noFailure : step.failure = none) (notClosed : step.iterator.closed = false)
      (nothingReady : step.iterator.ready = []) (exhausted : step.iterator.exhausted = true)
      (noWait : waitCount step.events = 0) (few : (windowsAsked step.events).length ≤ queries) :
      Fruitless policy count queries Kind outcome step
  | waited {step : Step ω δ}
      (notReached : WaitTime.reached policy.patience (policy.passed count) = false)
      (noFailure : step.failure = none) (watching : Watching policy (count + 1) step.iterator)
      (kind : Kind step.world)
      (oneWait : waitCount step.events = 1) (few : (windowsAsked step.events).length ≤ queries) :
      Fruitless policy count queries Kind (.ok false) step
  | failed {failure : Failure} {step : Step ω δ}
      (notReached : WaitTime.reached policy.patience (policy.passed count) = false)
      (failed : step.failure = some failure) (watching : Watching policy count step.iterator)
      (kind : Kind step.world)
      (oneWait : waitCount step.events = 1) (few : (windowsAsked step.events).length ≤ queries) :
      Fruitless policy count queries Kind (.error failure) step

theorem Fruitless.after {queries : Nat} {Kind : ω → Prop} {outcome : Except Failure Bool}
    {step : Step ω δ} (fruitless : Fruitless policy count queries Kind outcome step)
    {events : List (Event δ)} (more : Nat) (noWait : waitCount events = 0)
    (few : (windowsAsked events).length ≤ more) :
    Fruitless policy count (more + queries) Kind outcome (step.after events) := by
  have fewInAll (ofStep : (windowsAsked step.events).length ≤ queries) :
      (windowsAsked (step.after events).events).length ≤ more + queries := by
    rw [Step.after, windowsAsked_append, List.length_append]
    exact Nat.add_le_add few ofStep
  have sameWaits : waitCount (step.after events).events = waitCount step.events := by
    rw [Step.after, waitCount_append, noWait, Nat.zero_add]
  cases fruitless with
  | ended reached noFailure notClosed nothingReady exhausted noWait ofStep =>
    exact .ended reached noFailure notClosed nothingReady exhausted (sameWaits.trans noWait)
      (fewInAll ofStep)
  | waited notReached noFailure watching kind oneWait ofStep =>
    exact .waited notReached noFailure watching kind (sameWaits.trans oneWait) (fewInAll ofStep)
  | failed notReached failed watching kind oneWait ofStep =>
    exact .failed notReached failed watching kind (sameWaits.trans oneWait) (fewInAll ofStep)

section Fetching

variable {env : Surroundings ω δ} {Kind : ω → Prop} {world : ω} {failure : Failure}

/-- Waiting either takes its time or fails. -/
theorem fruitless_waitThenOpen {outcome : Except Failure Bool}
    (barren : env.Barren Kind policy.interval outcome) (notClosing : outcome ≠ .ok true)
    (watching : Watching policy count iterator) (kind : Kind world)
    (notReached : WaitTime.reached policy.patience (policy.passed count) = false) :
    Fruitless policy count 0 Kind outcome (waitThenOpen env none iterator world) := by
  obtain ⟨later, laterKind, answer⟩ := barren.wait (iterator.waits + 1) world kind
  rw [← watching.samePolicy] at answer
  match outcome, notClosing with
  | .ok true, notClosing => exact absurd rfl notClosing
  | .error failure, _ =>
    have step : waitThenOpen env none iterator world
        = ⟨iterator.countWait, later, [.waited iterator.policy.interval (.error failure)],
            some failure⟩ := by
      simp [waitThenOpen, answer, countWait]
    rw [step]
    exact .failed notReached rfl watching.countWait laterKind rfl (Nat.le_refl 0)
  | .ok false, _ =>
    have step : waitThenOpen env none iterator world
        = (openNext env none iterator.countWait.passInterval later).after
          [.waited iterator.policy.interval (.ok false)] := by
      simp [waitThenOpen, answer, countWait, passInterval]
    have elapsed : WaitTime.add iterator.elapsed iterator.policy.interval
        = policy.passed (count + 1) := by
      rw [watching.elapsed, watching.samePolicy]
      rfl
    rw [step, openNext_eq]
    refine .waited notReached rfl ?_ (barren.clock later laterKind) rfl (Nat.le_refl 0)
    exact ⟨⟨⟨watching.notClosed, watching.notExhausted, watching.stopNanos⟩, watching.nothingReady,
      watching.notDue⟩, watching.growing, watching.samePolicy, watching.nothingSeen, rfl, elapsed⟩

section Outcome

variable {outcome : Except Failure Bool} (barren : env.Barren Kind policy.interval outcome)
  (notClosing : outcome ≠ .ok true)
include barren notClosing

theorem fruitless_finishWindow (watching : Watching policy count iterator) (kind : Kind world)
    (windowStop : Int) :
    Fruitless policy count 0 Kind outcome
      (finishWindow env true none windowStop iterator world) := by
  have notLast : ((none.map fun stop => decide (stop ≤ windowStop)).getD false
      || iterator.scope.complete) = false := watching.growing
  rw [finishWindow]
  simp only [notLast, Bool.false_eq_true, if_false, watching.foundNone, ne_eq, not_true,
    watching.samePolicy, watching.elapsed, if_true]
  split
  · rename_i reached
    exact .ended reached rfl watching.notClosed watching.nothingReady rfl rfl (Nat.le_refl 0)
  · rename_i notReached
    exact fruitless_waitThenOpen barren notClosing watching kind (Bool.eq_false_iff.mpr notReached)

theorem fruitless_advanceWindow (watching : Watching policy count iterator) (kind : Kind world)
    (windowStop : Int) :
    Fruitless policy count 1 Kind outcome
      (advanceWindow env true none windowStop iterator world) := by
  rw [advanceWindow]
  split
  · have whole : Fruitless policy count 1 Kind outcome
        ((finishWindow env true none windowStop iterator world).after []) :=
      (fruitless_finishWindow barren notClosing watching kind windowStop).after 1 rfl
        (Nat.zero_le 1)
    rwa [Step.after_nil] at whole
  · obtain ⟨later, laterKind, answer⟩ := barren.query ⟨iterator.cursor, windowStop⟩ world kind
    have whole := (fruitless_finishWindow barren notClosing watching laterKind windowStop).after 1
      (waitCount_page iterator windowStop ⟨[], none⟩ []) (Nat.le_refl 1)
    simpa [load, answer, takeIn, acceptAll, pageEvent] using whole

theorem fruitless_fetch (watching : Watching policy count iterator) (kind : Kind world) :
    Fruitless policy count 1 Kind outcome (fetch env true iterator world) := by
  cases opened : iterator.windowStop with
  | some windowStop =>
    rw [fetch_of_hungry true watching.toHungry opened]
    exact fruitless_advanceWindow barren notClosing watching kind windowStop
  | none =>
    have onward := fruitless_advanceWindow barren notClosing
      (watching.withWindow (env.clock world).1) (barren.clock world kind) (env.clock world).1
    have whole : Fruitless policy count (0 + 1) Kind outcome
        ((advanceWindow env true none (env.clock world).1
          { iterator with windowStop := some (env.clock world).1 } (env.clock world).2).after
            [.clockRead (env.clock world).1]) :=
      onward.after 0 rfl (Nat.le_refl 0)
    simpa [fetch, watching.stopNanos, fetchWithin, watching.notDue, fetchOpen, opened,
      newWindowStop] using whole

/-- If the patience is reached, the next call is the last one. -/
theorem next_reached (watching : Watching policy count iterator) (kind : Kind world)
    (reached : WaitTime.reached policy.patience (policy.passed count) = true) (fuel : Nat) :
    let pull := next env (fuel + 1) iterator world
    pull.outcome = .ok none ∧ pull.iterator.exhausted = true ∧ pull.iterator.closed = false
      ∧ waitCount pull.events = 0 ∧ (windowsAsked pull.events).length ≤ 1 := by
  intro pull
  cases fruitless_fetch barren notClosing watching kind with
  | waited notReached => exact absurd reached (by simpa using notReached)
  | failed notReached => exact absurd reached (by simpa using notReached)
  | ended _ noFailure notClosed nothingReady exhausted noWait few =>
    have eq : pull = _ := next_fetched env fuel watching.notClosed watching.nothingReady
      watching.notExhausted noFailure
    simp only [next_exhausted env fuel notClosed nothingReady exhausted, List.append_nil] at eq
    rw [eq]
    exact ⟨rfl, exhausted, notClosed, noWait, few⟩

end Outcome

section Waiting

variable (barren : env.Barren Kind policy.interval (.ok false))
include barren

/-- As long as the patience is not reached, every fetch waits. -/
theorem next_unfinished (watching : Watching policy count iterator) (kind : Kind world)
    (fuel : Nat) (patient : ∀ later < count + fuel,
      WaitTime.reached policy.patience (policy.passed later) = false) :
    (next env fuel iterator world).outcome = .error .unfinished
      ∧ waitCount (next env fuel iterator world).events = fuel := by
  induction fuel generalizing count iterator world with
  | zero =>
    rw [next_zero env watching.notClosed watching.nothingReady watching.notExhausted]
    exact ⟨rfl, rfl⟩
  | succ fuel inductionHypothesis =>
    cases fruitless_fetch barren (by simp) watching kind with
    | ended reached => exact absurd reached (by simp [patient count (by omega)])
    | waited _ noFailure watchingLater laterKind oneWait _ =>
      rw [next_fetched env fuel watching.notClosed watching.nothingReady watching.notExhausted
        noFailure]
      obtain ⟨unfinished, waits⟩ := inductionHypothesis watchingLater laterKind
        fun later few => patient later (by omega)
      refine ⟨unfinished, ?_⟩
      rw [waitCount_append, oneWait, waits, Nat.add_comm]

/-- With so many waits left, that many fetches wait and the next one is the last. -/
theorem next_ends (watching : Watching policy count iterator) (kind : Kind world) {left : Nat}
    (patient : ∀ later < count + left,
      WaitTime.reached policy.patience (policy.passed later) = false)
    (reached : WaitTime.reached policy.patience (policy.passed (count + left)) = true)
    {fuel : Nat} (enough : left < fuel) :
    let pull := next env fuel iterator world
    pull.outcome = .ok none ∧ pull.iterator.exhausted = true ∧ pull.iterator.closed = false
      ∧ waitCount pull.events = left ∧ (windowsAsked pull.events).length ≤ left + 1 := by
  intro pull
  obtain ⟨fuel, rfl⟩ : ∃ less, fuel = less + 1 := Nat.exists_eq_succ_of_ne_zero (by omega)
  induction left generalizing count iterator world fuel with
  | zero => exact next_reached barren (by simp) watching kind reached fuel
  | succ left inductionHypothesis =>
    cases fruitless_fetch barren (by simp) watching kind with
    | ended reachedNow => exact absurd reachedNow (by simp [patient count (by omega)])
    | waited _ noFailure watchingLater laterKind oneWait few =>
      have eq : pull = _ := next_fetched env fuel watching.notClosed watching.nothingReady
        watching.notExhausted noFailure
      obtain ⟨less, rfl⟩ : ∃ less, fuel = less + 1 := Nat.exists_eq_succ_of_ne_zero (by omega)
      obtain ⟨outcome, exhausted, notClosed, waits, queries⟩ :=
        inductionHypothesis watchingLater laterKind
          (fun later few => patient later (by omega)) (by rwa [Nat.add_right_comm]) less (by omega)
      rw [eq]
      refine ⟨outcome, exhausted, notClosed, ?_, ?_⟩
      · rw [waitCount_append, oneWait, waits, Nat.add_comm]
      · rw [windowsAsked_append, List.length_append]
        omega

end Waiting

section Failing

variable (barren : env.Barren Kind policy.interval (.error failure))
  (notReached : WaitTime.reached policy.patience (policy.passed count) = false)
include barren notReached

/-- If waits fail and the patience is not reached, a call fails with the first wait. -/
theorem next_fails (watching : Watching policy count iterator) (kind : Kind world) (fuel : Nat) :
    let pull := next env (fuel + 1) iterator world
    pull.outcome = .error failure ∧ Watching policy count pull.iterator ∧ Kind pull.world
      ∧ waitCount pull.events = 1 ∧ (windowsAsked pull.events).length ≤ 1 := by
  intro pull
  cases fruitless_fetch barren (by simp) watching kind with
  | ended reached => exact absurd reached (by simp [notReached])
  | failed _ failed watchingLater laterKind oneWait few =>
    have eq : pull = _ := next_failed env fuel watching.notClosed watching.nothingReady
      watching.notExhausted failed
    rw [eq]
    exact ⟨rfl, watchingLater, laterKind, oneWait, few⟩

/-- Then no number of calls changes what is known of the iterator. -/
theorem watching_calls {run : Run ω δ} (watching : Watching policy count run.iterator)
    (kind : Kind run.world) (fuels : List Nat) :
    let later := run.calls env (fuels.map .next)
    Watching policy count later.iterator ∧ Kind later.world := by
  induction fuels generalizing run with
  | nil => exact ⟨watching, kind⟩
  | cons fuel rest inductionHypothesis =>
    cases fuel with
    | zero =>
      have same : next env 0 run.iterator run.world = _ :=
        next_zero env watching.notClosed watching.nothingReady watching.notExhausted
      refine inductionHypothesis ?_ ?_ <;>
        rw [Run.call, Run.afterPull, same]
      · exact watching
      · exact kind
    | succ fuel =>
      obtain ⟨-, watchingLater, laterKind, -⟩ := next_fails barren notReached watching kind fuel
      exact inductionHypothesis watchingLater laterKind

end Failing

end Fetching

theorem Watching.start {scope : Scope} (isOpen : scope.stop = none)
    (growing : scope.complete = false) (started : Iterator.start scope policy = .ok iterator) :
    Watching policy 0 iterator := by
  obtain ⟨cursor, -, rfl⟩ := eq_of_start started
  exact ⟨⟨⟨rfl, rfl, scope.stopNanos_open isOpen⟩, rfl, rfl⟩, growing, rfl, rfl, rfl, rfl⟩

/-- Where waits take their time, a call without lines comes to the end exactly if the policy runs
out of patience. -/
theorem next_ends_iff {env : Surroundings ω δ} {Kind : ω → Prop}
    (barren : env.Barren Kind policy.interval (.ok false)) (watching : Watching policy 0 iterator)
    {world : ω} (kind : Kind world) :
    (∃ fuel, (next env fuel iterator world).outcome = .ok none) ↔
      ∃ count, WaitTime.reached policy.patience (policy.passed count) = true := by
  constructor
  · rintro ⟨fuel, ended⟩
    by_contra never
    have patient (later : Nat) (_ : later < 0 + fuel) :
        WaitTime.reached policy.patience (policy.passed later) = false :=
      Bool.eq_false_iff.mpr fun reached => never ⟨later, reached⟩
    cases (next_unfinished barren watching kind fuel patient).1.symm.trans ended
  · intro some
    have patient (later : Nat) (few : later < 0 + Nat.find some) :
        WaitTime.reached policy.patience (policy.passed later) = false :=
      Bool.eq_false_iff.mpr (Nat.find_min some (by omega))
    have reached : WaitTime.reached policy.patience (policy.passed (0 + Nat.find some)) = true := by
      rw [Nat.zero_add]
      exact Nat.find_spec some
    exact ⟨_, (next_ends barren watching kind patient reached (Nat.lt_succ_self _)).1⟩

/-- Where waits fail, it does so exactly if there is no patience to begin with. -/
theorem next_ends_iff_of_failing {env : Surroundings ω δ} {Kind : ω → Prop} {failure : Failure}
    (barren : env.Barren Kind policy.interval (.error failure))
    (watching : Watching policy 0 iterator) {world : ω} (kind : Kind world) :
    (∃ fuel, (next env fuel iterator world).outcome = .ok none) ↔
      WaitTime.reached policy.patience (policy.passed 0) = true := by
  constructor
  · rintro ⟨fuel, ended⟩
    by_contra notReached
    cases fuel with
    | zero =>
      rw [next_zero env watching.notClosed watching.nothingReady watching.notExhausted] at ended
      cases ended
    | succ fuel =>
      obtain ⟨failed, -⟩ :=
        next_fails barren (Bool.eq_false_iff.mpr notReached) watching kind fuel
      cases failed.symm.trans ended
  · exact fun reached => ⟨1, (next_reached barren (by simp) watching kind reached 0).1⟩

end Iterator

/-! ## Behind a retriever -/

/-- A backend that answers every query of a client with a page without a line, while nothing is
closed. -/
def Host.ReturnsNoLine {ω : Type} (host : Host ω) (client : Client) (scope : Scope) : Prop :=
  ∀ window world, (client.query host.sender scope window world).batch = .ok ⟨[], none⟩
    ∧ (client.query host.sender scope window world).closing = .nothing

/-- A host that waits for any time up to a longest one, while nothing is closed.  A time that is
longer is out of range, and nobody waits. -/
structure Host.WaitsUpTo {ω : Type} (host : Host ω) (longest : Float) : Prop where
  waits : ∀ number interval world, ¬longest < interval →
    (host.wait number interval world).1 = .ok false
  refuses : ∀ number interval world, longest < interval →
    (host.wait number interval world).1 = .error (.malformed .outOfRange)

/-- An exchange during which nothing is closed leaves the client as it is. -/
theorem Client.client_query {ω : Type} {sender : Sender ω} {client : Client} {scope : Scope}
    {window : Window} {world : ω}
    (nothing : (client.query sender scope window world).closing = .nothing) :
    (client.query sender scope window world).client = client := by
  have during : client.connection.during .nothing = client.connection := by
    simp [Connection.during, Closing.nothing]
  simp only [query, Connection.execute] at nothing ⊢
  split
  · rfl
  · split
    · rfl
    · rename_i isOpen _ request isRequest
      simp only [if_neg isOpen, isRequest] at nothing
      simp only [nothing, during]

/-- Surroundings of an iterator over a log of such a backend. -/
theorem barren_surroundings {ω : Type} {host : Host ω} {client : Client} {scope : Scope}
    (noLine : host.ReturnsNoLine client scope) {interval : Float} {outcome : Except Failure Bool}
    (waits : ∀ number world, (host.wait number interval world).1 = outcome) :
    (host.surroundings scope).Barren (fun session => session.client = client) interval outcome := by
  refine ⟨fun session same => same, ?_, ?_⟩
  · rintro window ⟨client, world⟩ rfl
    obtain ⟨noLine, nothing⟩ := noLine window world
    refine ⟨⟨(client.query host.sender scope window world).client,
      (client.query host.sender scope window world).world⟩, Client.client_query nothing, ?_⟩
    simp only [Host.surroundings, noLine, nothing]
    rfl
  · rintro number ⟨client, world⟩ rfl
    refine ⟨⟨client, (host.wait number interval world).2⟩, rfl, ?_⟩
    simp only [Host.surroundings, waits]

namespace Settings

/-- What settings say about following a log is what two of the texts say. -/
theorem policy_of_ofEnvironment {environment : Environment} {settings : Settings}
    (accepted : ofEnvironment environment = .ok settings) :
    readAs environment "LOKI_TAIL_POLL_INTERVAL" parseFloat TailPolicy.standard.interval
        = .ok settings.policy.interval
      ∧ readAs environment "LOKI_TAIL_MAX_WAIT" parseFloat TailPolicy.standard.patience
        = .ok settings.policy.patience := by
  rw [ofEnvironment] at accepted
  split at accepted
  · obtain ⟨_, refused, -⟩ := bind_eq_ok.mp accepted
    cases refused
  · obtain ⟨_, -, accepted⟩ := bind_eq_ok.mp accepted
    obtain ⟨interval, ofInterval, accepted⟩ := bind_eq_ok.mp accepted
    obtain ⟨patience, ofPatience, accepted⟩ := bind_eq_ok.mp accepted
    obtain ⟨_, -, accepted⟩ := bind_eq_ok.mp accepted
    obtain ⟨_, -, accepted⟩ := bind_eq_ok.mp accepted
    cases accepted
    exact ⟨ofInterval, ofPatience⟩

end Settings

/-- A log that is followed as settings say and never gets a line comes to its end exactly if no
patience is asked for, or the host waits for the interval and some number of intervals reaches the
patience.  It does so after the least such number of waits and at most one more query.  If the host
waits but no number of intervals reaches the patience, the log is asked for and waited for without
end.  If the host does not wait for so long, every call fails with its first wait and never comes to
the end. -/
theorem Retriever.tail_ends_iff {environment : Environment} {settings : Settings}
    (accepted : Settings.ofEnvironment environment = .ok settings) {engine : TemplateEngine}
    {provider : Option Provider} {journal : Bool} {extractor : Option Extractor}
    {parts : Retriever.Parts}
    (configured : Retriever.Parts.ofSettings engine settings provider journal extractor = .ok parts)
    {retriever : Retriever} (created : Retriever.create parts = .ok retriever)
    {ω : Type} {host : Host ω} {scope : Scope} (isOpen : scope.stop = none)
    (growing : scope.complete = false) (noLine : host.ReturnsNoLine retriever.client scope)
    {longest : Float} (waitsUpTo : host.WaitsUpTo longest)
    {iterator : Iterator Float} (started : Iterator.start scope retriever.policy = .ok iterator)
    (world : ω) :
    ∃ interval patience : Float,
      Settings.readAs environment "LOKI_TAIL_POLL_INTERVAL" Settings.parseFloat
          TailPolicy.standard.interval = .ok interval
        ∧ Settings.readAs environment "LOKI_TAIL_MAX_WAIT" Settings.parseFloat
          TailPolicy.standard.patience = .ok patience
        ∧ let passed := (TailPolicy.mk interval patience).passed
          let env := host.surroundings scope
          let session : Session ω := ⟨retriever.client, world⟩
          let pull (fuel : Nat) := iterator.next env fuel session
          ((∃ fuel, (pull fuel).outcome = .ok none)
              ↔ patience ≤ 0 ∨ ¬longest < interval ∧ ∃ count, patience ≤ passed count)
            ∧ (¬longest < interval →
              ∀ limit, IsLeast {count | patience ≤ passed count} limit → ∀ fuel, limit < fuel →
              (pull fuel).outcome = .ok none ∧ (pull fuel).iterator.exhausted = true
                ∧ (pull fuel).iterator.closed = false
                ∧ Iterator.waitCount (pull fuel).events = limit
                ∧ (Iterator.windowsAsked (pull fuel).events).length ≤ limit + 1)
            ∧ (¬longest < interval → (∀ count, ¬patience ≤ passed count) → ∀ fuel,
              (pull fuel).outcome = .error .unfinished
                ∧ Iterator.waitCount (pull fuel).events = fuel)
            ∧ (longest < interval → ¬patience ≤ 0 → ∀ (fuels : List Nat) (fuel : Nat),
              let run := (Iterator.Run.start iterator session).calls env (fuels.map .next)
              let pull := run.iterator.next env (fuel + 1) run.world
              pull.outcome = .error (.malformed .outOfRange)
                ∧ pull.iterator.exhausted = false ∧ pull.iterator.closed = false
                ∧ Iterator.waitCount pull.events = 1
                ∧ (Iterator.windowsAsked pull.events).length ≤ 1) := by
  obtain ⟨interval, patience⟩ := Settings.policy_of_ofEnvironment accepted
  have samePolicy : retriever.policy = settings.policy := by
    obtain ⟨renderer, -, rfl⟩ := map_eq_ok.mp configured
    exact (Retriever.of_create created).2.1
  rw [samePolicy] at started
  have watching := Iterator.Watching.start isOpen growing started
  have waiting (short : ¬longest < settings.policy.interval) :=
    barren_surroundings noLine fun number world => waitsUpTo.waits number _ world short
  have failing (long : longest < settings.policy.interval) :=
    barren_surroundings noLine fun number world => waitsUpTo.refuses number _ world long
  let session : Session ω := ⟨retriever.client, world⟩
  have ofRetriever : session.client = retriever.client := rfl
  refine ⟨_, _, interval, patience, ?_, ?_, ?_, ?_⟩
  · by_cases long : longest < settings.policy.interval
    · have ends_iff := Iterator.next_ends_iff_of_failing (failing long) watching ofRetriever
      simp only [WaitTime.reached, decide_eq_true_eq] at ends_iff
      rw [ends_iff]
      exact ⟨Or.inl, fun either => either.elim id fun short => absurd long short.1⟩
    · have ends_iff := Iterator.next_ends_iff (waiting long) watching ofRetriever
      simp only [WaitTime.reached, decide_eq_true_eq] at ends_iff
      rw [ends_iff]
      exact ⟨fun some => Or.inr ⟨long, some⟩, fun either =>
        either.elim (fun atOnce => ⟨0, atOnce⟩) And.right⟩
  · intro short limit least fuel enough
    refine Iterator.next_ends (waiting short) watching rfl (fun later few => ?_) ?_ enough
    · rw [Nat.zero_add] at few
      exact decide_eq_false fun reached => Nat.not_le.mpr few (least.2 reached)
    · rw [Nat.zero_add]
      exact decide_eq_true least.1
  · intro short never fuel
    exact Iterator.next_unfinished (waiting short) watching rfl fuel fun later _ =>
      decide_eq_false (never later)
  · intro long impatient fuels fuel run pull
    let policy := settings.policy
    have notReached : WaitTime.reached policy.patience (policy.passed 0) = false :=
      decide_eq_false impatient
    have begun : Iterator.Watching policy 0 (Iterator.Run.start iterator session).iterator :=
      watching
    obtain ⟨stillWatching, kind⟩ :=
      Iterator.watching_calls (failing long) notReached begun ofRetriever fuels
    obtain ⟨failed, watchingLater, -, oneWait, few⟩ :=
      Iterator.next_fails (failing long) notReached stillWatching kind fuel
    exact ⟨failed, watchingLater.notExhausted, watchingLater.notClosed, oneWait, few⟩

/-- The scope of a run that goes on. -/
def Scope.ongoing : Scope :=
  ⟨"pipeline", 1, "trace", ⟨0, none⟩, none, false, none⟩

/-- How many seconds the host waits for at most. -/
def longestWait : Float := 9223372036

/-- A backend that has no line, and a clock that shows a second more after every query. -/
def noLines : Host Nat where
  sender := StandIn.sender 0x100000 fun _ count =>
    (⟨.ok (.ofBody 6 200 (Text.utf8 "\x7b\x7d")), .nothing, []⟩, count + 1)
  clock count := (count * 1000000000, count)
  wait _ interval count :=
    (if longestWait < interval then .error (.malformed .outOfRange) else .ok false, count)
  now count := (⟨0, none⟩, count)

/-- An environment with the URL of a local backend and a text for the interval. -/
def localEnvironment (interval : Text) : Environment :=
  [("LOKI_URL", "http://loki:3100"), ("LOKI_TAIL_POLL_INTERVAL", interval),
    ("LOKI_BUILD_LOGS_VISUALIZATION_URL_TEMPLATE", "link")]

/-- The settings in such an environment. -/
def tailSettings (interval : Float) : Settings where
  url := "http://loki:3100"
  template := "link"
  interval := interval

namespace Retriever

/-- The parts of a retriever with such settings. -/
def tailParts (interval : Float) : Parts where
  url := some "http://loki:3100"
  serviceName := some "jenkins"
  serviceNamespace := none
  renderer := some ⟨fun _ => .ok "link"⟩
  provider := some (.fixed [])
  journal := true
  extractor := some .plain
  credentials := none
  tenant := none
  verify := true
  policy := ⟨interval, 30⟩
  pageSize := 1000
  timeout := 30

/-- The retriever with such settings. -/
def tailRetriever (interval : Float) : Retriever where
  client := ⟨⟨"http://loki:3100", none, none, true, 30, false⟩, ⟨"jenkins", none⟩, 1000⟩
  provider := .fixed []
  renderer := ⟨fun _ => .ok "link"⟩
  extractor := .plain
  policy := ⟨interval, 30⟩
  logs := []

/-- Templates that stand for themselves, as text without braces does. -/
def plainTemplates : TemplateEngine :=
  fun source => .ok fun _ => .ok source

theorem ofSettings_tailSettings (interval : Float) :
    Parts.ofSettings plainTemplates (tailSettings interval) (some (.fixed [])) true (some .plain)
      = .ok (tailParts interval) := rfl

theorem create_tailParts (interval : Float) :
    create (tailParts interval) = .ok (tailRetriever interval) := rfl

theorem returnsNoLine_noLines (interval : Float) :
    noLines.ReturnsNoLine (tailRetriever interval).client Scope.ongoing := by
  intro window world
  have plain : (LabelQuery.text ⟨"jenkins", none⟩ Scope.ongoing).hasSurrogate = false := by decide
  obtain ⟨request, formed, -⟩ :=
    @Client.exists_request (tailRetriever interval).client Scope.ongoing rfl rfl rfl plain window
  have read : (Response.ofBody 6 200 (Text.utf8 "\x7b\x7d")).json = .ok (.object []) := by
    have isObject : Json.readWithin 6 (Text.ofUtf8 (Text.utf8 "\x7b\x7d")) = .ok (.object []) := by
      cbv
    simp only [Response.ofBody, isObject]
  have empty : Batch.ofResponse 0x100000 1000 window (.object []) = .ok ⟨[], none⟩ := by
    change Except.ok (Batch.ofReading 1000 ⟨[], []⟩) = _
    simp [Batch.ofReading]
  have exchange : (tailRetriever interval).client.connection.execute noLines.sender Client.queryPath
      ((tailRetriever interval).client.queryParameters Scope.ongoing window) world
        = ⟨.ok (.ofBody 6 200 (Text.utf8 "\x7b\x7d")), .nothing,
          (tailRetriever interval).client.connection, world + 1⟩ := by
    have isFormed : noLines.sender.form ((tailRetriever interval).client.connection.call
        Client.queryPath ((tailRetriever interval).client.queryParameters Scope.ongoing window))
          world = .ok request :=
      StandIn.sender_form_eq_ok.mpr formed
    rw [Connection.execute, isFormed]
    rfl
  rw [Client.query, exchange]
  refine ⟨?_, rfl⟩
  have success : (Response.ofBody 6 200 (Text.utf8 "\x7b\x7d")).isSuccess = true := rfl
  simp only [Client.readAnswer, success, if_true, read]
  exact empty

theorem waitsUpTo_noLines : noLines.WaitsUpTo longestWait where
  waits _ _ _ short := if_neg short
  refuses _ _ _ long := if_pos long

/-- As long as nothing else is configured the log is given up after thirty waits of a second.  With
an infinite interval every call fails. -/
theorem noLines_tail_ends :
    (∃ iterator, Iterator.start Scope.ongoing (tailRetriever 1).policy = .ok iterator
      ∧ Settings.ofEnvironment (localEnvironment "") = .ok (tailSettings 1)
      ∧ let pull := iterator.next (noLines.surroundings Scope.ongoing) 31
          ⟨(tailRetriever 1).client, 0⟩
        pull.outcome = .ok none ∧ pull.iterator.exhausted = true
          ∧ Iterator.waitCount pull.events = 30)
      ∧ ∃ settings retriever iterator,
        Settings.ofEnvironment (localEnvironment "inf") = .ok settings
        ∧ create (tailParts settings.interval) = .ok retriever
        ∧ Iterator.start Scope.ongoing retriever.policy = .ok iterator
        ∧ ∀ fuels : List Nat,
          let env := noLines.surroundings Scope.ongoing
          let run := (Iterator.Run.start iterator ⟨retriever.client, 0⟩).calls env
            (fuels.map .next)
          (run.iterator.next env 1 run.world).outcome = .error (.malformed .outOfRange) := by
  refine ⟨?_, ?_⟩
  · have accepted : Settings.ofEnvironment (localEnvironment "") = .ok (tailSettings 1) := rfl
    have started : Iterator.start Scope.ongoing (tailRetriever 1).policy = .ok _ := rfl
    refine ⟨_, started, accepted, ?_⟩
    obtain ⟨interval, patience, ofInterval, ofPatience, -, ends, -⟩ :=
      tail_ends_iff accepted (ofSettings_tailSettings 1) (create_tailParts 1) rfl rfl
        (returnsNoLine_noLines 1) waitsUpTo_noLines started 0
    obtain rfl : (1 : Float) = interval := Except.ok.inj ofInterval
    obtain rfl : (30 : Float) = patience := Except.ok.inj ofPatience
    have notSooner : ∀ count < 30, ¬(30 : Float) ≤ (TailPolicy.mk 1 30).passed count := by
      decide +kernel
    have thirty : (30 : Float) ≤ (TailPolicy.mk 1 30).passed 30 := by decide +kernel
    have least : IsLeast {count | (30 : Float) ≤ (TailPolicy.mk 1 30).passed count} 30 := by
      refine ⟨thirty, fun count reached => ?_⟩
      exact Nat.not_lt.mp fun sooner => notSooner count sooner reached
    obtain ⟨outcome, exhausted, -, waits, -⟩ :=
      ends (by decide +kernel) 30 least 31 (by decide)
    exact ⟨outcome, exhausted, waits⟩
  · have accepted : Settings.ofEnvironment (localEnvironment "inf")
        = .ok (tailSettings (1 / 0)) := rfl
    have started : Iterator.start Scope.ongoing (tailRetriever (1 / 0)).policy = .ok _ := rfl
    refine ⟨_, _, _, accepted, create_tailParts (1 / 0), started, fun fuels => ?_⟩
    obtain ⟨interval, patience, ofInterval, ofPatience, -, -, -, fails⟩ :=
      tail_ends_iff accepted (ofSettings_tailSettings _) (create_tailParts _) rfl rfl
        (returnsNoLine_noLines _) waitsUpTo_noLines started 0
    obtain rfl : (1 / 0 : Float) = interval := Except.ok.inj ofInterval
    obtain rfl : (30 : Float) = patience := Except.ok.inj ofPatience
    exact (fails (by decide +kernel) (by decide +kernel) fuels 0).1

/-- An interval of no seconds is accepted, and the log is asked for without end. -/
theorem noLines_tail_never_ends :
    ∃ iterator, Iterator.start Scope.ongoing (tailRetriever 0).policy = .ok iterator
      ∧ Settings.ofEnvironment (localEnvironment "0") = .ok (tailSettings 0)
      ∧ Parts.ofSettings plainTemplates (tailSettings 0) (some (.fixed [])) true (some .plain)
        = .ok (tailParts 0)
      ∧ create (tailParts 0) = .ok (tailRetriever 0)
      ∧ noLines.ReturnsNoLine (tailRetriever 0).client Scope.ongoing
      ∧ noLines.WaitsUpTo longestWait
      ∧ let pull (fuel : Nat) :=
          iterator.next (noLines.surroundings Scope.ongoing) fuel ⟨(tailRetriever 0).client, 0⟩
        ∀ fuel, (pull fuel).outcome = .error .unfinished
          ∧ Iterator.waitCount (pull fuel).events = fuel := by
  have started : Iterator.start Scope.ongoing (tailRetriever 0).policy = .ok _ := rfl
  refine ⟨_, started, rfl, ofSettings_tailSettings 0, create_tailParts 0, returnsNoLine_noLines 0,
    waitsUpTo_noLines, fun fuel => ?_⟩
  have barren := barren_surroundings (returnsNoLine_noLines 0) fun number world =>
    waitsUpTo_noLines.waits number (tailRetriever 0).policy.interval world (by decide +kernel)
  have watching := Iterator.Watching.start rfl rfl started
  have kind : (⟨(tailRetriever 0).client, 0⟩ : Session Nat).client = (tailRetriever 0).client := rfl
  have noTime (count : Nat) : (TailPolicy.mk (0 : Float) 30).passed count = 0 := by
    induction count with
    | zero => rfl
    | succ count inductionHypothesis =>
      rw [TailPolicy.passed, inductionHypothesis]
      decide +kernel
  refine Iterator.next_unfinished barren watching kind fuel fun later _ => ?_
  change WaitTime.reached (30 : Float) ((TailPolicy.mk (0 : Float) 30).passed later) = false
  rw [noTime]
  decide +kernel

end Retriever

end RunLog
