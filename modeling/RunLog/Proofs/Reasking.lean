import Mathlib.Data.List.Chain
import RunLog.Proofs.Fetching

/-!
# Asking again after a failure

Whatever a consumer does, the next thing that happens after a query that failed is a query of the
same window.  A failure leaves an open window with something left in it and nothing else to be done
first, and from there on the only move is to ask for its page.
-/

namespace RunLog
namespace Iterator

variable {ω δ : Type}

/-- After a query that failed the same window is asked for. -/
def AskedAgain (event next : Event δ) : Prop :=
  ∀ window failure, event = .queried window (.error failure) →
    ∃ outcome, next = .queried window outcome

/-- The last event is a query of a window that failed. -/
def EndsInFailure (events : List (Event δ)) (window : Window) : Prop :=
  ∃ failure, events.getLast? = some (.queried window (.error failure))

instance (events : List (Event δ)) (window : Window) : Decidable (EndsInFailure events window) :=
  match last : events.getLast? with
  | some (.queried asked (.error failure)) =>
    decidable_of_iff (asked = window)
      ⟨fun same => ⟨failure, same ▸ last⟩, fun ⟨_, found⟩ => by cases last.symm.trans found; rfl⟩
  | some (.queried _ (.ok _)) | some (.clockRead _) | some (.accepted _) | some (.waited _ _)
  | some (.stalled _) | none => .isFalse fun ⟨_, found⟩ => by cases last.symm.trans found

/-- An iterator that asks for the page of a window. -/
structure Asking (iterator : Iterator δ) (window : Window) : Prop where
  hungry : ∃ stop, Hungry iterator stop
  opened : iterator.windowStop = some window.stop
  cursor : iterator.cursor = window.start
  inside : window.start < window.stop

/-- Failed queries are asked again, and the last one is about to be if it failed. -/
structure Persistent (stage : Stage) (run : Run ω δ) : Prop where
  askedAgain : run.events.IsChain AskedAgain
  asking : ∀ window, EndsInFailure run.events window →
    stage = .resting ∧ (run.iterator.closed = true ∨ Asking run.iterator window)

theorem isFailedQuery_of_answered {events : List (Event δ)} (quiet : answered events = events) :
    ∀ event ∈ events, event.isFailedQuery = false := by
  simpa [answered, List.filter_eq_self] using quiet

theorem not_endsInFailure_append {before events : List (Event δ)}
    (noFailure : ∀ window, ¬EndsInFailure before window) (quiet : answered events = events) :
    ∀ window, ¬EndsInFailure (before ++ events) window := by
  rintro window ⟨failure, last⟩
  rw [List.getLast?_append] at last
  cases lastEvent : events.getLast? with
  | none =>
    rw [lastEvent, Option.none_or] at last
    exact noFailure window ⟨failure, last⟩
  | some event =>
    rw [lastEvent, Option.some_or] at last
    cases Option.some.inj last
    have notFailed := isFailedQuery_of_answered quiet _ (List.mem_of_getLast? lastEvent)
    simp [Event.isFailedQuery] at notFailed

theorem isChain_of_answered {events : List (Event δ)} (quiet : answered events = events) :
    events.IsChain AskedAgain := by
  refine List.Pairwise.isChain ?_
  refine List.pairwise_of_forall_mem_list fun event among next _ => ?_
  rintro window failure rfl
  simpa [Event.isFailedQuery] using isFailedQuery_of_answered quiet _ among

namespace Persistent

variable {stage later : Stage} {run : Run ω δ} {iterator : Iterator δ} {world : ω}
  {window : Window} {events : List (Event δ)}

/-- Where nothing failed last, events without failures can follow. -/
theorem quiet (persistent : Persistent stage run)
    (noFailure : ∀ window, ¬EndsInFailure run.events window) (quiet : answered events = events) :
    Persistent later (run.advance iterator world events) := by
  refine ⟨List.isChain_append.mpr ⟨persistent.askedAgain, isChain_of_answered quiet, ?_⟩,
    fun window endsInFailure => ?_⟩
  · rintro event isLast next - window failure rfl
    exact absurd ⟨failure, isLast⟩ (noFailure window)
  · exact absurd endsInFailure (not_endsInFailure_append noFailure quiet window)

theorem isChain_query {outcome : Except Failure Nat} (persistent : Persistent stage run)
    (sameWindow : ∀ other, EndsInFailure run.events other → other = window) :
    (run.events ++ [Event.queried window outcome]).IsChain AskedAgain := by
  refine List.isChain_append.mpr ⟨persistent.askedAgain, List.isChain_singleton _, ?_⟩
  rintro event isLast next isNext other failure rfl
  cases sameWindow other ⟨failure, isLast⟩
  exact ⟨outcome, (Option.some.inj isNext).symm⟩

/-- Where a failure was one of the same window, a page of it can follow. -/
theorem page {count : Nat} (persistent : Persistent stage run)
    (sameWindow : ∀ other, EndsInFailure run.events other → other = window)
    (quiet : answered events = events) :
    Persistent later (run.advance iterator world (.queried window (.ok count) :: events)) := by
  have noFailure : ∀ other,
      ¬EndsInFailure (run.events ++ [.queried window (.ok count)]) other := by
    rintro other ⟨failure, last⟩
    simp at last
  have asked : Persistent .resting
      (run.advance run.iterator run.world [.queried window (.ok count)]) :=
    ⟨persistent.isChain_query sameWindow, fun other endsInFailure =>
      absurd endsInFailure (noFailure other)⟩
  have whole : Persistent later ((run.advance run.iterator run.world
      [.queried window (.ok count)]).advance iterator world events) :=
    asked.quiet noFailure quiet
  simpa [Run.advance] using whole

/-- Where a failure was one of the same window, another one can follow. -/
theorem fail {failure : Failure} (persistent : Persistent stage run)
    (sameWindow : ∀ other, EndsInFailure run.events other → other = window)
    (asking : iterator.closed = true ∨ Asking iterator window) :
    Persistent .resting
      (run.advance iterator world [.queried window (.error failure)]) := by
  refine ⟨persistent.isChain_query sameWindow, fun other endsInFailure => ⟨rfl, ?_⟩⟩
  obtain ⟨found, last⟩ := endsInFailure
  have same : window = other := by
    simp [Run.advance] at last
    exact last.1
  exact same ▸ asking

/-- What is silent keeps whatever is about to be asked. -/
theorem silent (persistent : Persistent stage run)
    (kept : ∀ window, EndsInFailure run.events window →
      later = .resting ∧ (iterator.closed = true ∨ Asking iterator window)) :
    Persistent later { run with iterator } :=
  ⟨persistent.askedAgain, kept⟩

theorem start (iterator : Iterator δ) (world : ω) :
    Persistent .resting (Run.start iterator world) :=
  ⟨List.isChain_nil, fun _ ⟨_, last⟩ => by simp [Run.start] at last⟩

variable [WaitTime δ] {env : Surroundings ω δ} {next : Run ω δ}

/-- What is kept by one move. -/
theorem move (move : Move env (stage, run) (later, next)) (persistent : Persistent stage run) :
    Persistent later next := by
  have unfailed (notResting : stage ≠ .resting) (window : Window) :
      ¬EndsInFailure run.events window := fun endsInFailure =>
    notResting (persistent.asking window endsInFailure).1
  have asking {stop : Option Int} (active : Active run.iterator stop) (window : Window)
      (endsInFailure : EndsInFailure run.events window) : Asking run.iterator window :=
    (persistent.asking window endsInFailure).2.resolve_left (by simp [active.notClosed])
  have sameWindow {stop : Option Int} {windowStop : Int} (active : Active run.iterator stop)
      (opened : run.iterator.windowStop = some windowStop) (window : Window)
      (endsInFailure : EndsInFailure run.events window) :
      window = ⟨run.iterator.cursor, windowStop⟩ := by
    have asks := asking active window endsInFailure
    obtain ⟨start, stop⟩ := window
    rw [asks.cursor, Option.some.inj (opened.symm.trans asks.opened)]
  cases move with
  | resume active _ due =>
    refine persistent.silent fun window endsInFailure => ?_
    obtain ⟨_, hungry⟩ := (asking active window endsInFailure).hungry
    simp [hungry.notDue] at due
  | openFirst hungry unopened opening =>
    refine persistent.quiet (fun window endsInFailure => ?_) (answered_of_opening opening)
    simpa [unopened] using (asking hungry.toActive window endsInFailure).opened
  | useUp hungry opened past =>
    refine persistent.silent fun window endsInFailure => ?_
    have same := sameWindow hungry.toActive opened window endsInFailure
    have inside := (asking hungry.toActive window endsInFailure).inside
    subst same
    exact absurd past (Int.not_le.mpr inside)
  | @failQuery _ _ _ _ closes _ hungry opened inside answer =>
    refine persistent.fail (sameWindow hungry.toActive opened) ?_
    cases closes with
    | true => exact Or.inl rfl
    | false => exact Or.inr ⟨⟨_, hungry⟩, opened, rfl, inside⟩
  | dropPage hungry opened inside answer =>
    exact persistent.page (sameWindow hungry.toActive opened) rfl
  | breakOff hungry opened inside answer acceptance =>
    exact persistent.page (sameWindow hungry.toActive opened) (answered_map_accepted _)
  | @turnPage _ _ windowStop batch world next taken cursor hungry opened inside answer acceptance
      full =>
    have quiet : answered
        (taken.map .accepted ++ (follow cursor (next.countTaken taken) world).events)
        = taken.map .accepted ++ (follow cursor (next.countTaken taken) world).events := by
      rw [answered_append, answered_map_accepted, answered_follow]
    have whole : Persistent .resting
        (run.advance (follow cursor (next.countTaken taken) world).iterator world
          (pageEvent run.iterator windowStop batch
            :: (taken.map .accepted ++ (follow cursor (next.countTaken taken) world).events))) :=
      persistent.page (sameWindow hungry.toActive opened) quiet
    simpa [Run.after, Run.advance, pageEvent, follow_eq] using whole
  | lastPage hungry opened inside answer acceptance notFull =>
    exact persistent.page (sameWindow hungry.toActive opened) (answered_map_accepted _)
  | finish active opened isLast =>
    exact persistent.silent fun window endsInFailure =>
      absurd endsInFailure (unfailed (by simp) window)
  | renew active opened notLast found =>
    exact persistent.quiet (unfailed (by simp)) (answered_openNext env _ _ _)
  | giveUp active opened notLast foundNone outOfPatience =>
    exact persistent.silent fun window endsInFailure =>
      absurd endsInFailure (unfailed (by simp) window)
  | postpone active opened notLast foundNone patient =>
    exact persistent.silent fun window endsInFailure =>
      absurd endsInFailure (unfailed (by simp) window)
  | beginWait active opened notLast foundNone patient =>
    exact persistent.silent fun window endsInFailure =>
      absurd endsInFailure (unfailed (by simp) window)
  | failWait active answer | breakWait active answer =>
    exact persistent.quiet (unfailed (by simp)) rfl
  | @endWait _ stop world active answer =>
    have waited : Persistent .resting (run.advance run.iterator.countWait world
        [.waited run.iterator.policy.interval (.ok false)]) :=
      persistent.quiet (unfailed (by simp)) rfl
    refine waited.quiet (not_endsInFailure_append (unfailed (by simp)) rfl)
      (answered_openNext env stop _ world)
  | handOut notClosed ready =>
    refine ⟨persistent.askedAgain, fun window endsInFailure => ?_⟩
    obtain ⟨-, closed | asks⟩ := persistent.asking window endsInFailure
    · simp [notClosed] at closed
    · obtain ⟨_, hungry⟩ := asks.hungry
      simp [hungry.nothingReady] at ready
  | close =>
    exact persistent.silent fun window endsInFailure =>
      ⟨rfl, Or.inl rfl⟩

end Persistent

/-! ## The next fetch -/

variable [WaitTime δ] (env : Surroundings ω δ) (world : ω) {iterator : Iterator δ}
  {window : Window}

theorem persistent_calls (iterator : Iterator δ) (calls : List Call) :
    Persistent .resting ((Run.start iterator world).calls env calls) :=
  (path_calls env (Run.start iterator world) calls).invariant Persistent Persistent.move
    (Persistent.start iterator world)

/-- An iterator that asks for the page of a window does so in its next fetch. -/
theorem Asking.fetch (asking : Asking iterator window) (mayWait : Bool) :
    ∃ outcome rest,
      (fetch env mayWait iterator world).events = .queried window outcome :: rest := by
  obtain ⟨⟨stop, hungry⟩, opened, cursor, inside⟩ := asking
  obtain ⟨first, last⟩ := window
  dsimp only at opened cursor inside
  rw [fetch_of_hungry mayWait hungry opened, advanceWindow,
    if_neg (Int.not_le.mpr (cursor ▸ inside)), load_eq, cursor]
  obtain ⟨⟨result, closes⟩, later⟩ := env.query ⟨first, last⟩ world
  cases result with
  | error failure => exact ⟨_, _, by rw [takeReply, cursor]⟩
  | ok batch =>
    cases closes with
    | true => exact ⟨.ok batch.entries.length, [], by simp [takeReply, cursor]⟩
    | false => exact ⟨_, _, by rw [takeReply_page, pageEvent, cursor]; rfl⟩

theorem Asking.next (asking : Asking iterator window) (fuel : Nat) : ∃ outcome rest,
      (next env (fuel + 1) iterator world).events = .queried window outcome :: rest := by
  obtain ⟨stop, hungry⟩ := asking.hungry
  obtain ⟨outcome, rest, asks⟩ := asking.fetch env world true
  cases failed : (Iterator.fetch env true iterator world).failure with
  | some failure =>
    rw [next_failed env fuel hungry.notClosed hungry.nothingReady hungry.notExhausted failed]
    exact ⟨outcome, rest, asks⟩
  | none =>
    rw [next_fetched env fuel hungry.notClosed hungry.nothingReady hungry.notExhausted failed]
    exact ⟨outcome, _, by dsimp only; rw [asks]; rfl⟩

theorem Asking.prefetch (asking : Asking iterator window) :
    ∃ outcome rest,
      (prefetch env iterator world).events = .queried window outcome :: rest := by
  obtain ⟨stop, hungry⟩ := asking.hungry
  obtain ⟨outcome, rest, asks⟩ := asking.fetch env world false
  exact ⟨outcome, rest, by
    simpa [Iterator.prefetch, hungry.notClosed, hungry.nothingReady, hungry.notExhausted]
      using asks⟩

end Iterator
end RunLog
