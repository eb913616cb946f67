import RunLog.Proofs.Ending

/-!
# The waits of a growing log are counted exactly

An iterator that follows a growing log gives up after as many waits without a new line as intervals
make up the patience, no sooner and no later.  The time that has passed is put back only when a
window is used up, and a wait may be put off and made up for, but both come to the same count: the
time that has passed is that of the waits since the last line, as long as the open window has none.
-/

namespace RunLog

/-- Whether an event is a wait that was neither broken off nor failed. -/
def Event.isWholeWait {δ : Type} : Event δ → Bool
  | .waited _ (.ok closed) => !closed
  | _ => false

/-- The waits since the last line, after one more event. -/
def Event.waitsAfter {δ : Type} (count : Nat) : Event δ → Nat
  | .accepted _ => 0
  | .waited _ (.ok false) => count + 1
  | _ => count

/-- The times of a policy are exact: so many intervals reach its patience if they do so as rational
numbers. -/
structure TailPolicy.Exact {δ : Type} [WaitTime δ] (policy : TailPolicy δ) (interval patience : ℚ) :
    Prop where
  /-- Intervals last. -/
  lasting : 0 < interval
  /-- Intervals add up. -/
  reached (count : Nat) : WaitTime.reached policy.patience (policy.passed count)
    = decide (patience ≤ count * interval)

/-- Rational times are exact. -/
theorem TailPolicy.exact (policy : TailPolicy ℚ) (lasting : 0 < policy.interval) :
    policy.Exact policy.interval policy.patience where
  lasting := lasting
  reached count := by
    rw [policy.passed_eq]
    rfl

namespace Iterator

variable {ω δ : Type}

/-! ## Waits since the last line -/

/-- How many waits came to their end since the last line was accepted, or since the beginning. -/
def waitsSince (events : List (Event δ)) : Nat :=
  events.foldl Event.waitsAfter 0

/-- How many waits among some events came to their end. -/
def wholeWaits (events : List (Event δ)) : Nat :=
  events.countP Event.isWholeWait

section Counting

variable {events more : List (Event δ)} {count : Nat}

theorem waitsSince_append (events more : List (Event δ)) :
    waitsSince (events ++ more) = more.foldl Event.waitsAfter (waitsSince events) :=
  List.foldl_append

/-- Every line and every wait counts, so there are no fewer waits than since the last line. -/
theorem foldl_waitsAfter_le (count : Nat) (events : List (Event δ)) :
    events.foldl Event.waitsAfter count ≤ count + wholeWaits events := by
  induction events generalizing count with
  | nil => exact Nat.le_refl count
  | cons event rest inductionHypothesis =>
    rw [List.foldl_cons, wholeWaits, List.countP_cons]
    refine Nat.le_trans (inductionHypothesis _) ?_
    cases event with
    | waited interval outcome =>
      rcases outcome with failure | closed
      · simp [Event.waitsAfter, Event.isWholeWait, wholeWaits]
      · cases closed <;> simp [Event.waitsAfter, Event.isWholeWait, wholeWaits]
        omega
    | clockRead | queried | accepted | stalled =>
      simp [Event.waitsAfter, Event.isWholeWait, wholeWaits]

/-- Since a line was accepted there are no fewer waits than since the last one. -/
theorem waitsSince_le_of_accepted (before after : List (Event δ)) (entry : Entry) :
    waitsSince (before ++ .accepted entry :: after) ≤ wholeWaits after := by
  rw [waitsSince_append, List.foldl_cons]
  simpa [Event.waitsAfter] using foldl_waitsAfter_le 0 after

/-- If no line was accepted since, all waits count. -/
theorem foldl_waitsAfter_of_noLine (noLine : acceptedEntries events = []) :
    events.foldl Event.waitsAfter count = count + wholeWaits events := by
  induction events generalizing count with
  | nil => rfl
  | cons event rest inductionHypothesis =>
    obtain ⟨noLineNow, noLineAfter⟩ := List.append_eq_nil_iff.mp
      ((acceptedEntries_cons event rest).symm.trans noLine)
    rw [List.foldl_cons, inductionHypothesis noLineAfter, wholeWaits, wholeWaits, List.countP_cons]
    cases event with
    | accepted entry => simp [Event.entry?] at noLineNow
    | waited interval outcome =>
      rcases outcome with failure | closed
      · simp [Event.waitsAfter, Event.isWholeWait]
      · cases closed <;> simp [Event.waitsAfter, Event.isWholeWait]
        omega
    | clockRead | queried | stalled => simp [Event.waitsAfter, Event.isWholeWait]

/-- The last line that was accepted, if there is one, starts the count. -/
theorem waitsSince_eq_wholeWaits (noLine : acceptedEntries events = []) :
    waitsSince events = wholeWaits events
      ∧ ∀ before entry, waitsSince (before ++ .accepted entry :: events) = wholeWaits events := by
  refine ⟨?_, fun before entry => ?_⟩
  · rw [waitsSince, foldl_waitsAfter_of_noLine noLine, Nat.zero_add]
  · rw [waitsSince_append, List.foldl_cons, foldl_waitsAfter_of_noLine noLine]
    simp [Event.waitsAfter]

/-- Without a wait only a line changes the count. -/
theorem foldl_waitsAfter_of_noWait (noWait : waitCount more = 0) :
    more.foldl Event.waitsAfter count = if acceptedEntries more = [] then count else 0 := by
  induction more generalizing count with
  | nil => rfl
  | cons event rest inductionHypothesis =>
    obtain ⟨noWaitAfter, noWaitNow⟩ := Nat.add_eq_zero_iff.mp
      ((List.countP_cons (p := Event.isWait)).symm.trans noWait)
    rw [List.foldl_cons, inductionHypothesis noWaitAfter]
    cases event with
    | waited interval outcome => simp [Event.isWait] at noWaitNow
    | accepted entry => simp [Event.waitsAfter, Event.entry?]
    | clockRead | queried | stalled => simp [Event.waitsAfter, Event.entry?]

/-- Without a wait there are no more waits at any time. -/
theorem waitsSince_le_of_isPrefix {limit : Nat} (noWait : waitCount more = 0)
    (few : ∀ before, before <+: events → waitsSince before ≤ limit) (before : List (Event δ))
    (isPrefix : before <+: events ++ more) : waitsSince before ≤ limit := by
  rcases List.prefix_or_prefix_of_prefix isPrefix (List.prefix_append events more) with
    early | ⟨first, rfl⟩
  · exact few before early
  · have first_of_more := (List.prefix_append_right_inj events).mp isPrefix
    have noWaitYet : waitCount first = 0 :=
      Nat.le_zero.mp (noWait ▸ first_of_more.sublist.countP_le)
    rw [waitsSince_append, foldl_waitsAfter_of_noWait noWaitYet]
    split
    · exact few events List.prefix_rfl
    · exact Nat.zero_le limit

end Counting

/-! ## The budget of a run -/

/-- The open window has reached the end of the scope. -/
def ReachedStop (iterator : Iterator δ) : Prop :=
  ∃ stop windowStop, iterator.scope.stopNanos = .ok (some stop)
    ∧ iterator.windowStop = some windowStop ∧ stop ≤ windowStop

/-- While a log grows, the last window is the one that reaches the end. -/
theorem reachedStop_of_isLastWindow {iterator : Iterator δ} {stop : Option Int} {windowStop : Int}
    (growing : iterator.scope.complete = false) (stopNanos : iterator.scope.stopNanos = .ok stop)
    (opened : iterator.windowStop = some windowStop)
    (isLast : iterator.isLastWindow stop windowStop = true) : iterator.ReachedStop := by
  cases stop with
  | none => simp [isLastWindow, growing] at isLast
  | some stop =>
    exact ⟨stop, windowStop, stopNanos, opened, by simpa [isLastWindow, growing] using isLast⟩

/-- The time that has passed is that of the waits since the last line, while the open window has no
line; they never exceed the limit, and an iterator that gives up has used it up. -/
structure Budgeted [WaitTime δ] (policy : TailPolicy δ) (scope : Scope) (limit : Nat)
    (stage : Stage) (run : Run ω δ) : Prop where
  sameScope : run.iterator.scope = scope
  samePolicy : run.iterator.policy = policy
  intervals : ∀ interval outcome, .waited interval outcome ∈ run.events →
    interval = policy.interval
  few : ∀ before, before <+: run.events → waitsSince before ≤ limit
  passed : run.iterator.windowCount = 0 →
    run.iterator.elapsed = policy.passed (waitsSince run.events)
  found : run.iterator.windowCount ≠ 0 → waitsSince run.events = 0
  toCome : stage = .waiting ∨ run.iterator.waitDue = true →
    run.iterator.windowCount = 0 ∧ waitsSince run.events < limit
  due : run.iterator.waitDue = true → stage = .resting
  usedUp : run.iterator.exhausted = true →
    run.iterator.ReachedStop ∨ waitsSince run.events = limit

namespace Budgeted

variable [WaitTime δ] {env : Surroundings ω δ} {policy : TailPolicy δ} {scope : Scope}
  {limit : Nat} {stage stage' : Stage} {run run' : Run ω δ}

theorem start {iterator : Iterator δ} (limit : Nat) (world : ω)
    (started : Iterator.start scope policy = .ok iterator) :
    Budgeted policy scope limit .resting (Run.start iterator world) := by
  obtain ⟨cursor, -, rfl⟩ := eq_of_start started
  exact
    { sameScope := rfl, samePolicy := rfl, intervals := by simp [Run.start]
      few := by simp [Run.start, waitsSince], passed := fun _ => rfl, found := by simp [Run.start]
      toCome := by simp [Run.start], due := by simp [Run.start], usedUp := by simp [Run.start] }

/-- There was no wait.  The window has new lines if some were accepted. -/
theorem noWait (budgeted : Budgeted policy scope limit stage run) {more : List (Event δ)}
    (noWait : waitCount more = 0) (events : run'.events = run.events ++ more)
    (sameScope : run'.iterator.scope = run.iterator.scope)
    (samePolicy : run'.iterator.policy = run.iterator.policy)
    (passed : run'.iterator.windowCount = 0 → acceptedEntries more = []
      ∧ run'.iterator.elapsed = policy.passed (waitsSince run.events))
    (found : run'.iterator.windowCount ≠ 0 →
      acceptedEntries more ≠ [] ∨ run.iterator.windowCount ≠ 0)
    (toCome : stage' = .waiting ∨ run'.iterator.waitDue = true →
      run'.iterator.windowCount = 0 ∧ waitsSince run.events < limit)
    (due : run'.iterator.waitDue = true → stage' = .resting)
    (usedUp : run'.iterator.exhausted = true →
      run'.iterator.ReachedStop ∨ acceptedEntries more = [] ∧ waitsSince run.events = limit) :
    Budgeted policy scope limit stage' run' := by
  have counted : waitsSince run'.events
      = if acceptedEntries more = [] then waitsSince run.events else 0 := by
    rw [events, waitsSince_append, foldl_waitsAfter_of_noWait noWait]
  refine
    { sameScope := sameScope.trans budgeted.sameScope
      samePolicy := samePolicy.trans budgeted.samePolicy
      intervals := fun interval outcome among => ?_
      few := events ▸ waitsSince_le_of_isPrefix noWait budgeted.few
      passed := fun foundNone => ?_, found := fun foundSome => ?_, toCome := fun isToCome => ?_
      due, usedUp := fun exhausted => ?_ }
  · rw [events, List.mem_append] at among
    refine among.elim (budgeted.intervals interval outcome) fun isNew => ?_
    exact absurd (List.countP_eq_zero.mp noWait _ isNew) (by simp [Event.isWait])
  · obtain ⟨noLine, isPassed⟩ := passed foundNone
    rw [counted, if_pos noLine, isPassed]
  · rw [counted]
    split
    · rename_i noLine
      exact budgeted.found ((found foundSome).resolve_left (not_not_intro noLine))
    · rfl
  · obtain ⟨foundNone, fewer⟩ := toCome isToCome
    rw [counted, if_pos (passed foundNone).1]
    exact ⟨foundNone, fewer⟩
  · rcases usedUp exhausted with reached | ⟨noLine, all⟩
    · exact Or.inl reached
    · exact Or.inr (by rw [counted, if_pos noLine, all])

/-- There was neither a wait nor a new line. -/
theorem still (budgeted : Budgeted policy scope limit stage run) {more : List (Event δ)}
    (noWait : waitCount more = 0) (noLine : acceptedEntries more = [])
    (events : run'.events = run.events ++ more)
    (sameScope : run'.iterator.scope = run.iterator.scope)
    (samePolicy : run'.iterator.policy = run.iterator.policy)
    (windowCount : run'.iterator.windowCount = run.iterator.windowCount)
    (elapsed : run'.iterator.elapsed = run.iterator.elapsed)
    (toCome : stage' = .waiting ∨ run'.iterator.waitDue = true →
      run.iterator.windowCount = 0 ∧ waitsSince run.events < limit)
    (due : run'.iterator.waitDue = true → stage' = .resting)
    (usedUp : run'.iterator.exhausted = true →
      run'.iterator.ReachedStop ∨ waitsSince run.events = limit) :
    Budgeted policy scope limit stage' run' :=
  budgeted.noWait noWait events sameScope samePolicy
    (fun foundNone => ⟨noLine, elapsed.trans (budgeted.passed (windowCount ▸ foundNone))⟩)
    (fun foundSome => Or.inr (windowCount ▸ foundSome))
    (fun isToCome => windowCount ▸ toCome isToCome) due
    fun exhausted => (usedUp exhausted).imp_right fun all => ⟨noLine, all⟩

/-- A page was taken in. -/
theorem page (budgeted : Budgeted policy scope limit stage run) {stop : Option Int}
    (hungry : Hungry run.iterator stop) {more : List (Event δ)} (noWait : waitCount more = 0)
    (events : run'.events = run.events ++ more)
    (same : SameBut { run.iterator with
      cursor := run'.iterator.cursor
      windowCount := run.iterator.windowCount + (acceptedEntries more).length } run'.iterator)
    (notWaiting : stage' ≠ .waiting) : Budgeted policy scope limit stage' run' := by
  refine budgeted.noWait noWait events same.scope same.policy (fun foundNone => ?_)
    (fun foundSome => ?_) (fun isToCome => ?_) (fun due => ?_) (fun exhausted => ?_)
  · obtain ⟨noneBefore, noneNow⟩ := Nat.add_eq_zero_iff.mp (same.windowCount.symm.trans foundNone)
    exact ⟨List.length_eq_zero_iff.mp noneNow, same.elapsed.trans (budgeted.passed noneBefore)⟩
  · rw [same.windowCount, Ne, Nat.add_eq_zero_iff, not_and_or, List.length_eq_zero_iff] at foundSome
    exact foundSome.symm
  · exact isToCome.elim (absurd · notWaiting) fun due =>
      absurd (same.waitDue.symm.trans due) (ne_true_of_eq_false hungry.notDue)
  · exact absurd (same.waitDue.symm.trans due) (ne_true_of_eq_false hungry.notDue)
  · exact absurd (same.exhausted.symm.trans exhausted) (ne_true_of_eq_false hungry.notExhausted)

/-- There was a wait, which came to its end or not. -/
theorem waited (budgeted : Budgeted policy scope limit .waiting run)
    (outcome : Except Failure Bool) {whole : Bool}
    (isWhole : (Event.waited run.iterator.policy.interval outcome).isWholeWait = whole)
    (notExhausted : run.iterator.exhausted = false)
    (events : run'.events = run.events ++ [.waited run.iterator.policy.interval outcome])
    (same : SameBut { run.iterator with
      elapsed := if whole then WaitTime.add run.iterator.elapsed run.iterator.policy.interval
        else run.iterator.elapsed
      waits := run'.iterator.waits
      closed := run'.iterator.closed } run'.iterator) :
    Budgeted policy scope limit .resting run' := by
  obtain ⟨foundNone, fewer⟩ := budgeted.toCome (Or.inl rfl)
  have notDue : run'.iterator.waitDue = false :=
    same.waitDue.trans (Bool.eq_false_iff.mpr fun due => by cases budgeted.due due)
  have counted : waitsSince run'.events = waitsSince run.events + if whole then 1 else 0 := by
    rw [events, waitsSince_append, ← isWhole]
    rcases outcome with failure | closed
    · rfl
    · cases closed <;> rfl
  refine
    { sameScope := same.scope.trans budgeted.sameScope
      samePolicy := same.policy.trans budgeted.samePolicy
      intervals := fun interval outcome among => ?_, few := fun before isPrefix => ?_
      passed := fun _ => ?_
      found := fun foundSome => absurd (same.windowCount.trans foundNone) foundSome
      toCome := by simp [notDue], due := by simp [notDue]
      usedUp := by simp [same.exhausted, notExhausted] }
  · rw [events, List.mem_append, List.mem_singleton] at among
    rcases among with earlier | now
    · exact budgeted.intervals interval outcome earlier
    · rw [← budgeted.samePolicy]
      exact (Event.waited.inj now).1
  · rw [events, List.prefix_concat_iff, ← events] at isPrefix
    rcases isPrefix with rfl | earlier
    · rw [counted]
      split <;> omega
    · exact budgeted.few before earlier
  · rw [same.elapsed, counted, budgeted.passed foundNone, budgeted.samePolicy]
    cases whole <;> rfl

/-- While the window has no line, the patience is reached after exactly so many waits. -/
theorem reached_iff {interval patience : ℚ} (exact : policy.Exact interval patience)
    (least : IsLeast {count : ℕ | patience ≤ count * interval} limit)
    (budgeted : Budgeted policy scope limit stage run) (foundNone : run.iterator.windowCount = 0) :
    WaitTime.reached run.iterator.policy.patience run.iterator.elapsed = true
      ↔ waitsSince run.events = limit := by
  rw [budgeted.samePolicy, budgeted.passed foundNone, exact.reached, decide_eq_true_iff]
  constructor
  · intro enough
    exact Nat.le_antisymm (budgeted.few _ List.prefix_rfl) (least.2 enough)
  · intro all
    rw [all]
    exact least.1

/-- While the patience is not reached, a wait is left. -/
theorem lt_limit {interval patience : ℚ} (exact : policy.Exact interval patience)
    (least : IsLeast {count : ℕ | patience ≤ count * interval} limit)
    (budgeted : Budgeted policy scope limit stage run) (foundNone : run.iterator.windowCount = 0)
    (patient : WaitTime.reached run.iterator.policy.patience run.iterator.elapsed = false) :
    waitsSince run.events < limit :=
  Nat.lt_of_le_of_ne (budgeted.few _ List.prefix_rfl) fun all =>
    absurd ((budgeted.reached_iff exact least foundNone).mpr all) (ne_true_of_eq_false patient)

/-- Every move keeps this. -/
theorem move {interval patience : ℚ} (fingerprinted : env.Fingerprinted)
    (exact : policy.Exact interval patience)
    (least : IsLeast {count : ℕ | patience ≤ count * interval} limit)
    (growing : scope.complete = false) (move : Move env (stage, run) (stage', run'))
    (budgeted : Budgeted policy scope limit stage run) :
    Budgeted policy scope limit stage' run' := by
  have notDue (away : stage ≠ .resting) : run.iterator.waitDue = false :=
    Bool.eq_false_iff.mpr fun due => away (budgeted.due due)
  cases move with
  | resume active nothingReady due =>
    exact budgeted.still rfl rfl (List.append_nil _).symm rfl rfl rfl rfl
      (fun _ => budgeted.toCome (Or.inr due)) (by simp) (by simp [active.notExhausted])
  | openFirst hungry unopened opening =>
    exact budgeted.still (waitCount_of_opening opening) (acceptedEntries_of_opening opening) rfl rfl
      rfl rfl rfl (by simp [Run.advance, hungry.notDue]) (by simp [Run.advance, hungry.notDue])
      (by simp [Run.advance, hungry.notExhausted])
  | useUp hungry =>
    exact budgeted.still rfl rfl (List.append_nil _).symm rfl rfl rfl rfl (by simp [hungry.notDue])
      (by simp [hungry.notDue]) (by simp [hungry.notExhausted])
  | @failQuery _ _ _ _ closes _ hungry =>
    cases closes <;>
      exact budgeted.still rfl rfl rfl rfl rfl rfl rfl (by simp [Run.advance, close, hungry.notDue])
        (by simp [Run.advance, close, hungry.notDue])
        (by simp [Run.advance, close, hungry.notExhausted])
  | dropPage hungry =>
    exact budgeted.still rfl rfl rfl rfl rfl rfl rfl (by simp [Run.advance, close, hungry.notDue])
      (by simp [Run.advance, close, hungry.notDue])
      (by simp [Run.advance, close, hungry.notExhausted])
  | breakOff hungry opened inside answer acceptance =>
    cases failure_eq_none fingerprinted answer acceptance
  | @turnPage _ _ windowStop batch world next taken cursor hungry opened inside answer
      acceptance =>
    have same := sameBut_of_acceptance acceptance
    have onward := sameBut_advance (max cursor ((next.countTaken taken).cursor + 1))
      (next.countTaken taken)
    have noWait : waitCount ((pageEvent run.iterator windowStop batch :: taken.map .accepted)
        ++ (follow cursor (next.countTaken taken) world).events) = 0 := by
      rw [waitCount_append, waitCount_page, waitCount_follow]
    refine budgeted.page hungry noWait (by simp [Run.after, Run.advance]) ?_ (by simp)
    rw [acceptedEntries_append, acceptedEntries_follow]
    simp only [Run.after, Run.advance, follow_eq]
    refine ⟨onward.scope.trans same.scope, onward.policy.trans same.policy, rfl,
      onward.windowStop.trans same.windowStop, onward.elapsed.trans same.elapsed, ?_,
      onward.waits.trans same.waits, onward.waitDue.trans same.waitDue,
      onward.exhausted.trans same.exhausted, onward.closed.trans same.closed⟩
    rw [onward.windowCount, countTaken, same.windowCount]
    simp [pageEvent, Event.entry?]
  | lastPage hungry opened inside answer acceptance =>
    have same := sameBut_of_acceptance acceptance
    refine budgeted.page hungry (waitCount_page _ _ _ _) rfl ?_ (by simp)
    refine ⟨same.scope, same.policy, rfl, same.windowStop, same.elapsed, ?_, same.waits,
      same.waitDue, same.exhausted, same.closed⟩
    simp [Run.advance, countTaken, same.windowCount, pageEvent, Event.entry?]
  | finish active opened isLast =>
    have reached : run.iterator.ReachedStop :=
      reachedStop_of_isLastWindow (budgeted.sameScope ▸ growing) active.stopNanos opened isLast
    exact budgeted.still rfl rfl (List.append_nil _).symm rfl rfl rfl rfl (by simp [notDue])
      (by simp) fun _ => Or.inl reached
  | renew active opened notLast foundSome =>
    have noneSince := budgeted.found foundSome
    refine budgeted.noWait (waitCount_openNext _ _ _ _) rfl ?_ ?_ ?_ ?_ ?_ ?_ ?_
    all_goals simp [Run.after, Run.advance, openNext_eq, notDue, active.notExhausted, noneSince]
    rfl
  | giveUp active opened notLast foundNone outOfPatience =>
    exact budgeted.still rfl rfl (List.append_nil _).symm rfl rfl rfl rfl (by simp [notDue])
      (by simp) fun _ => Or.inr ((budgeted.reached_iff exact least foundNone).mp outOfPatience)
  | postpone active opened notLast foundNone patient =>
    exact budgeted.still rfl rfl (List.append_nil _).symm rfl rfl rfl rfl
      (fun _ => ⟨foundNone, budgeted.lt_limit exact least foundNone patient⟩) (by simp)
      (by simp [active.notExhausted])
  | beginWait active opened notLast foundNone patient =>
    exact budgeted.still rfl rfl (List.append_nil _).symm rfl rfl rfl rfl
      (fun _ => ⟨foundNone, budgeted.lt_limit exact least foundNone patient⟩) (by simp [notDue])
      (by simp [active.notExhausted])
  | failWait active | breakWait active =>
    exact budgeted.waited _ rfl active.notExhausted rfl
      ⟨rfl, rfl, rfl, rfl, rfl, rfl, rfl, rfl, rfl, rfl⟩
  | @endWait _ _ world active =>
    -- The wait is counted first; the window that it leads to is opened without another one.
    have passed : Budgeted policy scope limit .resting (run.advance
        run.iterator.countWait.passInterval world
        [.waited run.iterator.policy.interval (.ok false)]) :=
      budgeted.waited _ rfl active.notExhausted rfl
        ⟨rfl, rfl, rfl, rfl, rfl, rfl, rfl, rfl, rfl, rfl⟩
    have foundNone := (budgeted.toCome (Or.inl rfl)).1
    refine passed.still (waitCount_openNext _ _ _ _) (acceptedEntries_openNext _ _ _ _) rfl
      ?_ ?_ ?_ ?_ ?_ ?_ ?_
    all_goals simp [Run.after, Run.advance, openNext_eq, countWait, passInterval, foundNone, notDue,
      active.notExhausted]
  | handOut | close =>
    exact budgeted.still rfl rfl (List.append_nil _).symm rfl rfl rfl rfl
      (fun isToCome => budgeted.toCome (isToCome.imp_left (by simp))) (fun _ => rfl) budgeted.usedUp

end Budgeted

/-- While a log grows, the waits are counted exactly.  Each of them lasts one interval.  At no time
are there more of them since the last line than the least number that makes up the patience, and an
iterator that has come to its end before its window reached the end of the scope has waited exactly
so often since then: every line that is accepted, on whatever page, starts the count anew. -/
theorem budget_exact [WaitTime δ] (env : Surroundings ω δ) {scope : Scope} {policy : TailPolicy δ}
    {interval patience : ℚ} {iterator : Iterator δ} (fingerprinted : env.Fingerprinted)
    (exact : policy.Exact interval patience) (growing : scope.complete = false)
    (started : Iterator.start scope policy = .ok iterator) (world : ω) (calls : List Call) :
    ∃ limit, IsLeast {count : ℕ | patience ≤ count * interval} limit ∧
      let run := (Run.start iterator world).calls env calls
      (∀ length outcome, .waited length outcome ∈ run.events → length = policy.interval)
        ∧ (∀ before, before <+: run.events → waitsSince before ≤ limit)
        ∧ (run.iterator.exhausted = true → ¬run.iterator.ReachedStop →
          waitsSince run.events = limit
            ∧ (acceptedEntries run.events = [] → wholeWaits run.events = limit)
            ∧ ∀ before entry after, run.events = before ++ .accepted entry :: after →
              limit ≤ wholeWaits after
                ∧ (acceptedEntries after = [] → wholeWaits after = limit)) := by
  obtain ⟨limit, least⟩ := TailPolicy.exists_isLeast ⟨interval, patience⟩ exact.lasting
  have budgeted := Path.invariant (Budgeted policy scope limit)
    (Budgeted.move fingerprinted exact least growing)
    (path_calls env (Run.start iterator world) calls) (Budgeted.start limit world started)
  refine ⟨limit, least, budgeted.intervals, budgeted.few, fun exhausted notReached => ?_⟩
  have all := (budgeted.usedUp exhausted).resolve_left notReached
  refine ⟨all, fun noLine => ?_, fun before entry after split => ⟨?_, fun noLine => ?_⟩⟩
  · rw [← all, (waitsSince_eq_wholeWaits noLine).1]
  · rw [← all, split]
    exact waitsSince_le_of_accepted before after entry
  · rw [← all, split, (waitsSince_eq_wholeWaits noLine).2]

/-- A backend with one line, at five nanoseconds.  The world is the time, and a wait takes ten. -/
def lateLine : Surroundings Nat ℚ where
  clock now := (now, now)
  query window now :=
    ((.ok ⟨if window.contains 5 then [⟨5, 0, [0x61], []⟩] else [], none⟩, false), now)
  wait _ _ now := (.ok false, now + 10)

theorem fingerprinted_lateLine : lateLine.Fingerprinted := by
  rintro window now batch closes later answer entry among
  simp only [lateLine, Prod.mk.injEq, Except.ok.injEq] at answer
  obtain ⟨⟨rfl, -⟩, -⟩ := answer
  dsimp only at among
  split at among
  · cases List.mem_singleton.mp among
    have encoded : Labels.encoded? [] = .ok [] := by cbv
    exact ⟨_, by rw [Entry.fingerprint, encoded]⟩
  · cases among

/-- The line comes after the first wait, and four more make up the patience. -/
theorem lateLine_budget_exact :
    ∃ iterator, Iterator.start (Scope.firstMicrosecond false) ⟨1 / 2, 2⟩ = .ok iterator ∧
      let run := (Run.start iterator 0).calls lateLine [.prefetch, .next 9, .next 9]
      run.iterator.exhausted = true ∧ ¬run.iterator.ReachedStop
        ∧ wholeWaits run.events = 5 ∧ waitsSince run.events = 4 := by
  have started : Iterator.start (Scope.firstMicrosecond false) (⟨1 / 2, 2⟩ : TailPolicy ℚ)
      = .ok _ := rfl
  refine ⟨_, started, ?_⟩
  intro run
  obtain ⟨limit, least, -, -, ended⟩ := budget_exact lateLine fingerprinted_lateLine
    (TailPolicy.exact ⟨1 / 2, 2⟩ (by norm_num)) rfl started 0 [.prefetch, .next 9, .next 9]
  have exhausted : run.iterator.exhausted = true := by decide +kernel
  have windowStop : run.iterator.windowStop = some 50 := by decide +kernel
  have notReached : ¬run.iterator.ReachedStop := by
    rintro ⟨stop, last, stopNanos, opened, reached⟩
    have sameScope : run.iterator.scope = Scope.firstMicrosecond false := by decide +kernel
    rw [sameScope] at stopNanos
    cases windowStop.symm.trans opened
    cases (show Except.ok (some 1000) = Except.ok (some stop) from stopNanos)
    omega
  have isFour : IsLeast {count : ℕ | (2 : ℚ) ≤ count * (1 / 2)} 4 := by
    refine ⟨by norm_num, fun count enough => ?_⟩
    have half : (2 : ℚ) ≤ count * (1 / 2) := enough
    exact_mod_cast (by linarith : (4 : ℚ) ≤ count)
  exact ⟨exhausted, notReached, by decide +kernel,
    (ended exhausted notReached).1.trans (least.unique isFour)⟩

end Iterator
end RunLog
