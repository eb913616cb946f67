import Mathlib.Data.Prod.Lex
import RunLog.Proofs.Retrying
import RunLog.Proofs.Windows

/-!
# Patience

An iterator that follows a growing log waits only while no line comes, and gives up when it has
waited long enough.  The waits since the last window with new lines add up; if so many intervals
reach the patience of its policy, it never waits more often before it hands out a line or comes to
its end.

What a fetch can do is said once, in `Advance` and `Readied`: the cursor moves on within a window,
a window with new lines is followed by another one, or there is a wait, which may fail.  These three
make up the measure by which a call comes to its end: the waits that are left, whether the window
has new lines, and what is left of the window.
-/

namespace RunLog

/-- Whether an event is a wait. -/
def Event.isWait {δ : Type} : Event δ → Bool
  | .waited _ _ => true
  | _ => false

/-- How much time passes when a policy lets its interval pass so many times. -/
def TailPolicy.passed {δ : Type} [WaitTime δ] (policy : TailPolicy δ) : Nat → δ
  | 0 => WaitTime.none
  | count + 1 => WaitTime.add (policy.passed count) policy.interval

namespace Iterator

variable {ω δ : Type}

/-- How many waits there are among some events. -/
def waitCount (events : List (Event δ)) : Nat :=
  events.countP Event.isWait

@[simp] theorem waitCount_nil : waitCount ([] : List (Event δ)) = 0 := rfl

@[simp] theorem waitCount_append (first second : List (Event δ)) :
    waitCount (first ++ second) = waitCount first + waitCount second :=
  List.countP_append

@[simp] theorem waitCount_waited (interval : δ) (outcome : Except Failure Bool) :
    waitCount [Event.waited interval outcome] = 1 := rfl

@[simp] theorem waitCount_page (iterator : Iterator δ) (windowStop : Int) (batch : Batch)
    (taken : List Entry) :
    waitCount (pageEvent iterator windowStop batch :: taken.map .accepted) = 0 := by
  simp [waitCount, pageEvent, Event.isWait]

@[simp] theorem waitCount_follow (next : Int) (iterator : Iterator δ) (world : ω) :
    waitCount (follow next iterator world).events = 0 := by
  rw [follow_eq]
  split <;> rfl

theorem waitCount_of_opening {env : Surroundings ω δ} {complete : Bool} {stop : Option Int}
    {world later : ω} {windowStop : Int} {events : List (Event δ)}
    (opening : newWindowStop env complete stop world = (windowStop, later, events)) :
    waitCount events = 0 := by
  rcases opening_cases opening with ⟨-, -, rfl⟩ | ⟨now, rfl, -⟩ <;> rfl

@[simp] theorem waitCount_openNext (env : Surroundings ω δ) (stop : Option Int)
    (iterator : Iterator δ) (world : ω) :
    waitCount (openNext env stop iterator world).events = 0 := by
  rw [openNext_eq]
  exact waitCount_of_opening rfl

/-- Every entry that is accepted is ready. -/
theorem length_ready_of_acceptance {stop : Option Int} {entries taken : List Entry}
    {iterator next : Iterator δ} {failure : Option Failure}
    (acceptance : acceptAll stop entries iterator = (next, taken, failure)) :
    next.ready.length = iterator.ready.length + taken.length := by
  have counted : (acceptAll stop entries iterator).1.ready.length
      = iterator.ready.length + (acceptAll stop entries iterator).2.1.length := by
    refine acceptAll_induction stop
      (fun taken next => next.ready.length = iterator.ready.length + taken.length) ?_ [] iterator
      rfl
    intro taken next entry fingerprint _ _ _ _ soFar
    simp [push, soFar, Nat.add_assoc]
  rwa [acceptance] at counted

/-- What going on leaves alone. -/
theorem sameBut_advance (cursor : Int) (iterator : Iterator δ) :
    SameBut { iterator with cursor := (iterator.advance cursor).cursor }
      (iterator.advance cursor) := by
  rw [advance_eq]
  exact ⟨rfl, rfl, rfl, rfl, rfl, rfl, rfl, rfl, rfl, rfl⟩

@[simp] theorem ready_advance (cursor : Int) (iterator : Iterator δ) :
    (iterator.advance cursor).ready = iterator.ready := by
  rw [advance_eq]

@[simp] theorem Step.after_after (step : Step ω δ) (first second : List (Event δ)) :
    (step.after second).after first = step.after (first ++ second) := by
  simp [Step.after]

/-- A failure that is the one of a query or of a wait of an interval among some events. -/
def FailedOn (interval : δ) (failure : Failure) (events : List (Event δ)) : Prop :=
  (∃ window, .queried window (.error failure) ∈ events) ∨ .waited interval (.error failure) ∈ events

theorem FailedOn.prepend {interval : δ} {failure : Failure} {events : List (Event δ)}
    (failedOn : FailedOn interval failure events) (earlier : List (Event δ)) :
    FailedOn interval failure (earlier ++ events) :=
  failedOn.imp
    (fun ⟨window, among⟩ => ⟨window, List.mem_append_right earlier among⟩)
    (List.mem_append_right earlier)

/-! ## What a fetch can do -/

section Fetching

variable [WaitTime δ] {env : Surroundings ω δ} {stop : Option Int} {windowStop : Int}
  {iterator : Iterator δ} {world : ω} {step : Step ω δ}

/-- What becomes of an iterator with an open window when it asks for a page, or goes on after the
window. -/
inductive Advance (iterator : Iterator δ) (windowStop : Int) : Step ω δ → Prop
  /-- The query fails. -/
  | failed {step : Step ω δ} (failure : Failure) (failed : step.failure = some failure)
      (query : ∃ window, .queried window (.error failure) ∈ step.events)
      (noWait : waitCount step.events = 0) : Advance iterator windowStop step
  /-- The iterator is closed during the query. -/
  | closed {step : Step ω δ} (noFailure : step.failure = none)
      (closed : step.iterator.closed = true) (noWait : waitCount step.events = 0) :
      Advance iterator windowStop step
  /-- Nothing more can come. -/
  | exhausted {step : Step ω δ} (noFailure : step.failure = none)
      (notClosed : step.iterator.closed = false) (exhausted : step.iterator.exhausted = true)
      (noWait : waitCount step.events = 0) : Advance iterator windowStop step
  /-- The cursor moves on within the window. -/
  | turned {step : Step ω δ} (noFailure : step.failure = none)
      (same : SameBut { iterator with
        cursor := step.iterator.cursor, windowCount := step.iterator.windowCount } step.iterator)
      (inside : iterator.cursor < windowStop) (further : iterator.cursor < step.iterator.cursor)
      (count : step.iterator.ready = [] → step.iterator.windowCount = iterator.windowCount)
      (noWait : waitCount step.events = 0) : Advance iterator windowStop step
  /-- After a window with new lines the next one is opened. -/
  | renewed {step : Step ω δ} (noFailure : step.failure = none)
      (same : ∃ later, SameBut { iterator with
        cursor := step.iterator.cursor, windowStop := some later, windowCount := 0,
        elapsed := WaitTime.none } step.iterator)
      (growing : iterator.scope.complete = false)
      (found : step.iterator.ready = [] → iterator.windowCount ≠ 0)
      (noWait : waitCount step.events = 0) : Advance iterator windowStop step
  /-- After a window without new lines there is a wait, and the next one is opened unless the
  iterator is closed meanwhile. -/
  | waited {step : Step ω δ} (noFailure : step.failure = none)
      (foundNone : iterator.windowCount = 0)
      (patient : WaitTime.reached iterator.policy.patience iterator.elapsed = false)
      (growing : iterator.scope.complete = false)
      (onward : step.iterator.closed = true ∨ step.iterator.ready = [] ∧ ∃ later,
        SameBut { iterator with
          cursor := step.iterator.cursor, windowStop := some later, windowCount := 0,
          elapsed := WaitTime.add iterator.elapsed iterator.policy.interval,
          waits := step.iterator.waits } step.iterator)
      (oneWait : waitCount step.events = 1) : Advance iterator windowStop step
  /-- After a window without new lines there was to be a wait, which fails. -/
  | failedWait {step : Step ω δ} (failure : Failure) (failed : step.failure = some failure)
      (wait : .waited iterator.policy.interval (.error failure) ∈ step.events)
      (foundNone : iterator.windowCount = 0)
      (patient : WaitTime.reached iterator.policy.patience iterator.elapsed = false)
      (growing : iterator.scope.complete = false)
      (oneWait : waitCount step.events = 1) : Advance iterator windowStop step

/-- Going on after a window, when what was ready and counted before is known. -/
theorem advance_finishWindow {used : Iterator δ} {events : List (Event δ)}
    (same : SameBut { iterator with windowCount := used.windowCount } used)
    (notClosed : iterator.closed = false)
    (count : used.ready = [] → used.windowCount = iterator.windowCount)
    (noneTaken : used.windowCount = 0 → iterator.windowCount = 0 ∧ used.ready = [])
    (noWait : waitCount events = 0) :
    Advance iterator windowStop
      ((finishWindow env true stop windowStop used world).after events) := by
  have stillOpen : used.closed = false := same.closed.trans notClosed
  unfold finishWindow
  dsimp only
  split
  · exact .exhausted rfl stillOpen rfl (by simpa [Step.after] using noWait)
  · rename_i notLast
    have growing : iterator.scope.complete = false := by
      rw [← same.scope]
      exact complete_of_notLast (Bool.eq_false_iff.mpr notLast)
    split
    · rename_i found
      refine .renewed (by simp) ?_ growing (fun nothingReady => ?_)
        (by simp [Step.after, noWait])
      · rw [Step.iterator_after, openNext_eq]
        exact ⟨_, same.scope, same.policy, rfl, rfl, rfl, rfl, same.waits, same.waitDue,
          same.exhausted, same.closed⟩
      · rw [← count]
        · exact found
        · simpa [openNext_eq] using nothingReady
    · rename_i foundNone
      obtain ⟨foundNone, nothingReady⟩ := noneTaken (Classical.not_not.mp foundNone)
      split
      · exact .exhausted rfl stillOpen rfl (by simpa [Step.after] using noWait)
      · rename_i patient
        have patient : WaitTime.reached iterator.policy.patience iterator.elapsed = false := by
          simpa [same.policy, same.elapsed] using patient
        rw [if_pos rfl]
        obtain ⟨failure, later, eq⟩ | ⟨later, eq⟩ | ⟨later, eq⟩ :=
          waitThenOpen_cases env stop used world
        · rw [eq]
          refine .failedWait failure rfl (List.mem_append_right events ?_) foundNone patient
            growing (by simp [Step.after, noWait])
          rw [same.policy]
          exact List.mem_singleton_self _
        · rw [eq]
          exact .waited rfl foundNone patient growing (Or.inl rfl) (by simp [Step.after, noWait])
        · rw [eq]
          refine .waited (by simp) foundNone patient growing (Or.inr ?_) ?_
          · simp only [Step.iterator_after, openNext_eq]
            refine ⟨nothingReady, _, same.scope, same.policy, rfl, rfl, ?_, rfl, rfl,
              same.waitDue, same.exhausted, same.closed⟩
            simp [countWait, passInterval, same.elapsed, same.policy]
          · simp only [Step.after, waitCount_append, noWait, waitCount_openNext, waitCount_waited]

/-- An iterator with an open window advances. -/
theorem advance_advanceWindow (fingerprinted : env.Fingerprinted) (hungry : Hungry iterator stop) :
    Advance iterator windowStop (advanceWindow env true stop windowStop iterator world) := by
  unfold advanceWindow
  split
  · rename_i past
    have whole : Advance iterator windowStop
        ((finishWindow env true stop windowStop iterator world).after []) :=
      advance_finishWindow ⟨rfl, rfl, rfl, rfl, rfl, rfl, rfl, rfl, rfl, rfl⟩ hungry.notClosed
        (fun _ => rfl) (fun foundNone => ⟨foundNone, hungry.nothingReady⟩) rfl
    rwa [Step.after_nil] at whole
  · rename_i inside
    rw [load_eq]
    rcases answer : env.query ⟨iterator.cursor, windowStop⟩ world
      with ⟨⟨_ | batch, closes⟩, later⟩
    case error failure =>
      exact .failed failure rfl ⟨_, List.mem_cons_self⟩ rfl
    case ok =>
      cases closes with
      | true => exact .closed rfl rfl rfl
      | false =>
        rw [takeReply_page]
        rcases acceptance : acceptAll stop (Entry.sorted batch.entries) iterator
          with ⟨next, taken, failure⟩
        cases failure_eq_none fingerprinted answer acceptance
        have same := sameBut_of_acceptance acceptance
        have lengths := length_ready_of_acceptance acceptance
        rw [hungry.nothingReady, List.length_nil, Nat.zero_add] at lengths
        have noneTaken (nothingReady : (next.countTaken taken).ready = []) : taken.length = 0 := by
          rw [← lengths]
          exact List.length_eq_zero_iff.mpr nothingReady
        cases turned : batch.next with
        | some cursor =>
          rw [takeIn_turned true acceptance turned, Step.after_after]
          have onward := sameBut_advance (max cursor ((next.countTaken taken).cursor + 1))
            (next.countTaken taken)
          refine .turned ?_ ?_ (Int.not_le.mp inside) ?_ (fun nothingReady => ?_) ?_
          · rw [Step.failure_after, follow_eq]
          · rw [Step.iterator_after, follow_eq]
            exact ⟨onward.scope.trans same.scope, onward.policy.trans same.policy, rfl,
              onward.windowStop.trans same.windowStop, onward.elapsed.trans same.elapsed, rfl,
              onward.waits.trans same.waits, onward.waitDue.trans same.waitDue,
              onward.exhausted.trans same.exhausted, onward.closed.trans same.closed⟩
          · rw [Step.iterator_after, follow_eq, cursor_advance, countTaken, same.cursor]
            omega
          · rw [Step.iterator_after, follow_eq] at nothingReady ⊢
            rw [onward.windowCount, countTaken, noneTaken (by simpa using nothingReady),
              same.windowCount]
            rfl
          · change waitCount ((pageEvent iterator windowStop batch :: taken.map .accepted)
              ++ (follow cursor (next.countTaken taken) later).events) = 0
            rw [waitCount_append, waitCount_page, waitCount_follow]
        | none =>
          rw [takeIn_last true acceptance turned, Step.after_after]
          refine advance_finishWindow ?_ hungry.notClosed (fun nothingReady => ?_)
            (fun foundNone => ?_) (waitCount_page _ _ _ _)
          · exact ⟨same.scope, same.policy, same.cursor, same.windowStop, same.elapsed, rfl,
              same.waits, same.waitDue, same.exhausted, same.closed⟩
          · rw [countTaken, noneTaken nothingReady, same.windowCount]
            rfl
          · obtain ⟨noneBefore, noneNow⟩ := Nat.add_eq_zero_iff.mp foundNone
            exact ⟨same.windowCount.symm.trans noneBefore,
              List.length_eq_zero_iff.mp (lengths.trans noneNow)⟩

/-- What an iterator has become when it asks for a page, after a number of waits. -/
inductive Readied (iterator : Iterator δ) : Iterator δ → Nat → Prop
  /-- Its window was open. -/
  | opened {windowStop : Int} (opened : iterator.windowStop = some windowStop) :
      Readied iterator iterator 0
  /-- Its first window was opened. -/
  | first (windowStop : Int) (unopened : iterator.windowStop = none) :
      Readied iterator { iterator with windowStop := some windowStop } 0
  /-- A wait was made up for. -/
  | due {asking : Iterator δ} (due : iterator.waitDue = true) (later : Int)
      (same : SameBut { iterator with
        cursor := asking.cursor, windowStop := some later, windowCount := 0,
        elapsed := WaitTime.add iterator.elapsed iterator.policy.interval,
        waits := asking.waits, waitDue := false } asking) :
      Readied iterator asking 1

/-- A fetch is cut short by a wait during which the iterator is closed or which fails, or comes to a
page of an open window. -/
theorem fetch_readied (env : Surroundings ω δ) (world : ω) (active : Active iterator stop)
    (nothingReady : iterator.ready = []) :
    (iterator.waitDue = true ∧ waitCount (fetch env true iterator world).events = 1
        ∧ ((fetch env true iterator world).failure = none
            ∧ (fetch env true iterator world).iterator.closed = true
          ∨ ∃ failure, (fetch env true iterator world).failure = some failure
            ∧ .waited iterator.policy.interval (.error failure)
              ∈ (fetch env true iterator world).events))
      ∨ ∃ (asking : Iterator δ) (windowStop : Int) (later : ω) (events : List (Event δ)),
        Hungry asking stop ∧ asking.windowStop = some windowStop
          ∧ Readied iterator asking (waitCount events)
          ∧ fetch env true iterator world
            = (advanceWindow env true stop windowStop asking later).after events := by
  cases due : iterator.waitDue with
  | false =>
    have hungry : Hungry iterator stop := ⟨active, nothingReady, due⟩
    refine Or.inr ?_
    cases opened : iterator.windowStop with
    | some windowStop =>
      exact ⟨iterator, windowStop, world, [], hungry, opened, .opened opened,
        fetch_of_hungry true hungry opened⟩
    | none =>
      rcases opening : newWindowStop env iterator.scope.complete stop world
        with ⟨windowStop, later, events⟩
      refine ⟨{ iterator with windowStop := some windowStop }, windowStop, later, events,
        ⟨⟨active.notClosed, active.notExhausted, active.stopNanos⟩, nothingReady, due⟩, rfl, ?_, ?_⟩
      · rw [waitCount_of_opening opening]
        exact .first windowStop opened
      · simp [fetch, active.stopNanos, fetchWithin, due, fetchOpen, opened, opening]
  | true =>
    let settled : Iterator δ := { iterator with waitDue := false }
    have asks : Hungry settled stop :=
      ⟨⟨active.notClosed, active.notExhausted, active.stopNanos⟩, nothingReady, rfl⟩
    have whole : fetch env true iterator world
        = let waited := waitThenOpen env stop settled world
          if waited.iterator.closed || waited.failure.isSome then waited
          else (fetch env true waited.iterator waited.world).after waited.events := by
      rw [← fetch_of_due true asks]
      simp only [settled, ← due]
    rw [whole]
    obtain ⟨failure, afterwards, eq⟩ | ⟨afterwards, eq⟩ | ⟨afterwards, eq⟩ :=
      waitThenOpen_cases env stop settled world
    · rw [eq]
      simp only [Option.isSome_some, Bool.or_true, if_true]
      exact Or.inl ⟨trivial, rfl, Or.inr ⟨failure, rfl, List.mem_singleton_self _⟩⟩
    · rw [eq]
      exact Or.inl ⟨rfl, rfl, Or.inl ⟨rfl, rfl⟩⟩
    · let opening := openNext env stop settled.countWait.passInterval afterwards
      have same : SameBut { iterator with
          cursor := opening.iterator.cursor, windowStop := opening.iterator.windowStop,
          windowCount := 0, elapsed := WaitTime.add iterator.elapsed iterator.policy.interval,
          waits := opening.iterator.waits, waitDue := false } opening.iterator := by
        simp only [opening, openNext_eq]
        exact ⟨rfl, rfl, rfl, rfl, rfl, rfl, rfl, rfl, rfl, rfl⟩
      obtain ⟨windowStop, opened⟩ :
          ∃ windowStop, opening.iterator.windowStop = some windowStop := by
        simp only [opening, openNext_eq]
        exact ⟨_, rfl⟩
      have stillOpen : opening.iterator.closed = false := same.closed.trans active.notClosed
      have hungry : Hungry opening.iterator stop := by
        have asksThen := hungry_waitThenOpen env world asks.toActive asks.nothingReady
          asks.notDue
        rw [eq] at asksThen
        exact asksThen stillOpen
      rw [eq]
      refine Or.inr ⟨opening.iterator, windowStop, opening.world,
        .waited settled.policy.interval (.ok false) :: opening.events, hungry, opened, ?_, ?_⟩
      · have oneWait : waitCount
            (.waited settled.policy.interval (.ok false) :: opening.events) = 1 := by
          change waitCount ([.waited settled.policy.interval (.ok false)] ++ opening.events) = 1
          rw [waitCount_append, waitCount_waited, waitCount_openNext]
        rw [oneWait]
        exact .due due windowStop (opened ▸ same)
      · rw [← fetch_of_hungry true hungry opened]
        have goesOn : (opening.iterator.closed || opening.failure.isSome) = false := by
          rw [stillOpen, failure_openNext]
          rfl
        exact if_neg (ne_true_of_eq_false goesOn)

end Fetching

/-! ## The waits that are left -/

section Left

variable [WaitTime δ] {env : Surroundings ω δ} {policy : TailPolicy δ} {scope : Scope}
  {limit left : Nat} {iterator : Iterator δ}

/-- A policy is out of patience after a number of intervals, unless the scope is complete. -/
def Bounded (policy : TailPolicy δ) (scope : Scope) (limit : Nat) : Prop :=
  scope.complete = false → WaitTime.reached policy.patience (policy.passed limit) = true

/-- While the patience is not reached, another interval can pass. -/
theorem Bounded.lt {count : Nat} (bounded : Bounded policy scope limit)
    (growing : scope.complete = false) (few : count ≤ limit)
    (notReached : WaitTime.reached policy.patience (policy.passed count) = false) :
    count < limit := by
  refine Nat.lt_of_le_of_ne few ?_
  rintro rfl
  exact absurd (bounded growing) (ne_true_of_eq_false notReached)

/-- How many waits are left to an iterator until a line comes. -/
inductive Left (policy : TailPolicy δ) (limit : Nat) (iterator : Iterator δ) : Nat → Prop
  /-- The window has no new line so far, and some intervals have passed. -/
  | quiet (count left : Nat) (foundNone : iterator.windowCount = 0)
      (elapsed : iterator.elapsed = policy.passed count) (sum : count + left = limit)
      (due : iterator.waitDue = true → 0 < left) : Left policy limit iterator left
  /-- The window has new lines. -/
  | busy (found : iterator.windowCount ≠ 0) (notDue : iterator.waitDue = false) :
      Left policy limit iterator limit

/-- An iterator over a scope that follows a policy, with so many waits left. -/
structure Patient (policy : TailPolicy δ) (scope : Scope) (limit left : Nat)
    (iterator : Iterator δ) : Prop where
  sameScope : iterator.scope = scope
  samePolicy : iterator.policy = policy
  left : Left policy limit iterator left

/-- How many nanoseconds are left of the open window. -/
def remaining (iterator : Iterator δ) : Nat :=
  match iterator.windowStop with
  | some windowStop => (windowStop - iterator.cursor).toNat
  | none => 0

/-- The effort that is left until a call comes to its end: the waits, the windows that are opened
without one, and what is left of the window. -/
def effort (left : Nat) (iterator : Iterator δ) : ℕ ×ₗ ℕ ×ₗ ℕ :=
  toLex (left, toLex
    ((if iterator.windowCount = 0 then 0 else 1) + (if iterator.windowStop = none then 1 else 0),
      iterator.remaining))

namespace Patient

/-- A wait that is put off is one of those that are left. -/
theorem due (patient : Patient policy scope limit left iterator) (due : iterator.waitDue = true) :
    iterator.windowCount = 0 ∧ 0 < left := by
  cases patient.left with
  | quiet _ _ foundNone _ _ positive => exact ⟨foundNone, positive due⟩
  | busy _ notDue => exact absurd due (ne_true_of_eq_false notDue)

/-- After a wait one wait less is left. -/
theorem waited {later : Iterator δ} (patient : Patient policy scope limit left iterator)
    (foundNone : iterator.windowCount = 0) (someLeft : 0 < left)
    (sameScope : later.scope = iterator.scope) (samePolicy : later.policy = iterator.policy)
    (nowNone : later.windowCount = 0) (notDue : later.waitDue = false)
    (elapsed : later.elapsed = WaitTime.add iterator.elapsed iterator.policy.interval) :
    Patient policy scope limit (left - 1) later := by
  refine ⟨sameScope.trans patient.sameScope, samePolicy.trans patient.samePolicy, ?_⟩
  cases patient.left with
  | busy found => exact absurd foundNone found
  | quiet count left _ isPassed sum =>
    refine .quiet (count + 1) (left - 1) nowNone ?_ (by omega) (by simp [notDue])
    rw [elapsed, isPassed, patient.samePolicy]
    rfl

/-- While the patience is not reached, a wait is left. -/
theorem someLeft (bounded : Bounded policy scope limit)
    (patient : Patient policy scope limit left iterator) (foundNone : iterator.windowCount = 0)
    (growing : iterator.scope.complete = false)
    (notReached : WaitTime.reached iterator.policy.patience iterator.elapsed = false) :
    0 < left := by
  cases patient.left with
  | busy found => exact absurd foundNone found
  | quiet count left _ isPassed sum =>
    rw [isPassed, patient.samePolicy] at notReached
    have := bounded.lt (patient.sameScope ▸ growing) (by omega) notReached
    omega

/-- What an iterator has become when it asks for a page takes no more effort than it did. -/
theorem readied (patient : Patient policy scope limit left iterator) {asking : Iterator δ}
    {waits : Nat} (readied : Readied iterator asking waits) :
    ∃ fewer, Patient policy scope limit fewer asking ∧ waits + fewer ≤ left
      ∧ effort fewer asking ≤ effort left iterator := by
  cases readied with
  | opened => exact ⟨left, patient, by omega, le_refl _⟩
  | first windowStop unopened =>
    refine ⟨left, ⟨patient.sameScope, patient.samePolicy, ?_⟩, by omega, le_of_lt ?_⟩
    · cases patient.left with
      | quiet count _ foundNone elapsed sum due => exact .quiet count _ foundNone elapsed sum due
      | busy found notDue => exact .busy found notDue
    · simp [effort, unopened, Prod.Lex.toLex_lt_toLex]
  | due due later same =>
    obtain ⟨foundNone, someLeft⟩ := patient.due due
    refine ⟨left - 1, patient.waited foundNone someLeft same.scope same.policy same.windowCount
      same.waitDue same.elapsed, by omega, le_of_lt ?_⟩
    exact Prod.Lex.toLex_lt_toLex.mpr (Or.inl (Nat.sub_lt someLeft Nat.one_pos))

end Patient

/-- What comes of a fetch when so many waits are left. -/
inductive Fetched (policy : TailPolicy δ) (scope : Scope) (limit left : Nat)
    (iterator : Iterator δ) (step : Step ω δ) : Prop
  /-- A query or a wait failed. -/
  | failed (failure : Failure) (failed : step.failure = some failure)
      (cause : FailedOn policy.interval failure step.events)
      (few : waitCount step.events ≤ left)
  /-- The call is answered without another fetch. -/
  | found (noFailure : step.failure = none) (needsNoFetch : NeedsNoFetch step.iterator)
      (few : waitCount step.events ≤ left)
  /-- Another fetch takes less effort. -/
  | onward (noFailure : step.failure = none) (fewer : Nat)
      (patient : Patient policy scope limit fewer step.iterator)
      (few : waitCount step.events + fewer ≤ left)
      (less : effort fewer step.iterator < effort left iterator)

theorem fetched_of_advance {windowStop : Int} {step : Step ω δ}
    (bounded : Bounded policy scope limit) (patient : Patient policy scope limit left iterator)
    (notDue : iterator.waitDue = false) (opened : iterator.windowStop = some windowStop)
    (advance : Advance iterator windowStop step) :
    Fetched policy scope limit left iterator step := by
  cases advance with
  | failed failure failed query noWait =>
    exact .failed failure failed (Or.inl query) (by omega)
  | closed noFailure closed noWait => exact .found noFailure (Or.inl closed) (by omega)
  | exhausted noFailure _ exhausted noWait =>
    exact .found noFailure (Or.inr (Or.inr exhausted)) (by omega)
  | turned noFailure same inside further count noWait =>
    by_cases nothingReady : step.iterator.ready = []
    · have sameCount := count nothingReady
      refine .onward noFailure left ⟨same.scope.trans patient.sameScope,
        same.policy.trans patient.samePolicy, ?_⟩ (by omega) ?_
      · cases patient.left with
        | quiet count _ foundNone elapsed sum =>
          exact .quiet count _ (sameCount.trans foundNone) (same.elapsed.trans elapsed) sum
            (by simp [same.waitDue, notDue])
        | busy found => exact .busy (sameCount ▸ found) (same.waitDue.trans notDue)
      · simp only [effort, remaining, sameCount, same.windowStop, opened, Prod.Lex.toLex_lt_toLex,
          lt_self_iff_false, true_and, false_or]
        omega
    · exact .found noFailure (Or.inr (Or.inl nothingReady)) (by omega)
  | renewed noFailure same _ found noWait =>
    by_cases nothingReady : step.iterator.ready = []
    · have foundSome := found nothingReady
      obtain ⟨later, same⟩ := same
      cases patient.left with
      | quiet _ _ foundNone => exact absurd foundNone foundSome
      | busy =>
        refine .onward noFailure limit ⟨same.scope.trans patient.sameScope,
          same.policy.trans patient.samePolicy, .quiet 0 limit same.windowCount same.elapsed
            (Nat.zero_add limit) (by simp [same.waitDue, notDue])⟩ (by omega) ?_
        simp [effort, same.windowCount, same.windowStop, opened, foundSome,
          Prod.Lex.toLex_lt_toLex]
    · exact .found noFailure (Or.inr (Or.inl nothingReady)) (by omega)
  | waited noFailure foundNone notReached growing onward oneWait =>
    have someLeft := patient.someLeft bounded foundNone growing notReached
    rcases onward with closed | ⟨-, later, same⟩
    · exact .found noFailure (Or.inl closed) (by omega)
    · exact .onward noFailure (left - 1) (patient.waited foundNone someLeft same.scope same.policy
        same.windowCount (same.waitDue.trans notDue) same.elapsed) (by omega)
        (Prod.Lex.toLex_lt_toLex.mpr (Or.inl (Nat.sub_lt someLeft Nat.one_pos)))
  | failedWait failure failed wait foundNone notReached growing oneWait =>
    have someLeft := patient.someLeft bounded foundNone growing notReached
    exact .failed failure failed (Or.inr (patient.samePolicy ▸ wait)) (by omega)

/-- A fetch fails with a query or a wait, answers the call, or makes the next fetch take less
effort. -/
theorem fetched {stop : Option Int} (fingerprinted : env.Fingerprinted)
    (bounded : Bounded policy scope limit) (stopNanos : scope.stopNanos = .ok stop)
    (patient : Patient policy scope limit left iterator) (hungry : ¬NeedsNoFetch iterator)
    (world : ω) :
    Fetched policy scope limit left iterator (fetch env true iterator world) := by
  obtain ⟨notClosed, nothingReady, notExhausted⟩ := not_needsNoFetch.mp hungry
  have active : Active iterator stop :=
    ⟨notClosed, notExhausted, patient.sameScope ▸ stopNanos⟩
  rcases fetch_readied env world active nothingReady with
    ⟨due, oneWait, ⟨noFailure, closed⟩ | ⟨failure, failed, wait⟩⟩
      | ⟨asking, windowStop, later, events, asks, opened, readied, whole⟩
  · have someLeft := (patient.due due).2
    exact .found noFailure (Or.inl closed) (by omega)
  · have someLeft := (patient.due due).2
    exact .failed failure failed (Or.inr (patient.samePolicy ▸ wait)) (by omega)
  · obtain ⟨still, patientStill, fewBefore, noMore⟩ := patient.readied readied
    have advance :
        Advance asking windowStop (advanceWindow env true stop windowStop asking later) :=
      advance_advanceWindow fingerprinted asks
    rw [whole]
    cases fetched_of_advance bounded patientStill asks.notDue opened advance with
    | failed failure failed cause few =>
      refine .failed failure failed (cause.prepend events) ?_
      simp only [Step.after, waitCount_append]
      omega
    | found noFailure needsNoFetch few =>
      refine .found noFailure needsNoFetch ?_
      simp only [Step.after, waitCount_append]
      omega
    | onward noFailure fewer patientAfter few less =>
      refine .onward noFailure fewer patientAfter ?_ (lt_of_lt_of_le less noMore)
      simp only [Step.after, waitCount_append]
      omega

end Left

/-! ## Calls that come to their end -/

section Settling

variable [WaitTime δ] {env : Surroundings ω δ} {iterator : Iterator δ} {world : ω}
  {pull : Pull ω δ}

/-- This comes of asking for the next entry, with as many fetches as it takes. -/
def Settles (env : Surroundings ω δ) (iterator : Iterator δ) (world : ω) (pull : Pull ω δ) : Prop :=
  ∃ enough, ∀ fuel, enough ≤ fuel → next env fuel iterator world = pull

/-- What comes after a fetch comes with the fetch as well. -/
theorem Settles.fetched (hungry : ¬NeedsNoFetch iterator)
    (fetched : (fetch env true iterator world).failure = none)
    (settles : Settles env (fetch env true iterator world).iterator
      (fetch env true iterator world).world pull) :
    Settles env iterator world
      { pull with events := (fetch env true iterator world).events ++ pull.events } := by
  obtain ⟨notClosed, nothingReady, notExhausted⟩ := not_needsNoFetch.mp hungry
  obtain ⟨enough, eq⟩ := settles
  refine ⟨enough + 1, fun fuel more => ?_⟩
  obtain ⟨fuel, rfl⟩ := Nat.exists_eq_add_of_le' (Nat.le_of_add_left_le more)
  rw [next_fetched env fuel notClosed nothingReady notExhausted fetched]
  dsimp only
  rw [eq fuel (by omega)]

end Settling

/-! ## The waits of a run -/

/-- What is known of a run over a scope that follows a policy: no more intervals have passed since
the last window with new lines than a limit, and fewer of them while a wait is to come. -/
structure Tolerant [WaitTime δ] (policy : TailPolicy δ) (scope : Scope) (limit : Nat)
    (stage : Stage) (run : Run ω δ) : Prop where
  sameScope : run.iterator.scope = scope
  samePolicy : run.iterator.policy = policy
  passed : ∃ count, run.iterator.elapsed = policy.passed count ∧ count ≤ limit
    ∧ (stage = .waiting ∨ run.iterator.waitDue = true → count < limit)
  due : run.iterator.waitDue = true → stage = .resting ∧ run.iterator.windowCount = 0

namespace Tolerant

variable [WaitTime δ] {env : Surroundings ω δ} {policy : TailPolicy δ} {scope : Scope}
  {limit : Nat} {stage stage' : Stage} {run run' : Run ω δ}

theorem start {iterator : Iterator δ} (limit : Nat) (world : ω)
    (started : Iterator.start scope policy = .ok iterator) :
    Tolerant policy scope limit .resting (Run.start iterator world) := by
  obtain ⟨cursor, -, rfl⟩ := eq_of_start started
  exact ⟨rfl, rfl, ⟨0, rfl, Nat.zero_le limit, by simp [Run.start]⟩, by simp [Run.start]⟩

/-- Nothing has passed, and no wait is to come that was not before. -/
theorem still (tolerant : Tolerant policy scope limit stage run)
    (sameScope : run'.iterator.scope = run.iterator.scope)
    (samePolicy : run'.iterator.policy = run.iterator.policy)
    (elapsed : run'.iterator.elapsed = run.iterator.elapsed) (notWaiting : stage' ≠ .waiting)
    (due : run'.iterator.waitDue = true → run.iterator.waitDue = true ∧ stage' = .resting
      ∧ run'.iterator.windowCount = run.iterator.windowCount) :
    Tolerant policy scope limit stage' run' := by
  obtain ⟨count, isPassed, few, fewer⟩ := tolerant.passed
  refine ⟨sameScope.trans tolerant.sameScope, samePolicy.trans tolerant.samePolicy,
    ⟨count, elapsed.trans isPassed, few, ?_⟩, fun isDue => ?_⟩
  · rintro (waiting | isDue)
    · exact absurd waiting notWaiting
    · exact fewer (Or.inr (due isDue).1)
  · obtain ⟨wasDue, resting, sameCount⟩ := due isDue
    exact ⟨resting, sameCount.trans (tolerant.due wasDue).2⟩

/-- While the patience is not reached, fewer intervals have passed than can. -/
theorem fewer (bounded : Bounded policy scope limit)
    (tolerant : Tolerant policy scope limit stage run)
    (growing : run.iterator.scope.complete = false)
    (notReached : WaitTime.reached run.iterator.policy.patience run.iterator.elapsed = false) :
    ∃ count, run.iterator.elapsed = policy.passed count ∧ count < limit := by
  obtain ⟨count, isPassed, few, -⟩ := tolerant.passed
  rw [isPassed, tolerant.samePolicy] at notReached
  exact ⟨count, isPassed, bounded.lt (tolerant.sameScope ▸ growing) few notReached⟩

/-- Every move keeps this. -/
theorem move (bounded : Bounded policy scope limit)
    (move : Move env (stage, run) (stage', run'))
    (tolerant : Tolerant policy scope limit stage run) :
    Tolerant policy scope limit stage' run' := by
  have notDue (away : stage ≠ .resting) : run.iterator.waitDue = false :=
    Bool.eq_false_iff.mpr fun due => away (tolerant.due due).1
  cases move with
  | resume active nothingReady due =>
    obtain ⟨count, isPassed, few, fewer⟩ := tolerant.passed
    exact ⟨tolerant.sameScope, tolerant.samePolicy,
      ⟨count, isPassed, few, fun _ => fewer (Or.inr due)⟩, by simp⟩
  | openFirst hungry | useUp hungry | dropPage hungry =>
    exact tolerant.still rfl rfl rfl (by simp) (by simp [Run.advance, close, hungry.notDue])
  | @failQuery _ _ _ _ closes _ hungry =>
    cases closes <;>
      exact tolerant.still rfl rfl rfl (by simp) (by simp [Run.advance, close, hungry.notDue])
  | breakOff hungry opened inside answer acceptance
  | lastPage hungry opened inside answer acceptance =>
    have same := sameBut_of_acceptance acceptance
    exact tolerant.still same.scope same.policy same.elapsed (by simp)
      (by simp [Run.advance, countTaken, same.waitDue, hungry.notDue])
  | @turnPage _ _ windowStop batch world next taken cursor hungry opened inside answer
      acceptance =>
    have same := sameBut_of_acceptance acceptance
    have onward := sameBut_advance (max cursor ((next.countTaken taken).cursor + 1))
      (next.countTaken taken)
    refine tolerant.still ?_ ?_ ?_ (by simp) ?_
    all_goals simp only [Run.after, Run.advance, follow_eq]
    · exact onward.scope.trans same.scope
    · exact onward.policy.trans same.policy
    · exact onward.elapsed.trans same.elapsed
    · simp [countTaken, same.waitDue, hungry.notDue]
  | finish | giveUp =>
    exact tolerant.still rfl rfl rfl (by simp) (by simp [notDue])
  | renew =>
    rw [openNext_eq]
    refine ⟨tolerant.sameScope, tolerant.samePolicy, ⟨0, rfl, Nat.zero_le limit, ?_⟩, ?_⟩
    all_goals simp [Run.after, Run.advance, notDue]
  | postpone active opened notLast foundNone notReached =>
    obtain ⟨count, isPassed, fewer⟩ :=
      tolerant.fewer bounded (complete_of_notLast notLast) notReached
    exact ⟨tolerant.sameScope, tolerant.samePolicy,
      ⟨count, isPassed, Nat.le_of_lt fewer, fun _ => fewer⟩, fun _ => ⟨rfl, foundNone⟩⟩
  | beginWait active opened notLast foundNone notReached =>
    obtain ⟨count, isPassed, fewer⟩ :=
      tolerant.fewer bounded (complete_of_notLast notLast) notReached
    exact ⟨tolerant.sameScope, tolerant.samePolicy,
      ⟨count, isPassed, Nat.le_of_lt fewer, fun _ => fewer⟩, by simp [notDue]⟩
  | failWait | breakWait =>
    exact tolerant.still rfl rfl rfl (by simp)
      (by simp [Run.advance, close, countWait, notDue])
  | endWait =>
    obtain ⟨count, isPassed, few, fewer⟩ := tolerant.passed
    rw [openNext_eq]
    refine ⟨tolerant.sameScope, tolerant.samePolicy, ⟨count + 1, ?_, fewer (Or.inl rfl), ?_⟩, ?_⟩
    all_goals
      simp [Run.after, Run.advance, countWait, passInterval, notDue, TailPolicy.passed, isPassed,
        tolerant.samePolicy]
  | handOut | close =>
    exact tolerant.still rfl rfl rfl (by simp) (fun due => ⟨due, rfl, rfl⟩)

/-- Between two calls so many waits are left. -/
theorem patient (tolerant : Tolerant policy scope limit .resting run) :
    ∃ left ≤ limit, Patient policy scope limit left run.iterator := by
  obtain ⟨count, isPassed, few, fewer⟩ := tolerant.passed
  by_cases foundNone : run.iterator.windowCount = 0
  · refine ⟨limit - count, Nat.sub_le limit count, tolerant.sameScope, tolerant.samePolicy,
      .quiet count _ foundNone isPassed (by omega) fun due => ?_⟩
    have := fewer (Or.inr due)
    omega
  · refine ⟨limit, Nat.le_refl limit, tolerant.sameScope, tolerant.samePolicy,
      .busy foundNone (Bool.eq_false_iff.mpr fun due => foundNone (tolerant.due due).2)⟩

end Tolerant

end Iterator
end RunLog
