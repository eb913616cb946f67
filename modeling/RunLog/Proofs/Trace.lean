import Mathlib.Logic.Relation
import RunLog.Iterator

/-!
# Runs of an iterator

A run is what becomes of an iterator when a consumer calls it again and again, in any order and
whatever the surroundings do.  It remembers what happened and what was handed out.

Every call is made of moves.  A move says all that can happen at once: a page is asked for and taken
in, a window is opened, a wait is begun or put off, an entry is handed out.  What every move keeps
is therefore kept by every run, and later modules look at moves only.
-/

namespace RunLog

/-- The entry that an event says was accepted. -/
def Event.entry? {δ : Type} : Event δ → Option Entry
  | .accepted entry => some entry
  | _ => none

namespace Iterator

variable {ω δ : Type}

/-- The entries that were accepted among some events, in order, with the numbers that they came
with. -/
def acceptedEntries (events : List (Event δ)) : List Entry :=
  events.filterMap Event.entry?

@[simp] theorem acceptedEntries_nil : acceptedEntries ([] : List (Event δ)) = [] := rfl

@[simp] theorem acceptedEntries_cons (event : Event δ) (rest : List (Event δ)) :
    acceptedEntries (event :: rest) = event.entry?.toList ++ acceptedEntries rest := by
  cases found : event.entry? <;> simp [acceptedEntries, found]

@[simp] theorem acceptedEntries_append (first second : List (Event δ)) :
    acceptedEntries (first ++ second) = acceptedEntries first ++ acceptedEntries second := by
  simp [acceptedEntries]

@[simp] theorem acceptedEntries_map_accepted (taken : List Entry) :
    acceptedEntries (taken.map (Event.accepted (δ := δ))) = taken := by
  induction taken with
  | nil => rfl
  | cons entry rest inductionHypothesis => simp [Event.entry?, inductionHypothesis]

/-! ## Calls -/

/-- What a consumer does with an iterator. -/
inductive Call
  /-- Ask for the next entry, with at most the given number of fetches. -/
  | next (fuel : Nat)
  /-- Ask for the first page. -/
  | prefetch
  /-- Close the iterator. -/
  | close
  deriving DecidableEq, Repr

/-- An iterator that is being consumed. -/
structure Run (ω δ : Type) where
  /-- The iterator now. -/
  iterator : Iterator δ
  /-- The world now. -/
  world : ω
  /-- What happened so far. -/
  events : List (Event δ)
  /-- The entries that were handed out so far. -/
  delivered : List Entry

namespace Run

/-- A run in which nothing has happened. -/
def start (iterator : Iterator δ) (world : ω) : Run ω δ :=
  ⟨iterator, world, [], []⟩

/-- A run that has gone on to an iterator and a world, with events on the way. -/
def advance (run : Run ω δ) (iterator : Iterator δ) (world : ω) (events : List (Event δ)) :
    Run ω δ :=
  ⟨iterator, world, run.events ++ events, run.delivered⟩

/-- A run after a step. -/
def after (run : Run ω δ) (step : Step ω δ) : Run ω δ :=
  run.advance step.iterator step.world step.events

/-- A run after the next entry was asked for. -/
def afterPull (run : Run ω δ) (pull : Pull ω δ) : Run ω δ :=
  { run.advance pull.iterator pull.world pull.events with
    delivered := run.delivered ++ (pull.outcome.toOption.bind id).toList }

/-- A run after all entries that were left were asked for. -/
def afterDrain (run : Run ω δ) (drained : Drain ω δ) : Run ω δ :=
  { run.advance drained.iterator drained.world drained.events with
    delivered := run.delivered ++ drained.entries }

/-- A run after a call; a call that fails leaves a run that can go on. -/
def call [WaitTime δ] (env : Surroundings ω δ) (run : Run ω δ) : Call → Run ω δ
  | .next fuel => run.afterPull (next env fuel run.iterator run.world)
  | .prefetch => run.after (prefetch env run.iterator run.world)
  | .close => { run with iterator := run.iterator.close }

/-- A run after some calls. -/
def calls [WaitTime δ] (env : Surroundings ω δ) (run : Run ω δ) (calls : List Call) : Run ω δ :=
  calls.foldl (call env) run

@[simp] theorem advance_nil (run : Run ω δ) : run.advance run.iterator run.world [] = run := by
  simp [advance]

@[simp] theorem advance_advance (run : Run ω δ) (first second : Iterator δ) (early late : ω)
    (before later : List (Event δ)) :
    (run.advance first early before).advance second late later
      = run.advance second late (before ++ later) := by
  simp [advance]

/-- A step that only changes the iterator. -/
@[simp] theorem after_silent (run : Run ω δ) (iterator : Iterator δ) (failure : Option Failure) :
    run.after ⟨iterator, run.world, [], failure⟩ = { run with iterator } := by
  simp [after, advance]

@[simp] theorem after_after (run : Run ω δ) (first second : Step ω δ) :
    (run.after first).after second = run.after (second.after first.events) := by
  simp [after, advance, Step.after]

@[simp] theorem after_advance (run : Run ω δ) (iterator : Iterator δ) (world : ω)
    (events : List (Event δ)) (step : Step ω δ) :
    (run.advance iterator world events).after step = run.after (step.after events) := by
  simp [after, Step.after]

end Run

/-! ## Moves -/

/-- Where an iterator stands between two moves. -/
inductive Stage
  /-- Outside a fetch, or inside one before a page is asked for. -/
  | resting
  /-- Inside a fetch, after the window was used up. -/
  | usedUp
  /-- Inside a fetch, before a wait. -/
  | waiting
  deriving DecidableEq, Repr

/-- An iterator that is neither closed nor exhausted and whose scope ends at a given time. -/
structure Active (iterator : Iterator δ) (stop : Option Int) : Prop where
  notClosed : iterator.closed = false
  notExhausted : iterator.exhausted = false
  stopNanos : iterator.scope.stopNanos = .ok stop

/-- An active iterator that has nothing ready and no wait to make up for: it asks for a page. -/
structure Hungry (iterator : Iterator δ) (stop : Option Int) : Prop extends
    Active iterator stop where
  nothingReady : iterator.ready = []
  notDue : iterator.waitDue = false

/-- Whether a window is the last one of a scope. -/
def isLastWindow (iterator : Iterator δ) (stop : Option Int) (windowStop : Int) : Bool :=
  (stop.map fun stop => decide (stop ≤ windowStop)).getD false || iterator.scope.complete

/-- The event of a page that was asked for and came. -/
def pageEvent (iterator : Iterator δ) (windowStop : Int) (batch : Batch) : Event δ :=
  .queried ⟨iterator.cursor, windowStop⟩ (.ok batch.entries.length)

/-- An iterator that has counted some more entries of its window. -/
def countTaken (iterator : Iterator δ) (taken : List Entry) : Iterator δ :=
  { iterator with windowCount := iterator.windowCount + taken.length }

/-- An iterator that has tried one more wait. -/
def countWait (iterator : Iterator δ) : Iterator δ :=
  { iterator with waits := iterator.waits + 1 }

/-- An iterator for which one more interval has passed. -/
def passInterval [WaitTime δ] (iterator : Iterator δ) : Iterator δ :=
  { iterator with elapsed := WaitTime.add iterator.elapsed iterator.policy.interval }

/-- What can happen to a run at once. -/
inductive Move [WaitTime δ] (env : Surroundings ω δ) : Stage × Run ω δ → Stage × Run ω δ → Prop
  /-- A wait that was put off is made up for. -/
  | resume {run : Run ω δ} {stop : Option Int} (active : Active run.iterator stop)
      (nothingReady : run.iterator.ready = []) (due : run.iterator.waitDue = true) :
      Move env (.resting, run)
        (.waiting, { run with iterator := { run.iterator with waitDue := false } })
  /-- The first window is opened. -/
  | openFirst {run : Run ω δ} {stop : Option Int} {windowStop : Int} {world : ω}
      {events : List (Event δ)} (hungry : Hungry run.iterator stop)
      (unopened : run.iterator.windowStop = none)
      (opening : newWindowStop env run.iterator.scope.complete stop run.world
        = (windowStop, world, events)) :
      Move env (.resting, run)
        (.resting, run.advance { run.iterator with windowStop := some windowStop } world events)
  /-- Nothing of the window is left. -/
  | useUp {run : Run ω δ} {stop : Option Int} {windowStop : Int}
      (hungry : Hungry run.iterator stop) (opened : run.iterator.windowStop = some windowStop)
      (past : windowStop ≤ run.iterator.cursor) :
      Move env (.resting, run) (.usedUp, run)
  /-- A page is asked for in vain. -/
  | failQuery {run : Run ω δ} {stop : Option Int} {windowStop : Int} {failure : Failure}
      {closes : Bool} {world : ω} (hungry : Hungry run.iterator stop)
      (opened : run.iterator.windowStop = some windowStop)
      (inside : run.iterator.cursor < windowStop)
      (answer : env.query ⟨run.iterator.cursor, windowStop⟩ run.world
        = ((.error failure, closes), world)) :
      Move env (.resting, run)
        (.resting, run.advance (if closes then run.iterator.close else run.iterator) world
          [.queried ⟨run.iterator.cursor, windowStop⟩ (.error failure)])
  /-- A page comes after the iterator was closed. -/
  | dropPage {run : Run ω δ} {stop : Option Int} {windowStop : Int} {batch : Batch} {world : ω}
      (hungry : Hungry run.iterator stop) (opened : run.iterator.windowStop = some windowStop)
      (inside : run.iterator.cursor < windowStop)
      (answer : env.query ⟨run.iterator.cursor, windowStop⟩ run.world
        = ((.ok batch, true), world)) :
      Move env (.resting, run)
        (.resting, run.advance run.iterator.close world
          [pageEvent run.iterator windowStop batch])
  /-- A page is taken in up to an entry without a fingerprint. -/
  | breakOff {run : Run ω δ} {stop : Option Int} {windowStop : Int} {batch : Batch} {world : ω}
      {next : Iterator δ} {taken : List Entry} {failure : Failure}
      (hungry : Hungry run.iterator stop) (opened : run.iterator.windowStop = some windowStop)
      (inside : run.iterator.cursor < windowStop)
      (answer : env.query ⟨run.iterator.cursor, windowStop⟩ run.world
        = ((.ok batch, false), world))
      (acceptance : acceptAll stop (Entry.sorted batch.entries) run.iterator
        = (next, taken, some failure)) :
      Move env (.resting, run)
        (.resting, run.advance next world
          (pageEvent run.iterator windowStop batch :: taken.map .accepted))
  /-- A full page is taken in, and the place to go on from. -/
  | turnPage {run : Run ω δ} {stop : Option Int} {windowStop : Int} {batch : Batch} {world : ω}
      {next : Iterator δ} {taken : List Entry} {cursor : Int}
      (hungry : Hungry run.iterator stop) (opened : run.iterator.windowStop = some windowStop)
      (inside : run.iterator.cursor < windowStop)
      (answer : env.query ⟨run.iterator.cursor, windowStop⟩ run.world
        = ((.ok batch, false), world))
      (acceptance : acceptAll stop (Entry.sorted batch.entries) run.iterator = (next, taken, none))
      (full : batch.next = some cursor) :
      Move env (.resting, run)
        (.resting, (run.advance (next.countTaken taken) world
          (pageEvent run.iterator windowStop batch :: taken.map .accepted)).after
            (follow cursor (next.countTaken taken) world))
  /-- The last page of a window is taken in. -/
  | lastPage {run : Run ω δ} {stop : Option Int} {windowStop : Int} {batch : Batch} {world : ω}
      {next : Iterator δ} {taken : List Entry}
      (hungry : Hungry run.iterator stop) (opened : run.iterator.windowStop = some windowStop)
      (inside : run.iterator.cursor < windowStop)
      (answer : env.query ⟨run.iterator.cursor, windowStop⟩ run.world
        = ((.ok batch, false), world))
      (acceptance : acceptAll stop (Entry.sorted batch.entries) run.iterator = (next, taken, none))
      (notFull : batch.next = none) :
      Move env (.resting, run)
        (.usedUp, run.advance (next.countTaken taken) world
          (pageEvent run.iterator windowStop batch :: taken.map .accepted))
  /-- The last window is used up. -/
  | finish {run : Run ω δ} {stop : Option Int} {windowStop : Int}
      (active : Active run.iterator stop) (opened : run.iterator.windowStop = some windowStop)
      (isLast : run.iterator.isLastWindow stop windowStop = true) :
      Move env (.usedUp, run)
        (.resting, { run with iterator := { run.iterator with exhausted := true } })
  /-- After a window with new entries the next one is opened at once. -/
  | renew {run : Run ω δ} {stop : Option Int} {windowStop : Int}
      (active : Active run.iterator stop) (opened : run.iterator.windowStop = some windowStop)
      (notLast : run.iterator.isLastWindow stop windowStop = false)
      (found : run.iterator.windowCount ≠ 0) :
      Move env (.usedUp, run)
        (.resting, run.after
          (openNext env stop { run.iterator with elapsed := WaitTime.none } run.world))
  /-- No entry has come for long enough. -/
  | giveUp {run : Run ω δ} {stop : Option Int} {windowStop : Int}
      (active : Active run.iterator stop) (opened : run.iterator.windowStop = some windowStop)
      (notLast : run.iterator.isLastWindow stop windowStop = false)
      (foundNone : run.iterator.windowCount = 0)
      (outOfPatience : WaitTime.reached run.iterator.policy.patience run.iterator.elapsed = true) :
      Move env (.usedUp, run)
        (.resting, { run with iterator := { run.iterator with exhausted := true } })
  /-- A wait is put off. -/
  | postpone {run : Run ω δ} {stop : Option Int} {windowStop : Int}
      (active : Active run.iterator stop) (opened : run.iterator.windowStop = some windowStop)
      (notLast : run.iterator.isLastWindow stop windowStop = false)
      (foundNone : run.iterator.windowCount = 0)
      (patient : WaitTime.reached run.iterator.policy.patience run.iterator.elapsed = false) :
      Move env (.usedUp, run)
        (.resting, { run with iterator := { run.iterator with waitDue := true } })
  /-- A wait is due at once. -/
  | beginWait {run : Run ω δ} {stop : Option Int} {windowStop : Int}
      (active : Active run.iterator stop) (opened : run.iterator.windowStop = some windowStop)
      (notLast : run.iterator.isLastWindow stop windowStop = false)
      (foundNone : run.iterator.windowCount = 0)
      (patient : WaitTime.reached run.iterator.policy.patience run.iterator.elapsed = false) :
      Move env (.usedUp, run) (.waiting, run)
  /-- A wait fails. -/
  | failWait {run : Run ω δ} {stop : Option Int} {failure : Failure} {world : ω}
      (active : Active run.iterator stop)
      (answer : env.wait (run.iterator.waits + 1) run.iterator.policy.interval run.world
        = (.error failure, world)) :
      Move env (.waiting, run)
        (.resting, run.advance run.iterator.countWait world
          [.waited run.iterator.policy.interval (.error failure)])
  /-- The iterator is closed during a wait. -/
  | breakWait {run : Run ω δ} {stop : Option Int} {world : ω}
      (active : Active run.iterator stop)
      (answer : env.wait (run.iterator.waits + 1) run.iterator.policy.interval run.world
        = (.ok true, world)) :
      Move env (.waiting, run)
        (.resting, run.advance run.iterator.countWait.close world
          [.waited run.iterator.policy.interval (.ok true)])
  /-- After a wait the next window is opened. -/
  | endWait {run : Run ω δ} {stop : Option Int} {world : ω}
      (active : Active run.iterator stop)
      (answer : env.wait (run.iterator.waits + 1) run.iterator.policy.interval run.world
        = (.ok false, world)) :
      Move env (.waiting, run)
        (.resting, (run.advance run.iterator.countWait world
          [.waited run.iterator.policy.interval (.ok false)]).after
            (openNext env stop run.iterator.countWait.passInterval world))
  /-- An entry is handed out. -/
  | handOut {run : Run ω δ} {entry : Entry} {rest : List Entry}
      (notClosed : run.iterator.closed = false) (ready : run.iterator.ready = entry :: rest) :
      Move env (.resting, run)
        (.resting, { run with
          iterator := { run.iterator with ready := rest }
          delivered := run.delivered ++ [entry] })
  /-- The iterator is closed. -/
  | close {run : Run ω δ} :
      Move env (.resting, run) (.resting, { run with iterator := run.iterator.close })

/-- What moves can make of a run. -/
def Path [WaitTime δ] (env : Surroundings ω δ) : Stage × Run ω δ → Stage × Run ω δ → Prop :=
  Relation.ReflTransGen (Move env)

/-- What holds at first and is kept by every move holds at the end. -/
theorem Path.invariant [WaitTime δ] {env : Surroundings ω δ}
    (Invariant : Stage → Run ω δ → Prop)
    (kept : ∀ {stage run stage' run'}, Move env (stage, run) (stage', run') →
      Invariant stage run → Invariant stage' run')
    {stage stage' : Stage} {run run' : Run ω δ} (path : Path env (stage, run) (stage', run'))
    (holds : Invariant stage run) : Invariant stage' run' := by
  suffices general : ∀ state, Path env (stage, run) state → Invariant state.1 state.2 from
    general _ path
  intro state path
  induction path with
  | refl => exact holds
  | tail _ move inductionHypothesis => exact kept move inductionHypothesis

/-! ## Acceptance -/

/-- What acceptance leaves alone. -/
structure SameBut (before after : Iterator δ) : Prop where
  scope : after.scope = before.scope
  policy : after.policy = before.policy
  cursor : after.cursor = before.cursor
  windowStop : after.windowStop = before.windowStop
  elapsed : after.elapsed = before.elapsed
  windowCount : after.windowCount = before.windowCount
  waits : after.waits = before.waits
  waitDue : after.waitDue = before.waitDue
  exhausted : after.exhausted = before.exhausted
  closed : after.closed = before.closed

/-- What holds before entries are accepted and is kept when one of them is pushed holds afterwards.
The entries that were taken so far go along. -/
theorem acceptAll_induction (stop : Option Int) (Kept : List Entry → Iterator δ → Prop)
    {entries : List Entry}
    (pushed : ∀ taken iterator entry fingerprint, entry ∈ entries →
      entry.fingerprint = .ok fingerprint → fingerprint ∉ iterator.accepted →
      iterator.isLate entry = false → Kept taken iterator →
      Kept (taken ++ [entry]) (iterator.push entry fingerprint))
    (earlier : List Entry) (iterator : Iterator δ) (holds : Kept earlier iterator) :
    Kept (earlier ++ (acceptAll stop entries iterator).2.1)
      (acceptAll stop entries iterator).1 := by
  induction entries generalizing earlier iterator with
  | nil => simpa [acceptAll] using holds
  | cons entry rest inductionHypothesis =>
    have pushedRest : ∀ taken iterator other fingerprint, other ∈ rest →
        other.fingerprint = .ok fingerprint → fingerprint ∉ iterator.accepted →
        iterator.isLate other = false → Kept taken iterator →
        Kept (taken ++ [other]) (iterator.push other fingerprint) :=
      fun taken iterator other fingerprint present =>
        pushed taken iterator other fingerprint (List.mem_cons_of_mem entry present)
    have skipped := inductionHypothesis pushedRest earlier iterator holds
    rw [acceptAll]
    by_cases past : (stop.map fun stop => decide (stop ≤ entry.timestamp)).getD false = true
    · simpa [accept, past] using skipped
    · cases found : entry.fingerprint with
      | error failure => simpa [accept, past, found] using holds
      | ok fingerprint =>
        by_cases known : fingerprint ∈ iterator.accepted ∨ iterator.isLate entry = true
        · simpa [accept, past, found, known] using skipped
        · have fresh := not_or.mp known
          have taken := inductionHypothesis pushedRest (earlier ++ [entry])
            (iterator.push entry fingerprint)
            (pushed earlier iterator entry fingerprint List.mem_cons_self found fresh.1
              (by simpa using fresh.2) holds)
          simpa [accept, past, found, known] using taken

/-- Acceptance changes what is ready, what was accepted and the last position only. -/
theorem sameBut_acceptAll (stop : Option Int) (entries : List Entry) (iterator : Iterator δ) :
    SameBut iterator (acceptAll stop entries iterator).1 := by
  refine acceptAll_induction stop (fun _ next => SameBut iterator next) ?_ [] iterator
    ⟨rfl, rfl, rfl, rfl, rfl, rfl, rfl, rfl, rfl, rfl⟩
  intro _ next entry fingerprint _ _ _ _ same
  exact ⟨same.scope, same.policy, same.cursor, same.windowStop, same.elapsed, same.windowCount,
    same.waits, same.waitDue, same.exhausted, same.closed⟩

theorem sameBut_of_acceptance {stop : Option Int} {entries : List Entry}
    {iterator next : Iterator δ} {taken : List Entry} {failure : Option Failure}
    (acceptance : acceptAll stop entries iterator = (next, taken, failure)) :
    SameBut iterator next := by
  have same := sameBut_acceptAll stop entries iterator
  rwa [acceptance] at same

/-! ## The beginning -/

/-- What a new iterator is. -/
theorem eq_of_start [WaitTime δ] {scope : Scope} {policy : TailPolicy δ} {iterator : Iterator δ}
    (started : Iterator.start scope policy = .ok iterator) :
    ∃ cursor, scope.startNanos = .ok cursor ∧ iterator =
      { scope, policy, ready := [], accepted := [], last := none, cursor, windowStop := none,
        elapsed := WaitTime.none, windowCount := 0, waits := 0, waitDue := false,
        exhausted := false, closed := false } := by
  unfold Iterator.start at started
  cases found : scope.startNanos with
  | error failure => simp [found, Except.map] at started
  | ok cursor =>
    rw [found] at started
    exact ⟨cursor, rfl, (Except.ok.inj started).symm⟩

/-! ## Going on -/

/-- An iterator that goes on has the later one of two cursors. -/
@[simp] theorem cursor_advance (cursor : Int) (iterator : Iterator δ) :
    (iterator.advance cursor).cursor = max iterator.cursor cursor := by
  by_cases behind : cursor ≤ iterator.cursor
  · rw [advance, if_pos behind, Int.max_eq_left behind]
  · rw [advance, if_neg behind, Int.max_eq_right (Int.le_of_not_le behind)]

/-- Fingerprints that could come again are remembered. -/
theorem mem_accepted_advance {cursor : Int} {iterator : Iterator δ} {fingerprint : Fingerprint} :
    fingerprint ∈ (iterator.advance cursor).accepted ↔
      fingerprint ∈ iterator.accepted
        ∧ (cursor ≤ iterator.cursor ∨ cursor ≤ fingerprint.timestamp) := by
  by_cases behind : cursor ≤ iterator.cursor <;> simp [advance, behind]

/-- Going on changes the cursor and what is remembered only. -/
theorem advance_eq (cursor : Int) (iterator : Iterator δ) :
    iterator.advance cursor =
      { iterator with
        cursor := (iterator.advance cursor).cursor
        accepted := (iterator.advance cursor).accepted } := by
  by_cases behind : cursor ≤ iterator.cursor <;> simp [advance, behind]

section Advance

variable (cursor : Int) (iterator : Iterator δ)

@[simp] theorem scope_advance : (iterator.advance cursor).scope = iterator.scope := by
  rw [advance_eq]

@[simp] theorem windowStop_advance :
    (iterator.advance cursor).windowStop = iterator.windowStop := by
  rw [advance_eq]

@[simp] theorem waitDue_advance : (iterator.advance cursor).waitDue = iterator.waitDue := by
  rw [advance_eq]

@[simp] theorem exhausted_advance : (iterator.advance cursor).exhausted = iterator.exhausted := by
  rw [advance_eq]

@[simp] theorem closed_advance : (iterator.advance cursor).closed = iterator.closed := by
  rw [advance_eq]

end Advance

/-- A full page leads to a later cursor, with a warning if it did not say so itself. -/
theorem follow_eq (next : Int) (iterator : Iterator δ) (world : ω) :
    follow next iterator world =
      ⟨iterator.advance (max next (iterator.cursor + 1)), world,
        if next ≤ iterator.cursor then [.stalled iterator.cursor] else [], none⟩ := by
  by_cases stalled : next ≤ iterator.cursor
  · rw [follow, if_pos stalled, if_pos stalled, Int.max_eq_right (by omega)]
  · rw [follow, if_neg stalled, if_neg stalled, Int.max_eq_left (by omega)]

@[simp] theorem acceptedEntries_follow (next : Int) (iterator : Iterator δ) (world : ω) :
    acceptedEntries (follow next iterator world).events = [] := by
  rw [follow_eq]
  split <;> rfl

@[simp] theorem acceptedEntries_newWindowStop (env : Surroundings ω δ) (complete : Bool)
    (stop : Option Int) (world : ω) :
    acceptedEntries (newWindowStop env complete stop world).2.2 = [] := by
  unfold newWindowStop
  split <;> rfl

theorem acceptedEntries_of_opening {env : Surroundings ω δ} {complete : Bool} {stop : Option Int}
    {world later : ω} {windowStop : Int} {events : List (Event δ)}
    (opening : newWindowStop env complete stop world = (windowStop, later, events)) :
    acceptedEntries events = [] := by
  simpa [opening] using acceptedEntries_newWindowStop env complete stop world

/-- An iterator that goes on from its last accepted entry. -/
def catchUp (iterator : Iterator δ) : Iterator δ :=
  match iterator.last with
  | some last => iterator.advance last.timestamp
  | none => iterator

/-- Catching up changes the cursor and what is remembered only. -/
theorem catchUp_eq (iterator : Iterator δ) :
    iterator.catchUp =
      { iterator with
        cursor := iterator.catchUp.cursor
        accepted := iterator.catchUp.accepted } := by
  unfold catchUp
  split
  · exact advance_eq _ iterator
  · rfl

/-- The next window begins at the last accepted entry, unless the cursor is past it. -/
theorem openNext_eq (env : Surroundings ω δ) (stop : Option Int) (iterator : Iterator δ)
    (world : ω) :
    openNext env stop iterator world =
      let opening := newWindowStop env iterator.scope.complete stop world
      ⟨{ iterator with
          cursor := iterator.catchUp.cursor
          accepted := iterator.catchUp.accepted
          windowCount := 0
          windowStop := some opening.1 }, opening.2.1, opening.2.2, none⟩ := by
  change (let opening := newWindowStop env iterator.catchUp.scope.complete stop world
    (⟨{ iterator.catchUp with windowCount := 0, windowStop := some opening.1 }, opening.2.1,
      opening.2.2, none⟩ : Step ω δ)) = _
  rw [catchUp_eq]

@[simp] theorem acceptedEntries_openNext (env : Surroundings ω δ) (stop : Option Int)
    (iterator : Iterator δ) (world : ω) :
    acceptedEntries (openNext env stop iterator world).events = [] := by
  rw [openNext_eq]
  exact acceptedEntries_newWindowStop env _ stop world

/-! ## Calls are made of moves -/

section Paths

variable [WaitTime δ] (env : Surroundings ω δ) (run : Run ω δ) {stop : Option Int}

variable {env} in
theorem Path.single {first second : Stage × Run ω δ} (move : Move env first second) :
    Path env first second :=
  Relation.ReflTransGen.single move

variable {env} in
theorem Path.cons {first second third : Stage × Run ω δ} (move : Move env first second)
    (path : Path env second third) : Path env first third :=
  Relation.ReflTransGen.head move path

/-- A wait that is not put off is one move. -/
theorem path_waitThenOpen (active : Active run.iterator stop) :
    Path env (.waiting, run)
      (.resting, run.after (waitThenOpen env stop run.iterator run.world)) := by
  rcases answer : env.wait (run.iterator.waits + 1) run.iterator.policy.interval run.world
    with ⟨failure | closes, world⟩
  case error =>
    simpa [waitThenOpen, answer, Run.after, countWait] using
      Path.single (Move.failWait active answer)
  case ok =>
    cases closes with
    | true =>
      simpa [waitThenOpen, answer, Run.after, countWait] using
        Path.single (Move.breakWait active answer)
    | false =>
      simpa [waitThenOpen, answer, countWait, passInterval] using
        Path.single (Move.endWait active answer)

/-- Going on after a window is made of moves. -/
theorem path_finishWindow {windowStop : Int} (mayWait : Bool)
    (active : Active run.iterator stop) (opened : run.iterator.windowStop = some windowStop) :
    Path env (.usedUp, run)
      (.resting, run.after (finishWindow env mayWait stop windowStop run.iterator run.world)) := by
  cases isLast : run.iterator.isLastWindow stop windowStop with
  | true =>
    have chosen : finishWindow env mayWait stop windowStop run.iterator run.world
        = ⟨{ run.iterator with exhausted := true }, run.world, [], none⟩ := by
      rw [finishWindow]
      exact if_pos isLast
    rw [chosen, Run.after_silent]
    exact Path.single (Move.finish active opened isLast)
  | false =>
    rw [finishWindow]
    simp only [isLastWindow] at isLast
    simp only [isLast, Bool.false_eq_true, if_false]
    by_cases found : run.iterator.windowCount ≠ 0
    · rw [if_pos found]
      exact Path.single (Move.renew active opened isLast found)
    · have foundNone : run.iterator.windowCount = 0 := Classical.not_not.mp found
      rw [if_neg found]
      cases patience : WaitTime.reached run.iterator.policy.patience run.iterator.elapsed with
      | true =>
        rw [if_pos rfl, Run.after_silent]
        exact Path.single (Move.giveUp active opened isLast foundNone patience)
      | false =>
        cases mayWait with
        | true =>
          exact Path.cons (Move.beginWait active opened isLast foundNone patience)
            (path_waitThenOpen env run active)
        | false =>
          simp only [Bool.false_eq_true, if_false, Run.after_silent]
          exact Path.single (Move.postpone active opened isLast foundNone patience)

/-- Asking for a page and taking it in is made of moves. -/
theorem path_load {windowStop : Int} (mayWait : Bool) (hungry : Hungry run.iterator stop)
    (opened : run.iterator.windowStop = some windowStop)
    (inside : run.iterator.cursor < windowStop) :
    Path env (.resting, run)
      (.resting, run.after (load env mayWait stop windowStop run.iterator run.world)) := by
  rcases answer : env.query ⟨run.iterator.cursor, windowStop⟩ run.world
    with ⟨⟨_ | batch, closes⟩, world⟩
  case error failure =>
    simpa [load, answer, Run.after] using
      Path.single (Move.failQuery hungry opened inside answer)
  case ok =>
    cases closes with
    | true =>
      simpa [load, answer, Run.after, pageEvent] using
        Path.single (Move.dropPage hungry opened inside answer)
    | false =>
      rcases acceptance : acceptAll stop (Entry.sorted batch.entries) run.iterator
        with ⟨next, taken, _ | failure⟩
      case some =>
        simpa [load, answer, takeIn, acceptance, Run.after, Step.after, pageEvent] using
          Path.single (Move.breakOff hungry opened inside answer acceptance)
      case none =>
        cases turned : batch.next with
        | some cursor =>
          simpa [load, answer, takeIn, acceptance, turned, Run.after, Step.after, pageEvent,
            countTaken] using
            Path.single (Move.turnPage hungry opened inside answer acceptance turned)
        | none =>
          have same := sameBut_of_acceptance acceptance
          have stillActive : Active (next.countTaken taken) stop :=
            ⟨same.closed.trans hungry.notClosed, same.exhausted.trans hungry.notExhausted,
              by simpa [countTaken, same.scope] using hungry.stopNanos⟩
          have onward := path_finishWindow env
            (run.advance (next.countTaken taken) world
              (pageEvent run.iterator windowStop batch :: taken.map .accepted))
            mayWait stillActive (same.windowStop.trans opened)
          have whole := Path.cons
            (Move.lastPage hungry opened inside answer acceptance turned) onward
          simpa [load, answer, takeIn, acceptance, turned, Run.after, Run.advance, Step.after,
            pageEvent, countTaken] using whole

theorem path_advanceWindow {windowStop : Int} (mayWait : Bool)
    (hungry : Hungry run.iterator stop) (opened : run.iterator.windowStop = some windowStop) :
    Path env (.resting, run)
      (.resting, run.after (advanceWindow env mayWait stop windowStop run.iterator run.world)) := by
  by_cases past : windowStop ≤ run.iterator.cursor
  · rw [advanceWindow, if_pos past]
    exact Path.cons (Move.useUp hungry opened past)
      (path_finishWindow env run mayWait hungry.toActive opened)
  · rw [advanceWindow, if_neg past]
    exact path_load env run mayWait hungry opened (Int.not_le.mp past)

theorem path_fetchOpen (mayWait : Bool) (hungry : Hungry run.iterator stop) :
    Path env (.resting, run)
      (.resting, run.after (fetchOpen env mayWait stop run.iterator run.world)) := by
  cases opened : run.iterator.windowStop with
  | some windowStop =>
    rw [fetchOpen, opened]
    exact path_advanceWindow env run mayWait hungry opened
  | none =>
    rcases opening : newWindowStop env run.iterator.scope.complete stop run.world
      with ⟨windowStop, world, events⟩
    have onward := path_advanceWindow env
      (run.advance { run.iterator with windowStop := some windowStop } world events) mayWait
      ⟨⟨hungry.notClosed, hungry.notExhausted, hungry.stopNanos⟩, hungry.nothingReady,
        hungry.notDue⟩ rfl
    have whole := Path.cons (Move.openFirst hungry opened opening) onward
    simpa [fetchOpen, opened, opening, Run.after, Run.advance, Step.after] using whole

/-- A wait that is made up for fails or leaves an iterator that is closed or asks for a page. -/
theorem hungry_waitThenOpen (world : ω) {iterator : Iterator δ} (active : Active iterator stop)
    (nothingReady : iterator.ready = []) (notDue : iterator.waitDue = false)
    (stillOpen : (waitThenOpen env stop iterator world).iterator.closed = false) :
    Hungry (waitThenOpen env stop iterator world).iterator stop := by
  rcases answer : env.wait (iterator.waits + 1) iterator.policy.interval world
    with ⟨failure | closes, later⟩
  case error =>
    simp only [waitThenOpen, answer]
    exact ⟨⟨active.notClosed, active.notExhausted, active.stopNanos⟩, nothingReady, notDue⟩
  case ok =>
    cases closes with
    | true => simp [waitThenOpen, answer] at stillOpen
    | false =>
      simp only [waitThenOpen, answer, openNext_eq, Step.after]
      exact ⟨⟨active.notClosed, active.notExhausted, active.stopNanos⟩, nothingReady, notDue⟩

/-- A fetch of an active iterator with nothing ready is made of moves. -/
theorem path_fetchWithin (mayWait : Bool) (active : Active run.iterator stop)
    (nothingReady : run.iterator.ready = []) :
    Path env (.resting, run)
      (.resting, run.after (fetchWithin env mayWait stop run.iterator run.world)) := by
  cases due : run.iterator.waitDue with
  | false =>
    have plain : fetchWithin env mayWait stop run.iterator run.world
        = fetchOpen env mayWait stop run.iterator run.world := by
      simp [fetchWithin, due]
    rw [plain]
    exact path_fetchOpen env run mayWait ⟨active, nothingReady, due⟩
  | true =>
    let settled : Run ω δ := { run with iterator := { run.iterator with waitDue := false } }
    have settledActive : Active settled.iterator stop :=
      ⟨active.notClosed, active.notExhausted, active.stopNanos⟩
    let step := waitThenOpen env stop settled.iterator settled.world
    have waited : Path env (.resting, run) (.resting, run.after step) :=
      Path.cons (Move.resume active nothingReady due) (path_waitThenOpen env settled settledActive)
    cases ended : step.iterator.closed || step.failure.isSome with
    | true =>
      have whole : fetchWithin env mayWait stop run.iterator run.world = step := by
        rw [fetchWithin, if_pos due]
        exact if_pos ended
      rw [whole]
      exact waited
    | false =>
      have whole : fetchWithin env mayWait stop run.iterator run.world
          = (fetchOpen env mayWait stop step.iterator step.world).after step.events := by
        rw [fetchWithin, if_pos due]
        exact if_neg (ne_true_of_eq_false ended)
      have onward := path_fetchOpen env (run.after step) mayWait
        (hungry_waitThenOpen env run.world settledActive nothingReady rfl
          (Bool.or_eq_false_iff.mp ended).1)
      rw [whole, ← Run.after_after]
      exact Relation.ReflTransGen.trans waited onward

theorem path_fetch (mayWait : Bool) (notClosed : run.iterator.closed = false)
    (notExhausted : run.iterator.exhausted = false) (nothingReady : run.iterator.ready = []) :
    Path env (.resting, run)
      (.resting, run.after (fetch env mayWait run.iterator run.world)) := by
  cases stopNanos : run.iterator.scope.stopNanos with
  | error failure =>
    simp only [fetch, stopNanos, Run.after, Run.advance_nil]
    exact Relation.ReflTransGen.refl
  | ok stop =>
    simp only [fetch, stopNanos]
    exact path_fetchWithin env run mayWait ⟨notClosed, notExhausted, stopNanos⟩ nothingReady

/-! ### Handing out -/

section HandingOut

variable {iterator : Iterator δ} {world : ω} (fuel : Nat)

theorem next_ready {entry : Entry} {rest : List Entry} (notClosed : iterator.closed = false)
    (ready : iterator.ready = entry :: rest) :
    next env fuel iterator world
      = ⟨{ iterator with ready := rest }, world, [], .ok (some entry)⟩ := by
  cases fuel <;> simp [next, notClosed, ready]

theorem next_exhausted (notClosed : iterator.closed = false) (nothingReady : iterator.ready = [])
    (exhausted : iterator.exhausted = true) :
    next env fuel iterator world = ⟨iterator, world, [], .ok none⟩ := by
  cases fuel <;> simp [next, notClosed, nothingReady, exhausted]

theorem next_zero (notClosed : iterator.closed = false) (nothingReady : iterator.ready = [])
    (notExhausted : iterator.exhausted = false) :
    next env 0 iterator world = ⟨iterator, world, [], .error .unfinished⟩ := by
  simp [next, notClosed, nothingReady, notExhausted]

theorem next_failed {failure : Failure} (notClosed : iterator.closed = false)
    (nothingReady : iterator.ready = []) (notExhausted : iterator.exhausted = false)
    (failed : (fetch env true iterator world).failure = some failure) :
    next env (fuel + 1) iterator world
      = let step := fetch env true iterator world
        ⟨step.iterator, step.world, step.events, .error failure⟩ := by
  simp [next, notClosed, nothingReady, notExhausted, failed]

theorem next_fetched (notClosed : iterator.closed = false) (nothingReady : iterator.ready = [])
    (notExhausted : iterator.exhausted = false)
    (fetched : (fetch env true iterator world).failure = none) :
    next env (fuel + 1) iterator world
      = let step := fetch env true iterator world
        let pull := next env fuel step.iterator step.world
        { pull with events := step.events ++ pull.events } := by
  simp [next, notClosed, nothingReady, notExhausted, fetched]

end HandingOut

/-- A run in which the iterator was asked in vain. -/
theorem path_refl {outcome : Except Failure (Option Entry)}
    (nothing : outcome.toOption.bind id = none) :
    Path env (.resting, run)
      (.resting, run.afterPull ⟨run.iterator, run.world, [], outcome⟩) := by
  simp only [Run.afterPull, nothing, Run.advance_nil, Option.toList_none, List.append_nil]
  exact Relation.ReflTransGen.refl

/-- An iterator that need not fetch for the next answer. -/
def NeedsNoFetch (iterator : Iterator δ) : Prop :=
  iterator.closed = true ∨ iterator.ready ≠ [] ∨ iterator.exhausted = true

omit [WaitTime δ] in
theorem not_needsNoFetch {iterator : Iterator δ} :
    ¬NeedsNoFetch iterator ↔
      iterator.closed = false ∧ iterator.ready = [] ∧ iterator.exhausted = false := by
  simp [NeedsNoFetch]

theorem path_next_of_needsNoFetch (fuel : Nat) (needsNoFetch : NeedsNoFetch run.iterator) :
    Path env (.resting, run)
      (.resting, run.afterPull (next env fuel run.iterator run.world)) := by
  cases closed : run.iterator.closed with
  | true =>
    rw [next_closed env fuel _ _ closed]
    exact path_refl env run rfl
  | false =>
    cases ready : run.iterator.ready with
    | cons entry rest =>
      rw [next_ready env fuel closed ready]
      have handed : Path env (.resting, run) _ := Path.single (Move.handOut closed ready)
      simpa [Run.afterPull, Run.advance, Except.toOption] using handed
    | nil =>
      have exhausted : run.iterator.exhausted = true := by
        simpa [NeedsNoFetch, closed, ready] using needsNoFetch
      rw [next_exhausted env fuel closed ready exhausted]
      exact path_refl env run rfl

/-- Asking for the next entry is made of moves, whether or not there is one. -/
theorem path_next (fuel : Nat) :
    Path env (.resting, run)
      (.resting, run.afterPull (next env fuel run.iterator run.world)) := by
  induction fuel generalizing run with
  | zero =>
    by_cases needsNoFetch : NeedsNoFetch run.iterator
    · exact path_next_of_needsNoFetch env run 0 needsNoFetch
    · obtain ⟨notClosed, nothingReady, notExhausted⟩ := not_needsNoFetch.mp needsNoFetch
      rw [next_zero env notClosed nothingReady notExhausted]
      exact path_refl env run rfl
  | succ fuel inductionHypothesis =>
    by_cases needsNoFetch : NeedsNoFetch run.iterator
    · exact path_next_of_needsNoFetch env run (fuel + 1) needsNoFetch
    · obtain ⟨notClosed, nothingReady, notExhausted⟩ := not_needsNoFetch.mp needsNoFetch
      have fetching := path_fetch env run true notClosed notExhausted nothingReady
      cases failed : (fetch env true run.iterator run.world).failure with
      | some failure =>
        rw [next_failed env fuel notClosed nothingReady notExhausted failed]
        simpa [Run.afterPull, Except.toOption, Run.after, Run.advance] using fetching
      | none =>
        rw [next_fetched env fuel notClosed nothingReady notExhausted failed]
        have onward := inductionHypothesis (run.after (fetch env true run.iterator run.world))
        simpa [Run.afterPull, Run.after, Run.advance, Path] using
          Relation.ReflTransGen.trans fetching onward

theorem path_prefetch :
    Path env (.resting, run) (.resting, run.after (prefetch env run.iterator run.world)) := by
  rw [prefetch]
  split
  · rw [Run.after_silent]
    exact Relation.ReflTransGen.refl
  · rename_i needsFetch
    obtain ⟨⟨notClosed, notExhausted⟩, nothingReady⟩ :
        (run.iterator.closed = false ∧ run.iterator.exhausted = false)
          ∧ run.iterator.ready = [] := by
      simpa using needsFetch
    exact path_fetch env run false notClosed notExhausted nothingReady

theorem path_call (call : Call) : Path env (.resting, run) (.resting, run.call env call) := by
  cases call with
  | next fuel => exact path_next env run fuel
  | prefetch => exact path_prefetch env run
  | close => exact Path.single Move.close

/-- Whatever a consumer does is made of moves. -/
theorem path_calls (calls : List Call) :
    Path env (.resting, run) (.resting, run.calls env calls) := by
  induction calls generalizing run with
  | nil => exact Relation.ReflTransGen.refl
  | cons call rest inductionHypothesis =>
    exact Relation.ReflTransGen.trans (path_call env run call) (inductionHypothesis _)

/-- Asking for all that is left is made of moves. -/
theorem path_drain (fuel count : Nat) :
    Path env (.resting, run)
      (.resting, run.afterDrain (drain env fuel count run.iterator run.world)) := by
  induction count generalizing run with
  | zero =>
    simp only [drain, Run.afterDrain, Run.advance_nil, List.append_nil]
    exact Relation.ReflTransGen.refl
  | succ count inductionHypothesis =>
    have pulled := path_next env run fuel
    rw [drain]
    cases outcome : (next env fuel run.iterator run.world).outcome with
    | error failure =>
      simpa [outcome, Run.afterPull, Run.afterDrain, Except.toOption] using pulled
    | ok found =>
      cases found with
      | none => simpa [outcome, Run.afterPull, Run.afterDrain, Except.toOption] using pulled
      | some entry =>
        have onward := inductionHypothesis
          (run.afterPull (next env fuel run.iterator run.world))
        simpa [outcome, Run.afterPull, Run.afterDrain, Run.advance, Except.toOption, Path] using
          Relation.ReflTransGen.trans pulled onward

end Paths

end Iterator
end RunLog
