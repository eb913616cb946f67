import RunLog.Proofs.Fetching
import RunLog.Proofs.Paging

/-!
# Progress within a window

Between two readings of the clock a window stays as it is.  Every query that is answered moves the
cursor on by a nanosecond at least or ends the window, whatever the page says, so the queries of a
window begin one after the other, and no more of them are answered than the window has nanoseconds.

A query that fails is asked again from the same place, and is not counted.  A wait that fails leaves
the window open, so that its last page is asked for again; with it a new turn of queries begins, as
with a reading of the clock.
-/

namespace RunLog

/-- The time that an event says was read from the clock. -/
def Event.reading? {δ : Type} : Event δ → Option Int
  | .clockRead reading => some reading
  | _ => none

/-- Whether a new turn of queries begins with an event: the clock is read, or a wait fails. -/
def Event.isTurn {δ : Type} : Event δ → Bool
  | .clockRead _ => true
  | event => event.isFailedWait

/-- Whether an event is a query that was answered. -/
def Event.isAnswered {δ : Type} : Event δ → Bool
  | .queried _ (.ok _) => true
  | _ => false

/-- Surroundings whose pages have entries with fingerprints only. -/
def Surroundings.Fingerprinted {ω δ : Type} (env : Surroundings ω δ) : Prop :=
  ∀ window world batch closes later, env.query window world = ((.ok batch, closes), later) →
    ∀ entry ∈ batch.entries, ∃ fingerprint, entry.fingerprint = .ok fingerprint

namespace Iterator

variable {ω δ : Type}

/-- The readings of the clock among some events, in order. -/
def clockReadings (events : List (Event δ)) : List Int :=
  events.filterMap Event.reading?

/-- How many turns of queries begin among some events. -/
def turnCount (events : List (Event δ)) : Nat :=
  events.countP Event.isTurn

/-- How many queries among some events were answered. -/
def answeredCount (events : List (Event δ)) : Nat :=
  events.countP Event.isAnswered

@[simp] theorem clockReadings_nil : clockReadings ([] : List (Event δ)) = [] := rfl

@[simp] theorem clockReadings_cons (event : Event δ) (rest : List (Event δ)) :
    clockReadings (event :: rest) = event.reading?.toList ++ clockReadings rest := by
  cases found : event.reading? <;> simp [clockReadings, found]

@[simp] theorem clockReadings_append (first second : List (Event δ)) :
    clockReadings (first ++ second) = clockReadings first ++ clockReadings second := by
  simp [clockReadings]

@[simp] theorem turnCount_nil : turnCount ([] : List (Event δ)) = 0 := rfl

@[simp] theorem turnCount_append (first second : List (Event δ)) :
    turnCount (first ++ second) = turnCount first + turnCount second :=
  List.countP_append

@[simp] theorem turnCount_clockRead (reading : Int) :
    turnCount [(Event.clockRead reading : Event δ)] = 1 := rfl

/-- While the clock is not read and no wait fails, no turn begins. -/
theorem turnCount_eq_zero {events : List (Event δ)} :
    turnCount events = 0 ↔ clockReadings events = [] ∧ waitFailed events = false := by
  induction events with
  | nil => simp [waitFailed]
  | cons event rest inductionHypothesis =>
    have counted : turnCount (event :: rest) = 0 ↔ event.isTurn = false ∧ turnCount rest = 0 := by
      rw [turnCount, turnCount, List.countP_cons]
      cases event.isTurn <;> simp
    have failed : waitFailed (event :: rest) = (event.isFailedWait || waitFailed rest) :=
      List.any_cons
    rw [counted, inductionHypothesis, clockReadings_cons, failed]
    cases event with
    | clockRead => simp [Event.isTurn, Event.reading?]
    | waited interval outcome =>
      cases outcome <;> simp [Event.isTurn, Event.isFailedWait, Event.reading?]
    | queried | accepted | stalled => simp [Event.isTurn, Event.isFailedWait, Event.reading?]

/-! ## Questions -/

/-- A query that was asked. -/
structure Ask where
  /-- How often before the clock was read or a wait failed. -/
  turn : Nat
  /-- The window of the query. -/
  window : Window
  /-- Whether it was answered. -/
  isAnswered : Bool

/-- The queries among some events, when so many turns began before. -/
def asksFrom : Nat → List (Event δ) → List Ask
  | _, [] => []
  | turn, .clockRead _ :: rest => asksFrom (turn + 1) rest
  | turn, .queried window outcome :: rest => ⟨turn, window, outcome.isOk⟩ :: asksFrom turn rest
  | turn, .accepted _ :: rest => asksFrom turn rest
  | turn, .waited _ (.error _) :: rest => asksFrom (turn + 1) rest
  | turn, .waited _ (.ok _) :: rest => asksFrom turn rest
  | turn, .stalled _ :: rest => asksFrom turn rest

/-- The queries among some events. -/
def asks (events : List (Event δ)) : List Ask :=
  asksFrom 0 events

section Asks

variable {turn : Nat} {events : List (Event δ)}

/-- An event is a query of its turn, or the next turn begins with it, or neither. -/
theorem asksFrom_cons (turn : Nat) (event : Event δ) (rest : List (Event δ)) :
    asksFrom turn (event :: rest)
      = asksFrom turn [event] ++ asksFrom (turn + turnCount [event]) rest := by
  cases event with
  | waited interval outcome => cases outcome <;> rfl
  | clockRead | queried | accepted | stalled => rfl

theorem asksFrom_append (turn : Nat) (first second : List (Event δ)) :
    asksFrom turn (first ++ second)
      = asksFrom turn first ++ asksFrom (turn + turnCount first) second := by
  induction first generalizing turn with
  | nil => rfl
  | cons event rest inductionHypothesis =>
    have counted : turnCount (event :: rest) = turnCount [event] + turnCount rest :=
      turnCount_append [event] rest
    rw [List.cons_append, asksFrom_cons, inductionHypothesis, asksFrom_cons turn event rest,
      counted, List.append_assoc, Nat.add_assoc]

theorem asks_append (first second : List (Event δ)) :
    asks (first ++ second) = asks first ++ asksFrom (turnCount first) second := by
  simp [asks, asksFrom_append]

theorem asksFrom_singleton_cases (turn : Nat) (event : Event δ) :
    asksFrom turn [event] = []
      ∨ ∃ window outcome, event = .queried window outcome
        ∧ asksFrom turn [event] = [⟨turn, window, outcome.isOk⟩] := by
  cases event with
  | queried window outcome => exact Or.inr ⟨window, outcome, rfl, rfl⟩
  | waited interval outcome => cases outcome <;> exact Or.inl rfl
  | clockRead | accepted | stalled => exact Or.inl rfl

/-- A query belongs to the turn that was there before or to one that began meanwhile. -/
theorem turn_of_mem {ask : Ask} (among : ask ∈ asksFrom turn events) :
    turn ≤ ask.turn ∧ ask.turn ≤ turn + turnCount events := by
  induction events generalizing turn with
  | nil => simp [asksFrom] at among
  | cons event rest inductionHypothesis =>
    have counted : turnCount (event :: rest) = turnCount [event] + turnCount rest :=
      turnCount_append [event] rest
    rw [asksFrom_cons, List.mem_append] at among
    rcases among with here | later
    · rcases asksFrom_singleton_cases turn event with none | ⟨window, outcome, rfl, one⟩
      · simp [none] at here
      · rw [one, List.mem_singleton] at here
        subst here
        exact ⟨Nat.le_refl _, Nat.le_add_right _ _⟩
    · have := inductionHypothesis later
      omega

theorem countP_asksFrom (turn : Nat) (events : List (Event δ)) :
    (asksFrom turn events).countP Ask.isAnswered = answeredCount events := by
  induction events generalizing turn with
  | nil => rfl
  | cons event rest inductionHypothesis =>
    have counted : answeredCount ([event] ++ rest) = answeredCount [event] + answeredCount rest :=
      List.countP_append
    rw [List.singleton_append] at counted
    rw [asksFrom_cons, List.countP_append, inductionHypothesis, counted]
    congr 1
    cases event with
    | waited interval outcome | queried interval outcome => cases outcome <;> rfl
    | clockRead | accepted | stalled => rfl

end Asks

/-- Nothing is asked, the clock is not read and no wait fails. -/
structure Silent (events : List (Event δ)) : Prop where
  asks (turn : Nat) : asksFrom turn events = []
  turns : turnCount events = 0

@[simp] theorem silent_nil : Silent ([] : List (Event δ)) := ⟨fun _ => rfl, rfl⟩

theorem silent_map_accepted (taken : List Entry) :
    Silent (taken.map (Event.accepted (δ := δ))) := by
  induction taken with
  | nil => exact silent_nil
  | cons entry rest inductionHypothesis =>
    exact ⟨inductionHypothesis.asks, inductionHypothesis.turns⟩

theorem turnCount_page (iterator : Iterator δ) (windowStop : Int) (batch : Batch)
    (taken : List Entry) :
    turnCount (pageEvent iterator windowStop batch :: taken.map .accepted) = 0 :=
  (silent_map_accepted taken).turns

theorem silent_follow (next : Int) (iterator : Iterator δ) (world : ω) :
    Silent (follow next iterator world).events := by
  rw [follow_eq]
  split
  · exact ⟨fun _ => rfl, rfl⟩
  · exact silent_nil

theorem silent_waited (interval : δ) (closed : Bool) :
    Silent [Event.waited interval (.ok closed)] :=
  ⟨fun _ => rfl, rfl⟩

theorem Silent.append {first second : List (Event δ)} (silent : Silent first)
    (silentAfter : Silent second) : Silent (first ++ second) where
  asks turn := by rw [asksFrom_append, silent.asks, silentAfter.asks, List.nil_append]
  turns := by rw [turnCount_append, silent.turns, silentAfter.turns]

/-- A window is opened without a look at the clock, at the end of a complete scope, or with one. -/
theorem opening_cases {env : Surroundings ω δ} {complete : Bool} {stop : Option Int}
    {world later : ω} {windowStop : Int} {events : List (Event δ)}
    (opening : newWindowStop env complete stop world = (windowStop, later, events)) :
    complete = true ∧ stop = some windowStop ∧ events = []
      ∨ ∃ now, events = [.clockRead now] ∧ (stop = none → windowStop = now) := by
  unfold newWindowStop at opening
  split at opening
  · cases opening
    exact Or.inl ⟨rfl, rfl, rfl⟩
  · cases opening
    exact Or.inr ⟨_, rfl, by simp⟩
  · cases opening
    exact Or.inr ⟨_, rfl, fun _ => rfl⟩

/-- Catching up does not go back. -/
theorem le_cursor_catchUp (iterator : Iterator δ) : iterator.cursor ≤ iterator.catchUp.cursor := by
  unfold catchUp
  split
  · rw [cursor_advance]
    exact Int.le_max_left _ _
  · exact Int.le_refl _

/-- Pages of entries with fingerprints are taken in as a whole. -/
theorem failure_eq_none {env : Surroundings ω δ} (fingerprinted : env.Fingerprinted)
    {window : Window} {world later : ω} {batch : Batch} {closes : Bool}
    (answer : env.query window world = ((.ok batch, closes), later)) {stop : Option Int}
    {iterator next : Iterator δ} {taken : List Entry} {failure : Option Failure}
    (acceptance : acceptAll stop (Entry.sorted batch.entries) iterator = (next, taken, failure)) :
    failure = none := by
  have noFailure : (acceptAll stop (Entry.sorted batch.entries) iterator).2.2 = none :=
    no_failure_of_fingerprints fun entry among => fingerprinted _ _ _ _ _ answer entry
      ((Entry.sorted_perm batch.entries).subset among)
  rwa [acceptance] at noFailure

/-- Only a log that grows has a window after the last one. -/
theorem complete_of_notLast {iterator : Iterator δ} {stop : Option Int} {windowStop : Int}
    (notLast : iterator.isLastWindow stop windowStop = false) : iterator.scope.complete = false :=
  (Bool.or_eq_false_iff.mp notLast).2

/-! ## One query after the other -/

/-- A later query of the same turn ends with the same window and begins no earlier; after an answer
it begins later. -/
def Ask.Onward (earlier later : Ask) : Prop :=
  earlier.turn = later.turn →
    later.window.stop = earlier.window.stop ∧ earlier.window.start ≤ later.window.start
      ∧ (earlier.isAnswered = true → earlier.window.start < later.window.start)

/-- Between two moves: the iterator can ask for a page next. -/
def CanAsk (stage : Stage) (iterator : Iterator δ) : Prop :=
  stage = .resting ∧ iterator.closed = false ∧ iterator.exhausted = false
    ∧ iterator.waitDue = false

/-- The queries so far began one after the other in each turn, the first one at a given time or
later, and those of this turn begin before the cursor if they were answered and another one can
follow. -/
structure Progressing (first : Int) (stage : Stage) (run : Run ω δ) : Prop where
  onward : (asks run.events).Pairwise Ask.Onward
  inside : ∀ ask ∈ asks run.events,
    first ≤ ask.window.start ∧ ask.window.start < ask.window.stop
  current : ∀ ask ∈ asks run.events, ask.turn = turnCount run.events →
    run.iterator.windowStop = some ask.window.stop ∧ ask.window.start ≤ run.iterator.cursor
      ∧ (ask.isAnswered = true → CanAsk stage run.iterator →
        ask.window.start < run.iterator.cursor)
  ahead : first ≤ run.iterator.cursor
  unopened : run.iterator.windowStop = none → asks run.events = []
  /-- There are waits only while a log grows. -/
  growing : stage = .waiting ∨ run.iterator.waitDue = true → run.iterator.scope.complete = false

namespace Progressing

variable {first : Int} {stage stage' : Stage} {run run' : Run ω δ}

theorem start {iterator : Iterator δ} (world : ω) (notDue : iterator.waitDue = false) :
    Progressing iterator.cursor .resting (Run.start iterator world) where
  onward := List.Pairwise.nil
  inside := by simp [Run.start, asks, asksFrom]
  current := by simp [Run.start, asks, asksFrom]
  ahead := Int.le_refl _
  unopened _ := rfl
  growing := by simp [Run.start, notDue]

/-- Nothing was asked, and no query can follow that could not before. -/
theorem silent (progressing : Progressing first stage run) {quiet : List (Event δ)}
    (silent : Silent quiet) (events : run'.events = run.events ++ quiet)
    (cursor : run'.iterator.cursor = run.iterator.cursor)
    (windowStop : run'.iterator.windowStop = run.iterator.windowStop)
    (canAsk : CanAsk stage' run'.iterator → CanAsk stage run.iterator)
    (growing : stage' = .waiting ∨ run'.iterator.waitDue = true →
      run'.iterator.scope.complete = false) : Progressing first stage' run' := by
  have sameAsks : asks run'.events = asks run.events := by
    rw [events, asks_append, silent.asks, List.append_nil]
  have sameTurn : turnCount run'.events = turnCount run.events := by
    rw [events, turnCount_append, silent.turns, Nat.add_zero]
  refine ⟨sameAsks ▸ progressing.onward, sameAsks ▸ progressing.inside, ?_,
    cursor ▸ progressing.ahead, ?_, growing⟩
  · rw [sameAsks, sameTurn, cursor, windowStop]
    intro ask among isCurrent
    obtain ⟨sameStop, behind, further⟩ := progressing.current ask among isCurrent
    exact ⟨sameStop, behind, fun answered can => further answered (canAsk can)⟩
  · rw [sameAsks, windowStop]
    exact progressing.unopened

/-- Nothing happened, and no query can follow that could not before. -/
theorem still (progressing : Progressing first stage run) (events : run'.events = run.events)
    (cursor : run'.iterator.cursor = run.iterator.cursor)
    (windowStop : run'.iterator.windowStop = run.iterator.windowStop)
    (canAsk : CanAsk stage' run'.iterator → CanAsk stage run.iterator)
    (growing : stage' = .waiting ∨ run'.iterator.waitDue = true →
      run'.iterator.scope.complete = false) : Progressing first stage' run' :=
  progressing.silent silent_nil (events.trans (List.append_nil _).symm) cursor windowStop canAsk
    growing

/-- A page was asked for.  If it came and another one can be asked for, the cursor has moved on. -/
theorem ask (progressing : Progressing first .resting run) {stop : Option Int} {windowStop : Int}
    (hungry : Hungry run.iterator stop) (opened : run.iterator.windowStop = some windowStop)
    (inside : run.iterator.cursor < windowStop) (outcome : Except Failure Nat)
    {rest : List (Event δ)} (silent : Silent rest)
    (events : run'.events
      = run.events ++ .queried ⟨run.iterator.cursor, windowStop⟩ outcome :: rest)
    (sameStop : run'.iterator.windowStop = run.iterator.windowStop)
    (cursor : run.iterator.cursor ≤ run'.iterator.cursor)
    (further : outcome.isOk = true → CanAsk stage' run'.iterator →
      run.iterator.cursor < run'.iterator.cursor)
    (growing : stage' = .waiting ∨ run'.iterator.waitDue = true →
      run'.iterator.scope.complete = false) : Progressing first stage' run' := by
  have canAsk : CanAsk .resting run.iterator :=
    ⟨rfl, hungry.notClosed, hungry.notExhausted, hungry.notDue⟩
  have newAsks : asks run'.events = asks run.events ++
      [⟨turnCount run.events, ⟨run.iterator.cursor, windowStop⟩, outcome.isOk⟩] := by
    rw [events, asks_append, asksFrom, silent.asks]
  have sameTurn : turnCount run'.events = turnCount run.events := by
    have asking : turnCount (.queried ⟨run.iterator.cursor, windowStop⟩ outcome :: rest) = 0 :=
      silent.turns
    rw [events, turnCount_append, asking, Nat.add_zero]
  refine ⟨?_, ?_, ?_, Int.le_trans progressing.ahead cursor, ?_, growing⟩
  · rw [newAsks, List.pairwise_append]
    refine ⟨progressing.onward, List.pairwise_singleton _ _, fun earlier among later isLater => ?_⟩
    cases List.mem_singleton.mp isLater
    intro isCurrent
    obtain ⟨itsStop, behind, before⟩ := progressing.current earlier among isCurrent
    exact ⟨Option.some.inj (opened.symm.trans itsStop), behind,
      fun answered => before answered canAsk⟩
  · rw [newAsks, List.forall_mem_append, List.forall_mem_singleton]
    exact ⟨progressing.inside, progressing.ahead, inside⟩
  · rw [newAsks, List.forall_mem_append, List.forall_mem_singleton, sameTurn, sameStop]
    refine ⟨fun earlier among isCurrent => ?_, fun _ => ⟨opened, cursor, further⟩⟩
    obtain ⟨itsStop, behind, before⟩ := progressing.current earlier among isCurrent
    exact ⟨itsStop, Int.le_trans behind cursor, fun answered _ =>
      Int.lt_of_lt_of_le (before answered canAsk) cursor⟩
  · rw [sameStop, opened]
    simp

/-- A new turn began, without a query so far. -/
theorem newTurn (progressing : Progressing first stage run) {more : List (Event δ)}
    (noAsk : ∀ turn, asksFrom turn more = []) (begins : turnCount more = 1)
    (events : run'.events = run.events ++ more)
    (cursor : run.iterator.cursor ≤ run'.iterator.cursor)
    (opened : run'.iterator.windowStop = none → run.iterator.windowStop = none)
    (growing : stage' = .waiting ∨ run'.iterator.waitDue = true →
      run'.iterator.scope.complete = false) : Progressing first stage' run' := by
  have sameAsks : asks run'.events = asks run.events := by
    rw [events, asks_append, noAsk, List.append_nil]
  have nextTurn : turnCount run'.events = turnCount run.events + 1 := by
    rw [events, turnCount_append, begins]
  refine ⟨sameAsks ▸ progressing.onward, sameAsks ▸ progressing.inside, ?_,
    Int.le_trans progressing.ahead cursor,
    fun unopened => sameAsks ▸ progressing.unopened (opened unopened), growing⟩
  rw [sameAsks, nextTurn]
  intro ask among isCurrent
  have : ask.turn ≤ 0 + turnCount run.events := (turn_of_mem among).2
  omega

/-- The next window was opened. -/
theorem openNext [WaitTime δ] {env : Surroundings ω δ} {stop : Option Int}
    (iterator : Iterator δ) {world : ω} {quiet : List (Event δ)}
    (progressing : Progressing first stage run) (silent : Silent quiet)
    (growing : iterator.scope.complete = false)
    (cursor : run.iterator.cursor ≤ iterator.cursor) :
    Progressing first .resting
      (run.after ((Iterator.openNext env stop iterator world).after quiet)) := by
  rw [openNext_eq, growing]
  rcases opening : newWindowStop env false stop world with ⟨windowStop, later, events⟩
  obtain ⟨now, rfl, -⟩ := (opening_cases opening).resolve_left (by simp)
  refine progressing.newTurn (fun turn => ?_) ?_ rfl
    (Int.le_trans cursor (le_cursor_catchUp iterator)) (by simp [Run.after, Run.advance])
    fun _ => growing
  · change asksFrom turn (quiet ++ [.clockRead now]) = []
    rw [asksFrom_append, silent.asks]
    rfl
  · change turnCount (quiet ++ [.clockRead now]) = 1
    rw [turnCount_append, silent.turns, turnCount_clockRead]

/-- Every move keeps this. -/
theorem move [WaitTime δ] {env : Surroundings ω δ} (fingerprinted : env.Fingerprinted)
    (move : Move env (stage, run) (stage', run')) (progressing : Progressing first stage run) :
    Progressing first stage' run' := by
  cases move with
  | resume active nothingReady due =>
    exact progressing.still rfl rfl rfl (by simp [CanAsk]) fun _ => progressing.growing (Or.inr due)
  | @openFirst _ stop windowStop world events hungry unopened opening =>
    have noAsks := progressing.unopened unopened
    have sameAsks : asks (run.advance { run.iterator with windowStop := some windowStop } world
        events).events = [] := by
      rw [Run.advance, asks_append, noAsks, List.nil_append]
      rcases opening_cases opening with ⟨-, -, rfl⟩ | ⟨now, rfl, -⟩ <;> rfl
    refine ⟨by rw [sameAsks]; exact List.Pairwise.nil, by simp [sameAsks], by simp [sameAsks],
      progressing.ahead, fun _ => sameAsks, ?_⟩
    have notDue := hungry.notDue
    simp [Run.advance, notDue]
  | useUp hungry opened past =>
    have notDue := hungry.notDue
    exact progressing.still rfl rfl rfl (by simp [CanAsk]) (by simp [notDue])
  | @failQuery _ stop windowStop failure closes world hungry opened inside answer =>
    have notDue := hungry.notDue
    refine progressing.ask hungry opened inside (.error failure) silent_nil rfl ?_ ?_
      (by simp [Except.isOk, Except.toBool]) ?_
    all_goals cases closes <;> simp [Run.advance, close, notDue]
  | @dropPage _ stop windowStop batch world hungry opened inside answer =>
    have notDue := hungry.notDue
    exact progressing.ask hungry opened inside (.ok batch.entries.length) silent_nil rfl
      rfl (Int.le_refl _) (by simp [CanAsk, Run.advance]) (by simp [Run.advance, close, notDue])
  | breakOff hungry opened inside answer acceptance =>
    cases failure_eq_none fingerprinted answer acceptance
  | @turnPage _ stop windowStop batch world next taken cursor hungry opened inside answer acceptance
      full =>
    have same := sameBut_of_acceptance acceptance
    have notDue := same.waitDue.trans hungry.notDue
    have further : run.iterator.cursor < max cursor (run.iterator.cursor + 1) := by omega
    refine progressing.ask hungry opened inside (.ok batch.entries.length)
      ((silent_map_accepted taken).append
        (silent_follow cursor (next.countTaken taken) world)) ?_ ?_ ?_ ?_ ?_
    · simp [Run.after, Run.advance, pageEvent]
    · simpa [Run.after, Run.advance, follow_eq, countTaken] using same.windowStop
    · simp only [Run.after, Run.advance, follow_eq, cursor_advance, countTaken, same.cursor]
      omega
    · simp only [Run.after, Run.advance, follow_eq, cursor_advance, countTaken, same.cursor]
      omega
    · simp [Run.after, Run.advance, follow_eq, countTaken, notDue]
  | @lastPage _ stop windowStop batch world next taken hungry opened inside answer acceptance
      notFull =>
    have same := sameBut_of_acceptance acceptance
    have notDue := same.waitDue.trans hungry.notDue
    exact progressing.ask hungry opened inside (.ok batch.entries.length)
      (silent_map_accepted taken) rfl same.windowStop
      (Int.le_of_eq same.cursor.symm) (by simp [CanAsk])
      (by simp [Run.advance, countTaken, notDue])
  | finish active opened isLast =>
    exact progressing.still rfl rfl rfl (by simp [CanAsk]) fun due =>
      progressing.growing (Or.inr (by simpa using due))
  | @renew _ stop windowStop active opened notLast found =>
    have growing := complete_of_notLast notLast
    exact progressing.openNext { run.iterator with elapsed := WaitTime.none } silent_nil growing
      (Int.le_refl _)
  | giveUp active opened notLast =>
    exact progressing.still rfl rfl rfl (by simp [CanAsk]) fun _ => complete_of_notLast notLast
  | postpone active opened notLast =>
    exact progressing.still rfl rfl rfl (by simp [CanAsk]) fun _ => complete_of_notLast notLast
  | beginWait active opened notLast =>
    exact progressing.still rfl rfl rfl (by simp [CanAsk]) fun _ => complete_of_notLast notLast
  | failWait active answer =>
    exact progressing.newTurn (fun _ => rfl) rfl rfl (Int.le_refl _) id
      fun _ => progressing.growing (Or.inl rfl)
  | breakWait active answer =>
    exact progressing.silent (silent_waited _ _) rfl rfl rfl
      (by simp [CanAsk, Run.advance]) fun _ => progressing.growing (Or.inl rfl)
  | endWait active answer =>
    rw [Run.after_advance]
    exact progressing.openNext run.iterator.countWait.passInterval (silent_waited _ _)
      (progressing.growing (Or.inl rfl)) (Int.le_refl _)
  | handOut =>
    exact progressing.still rfl rfl rfl id progressing.growing
  | close =>
    exact progressing.still rfl rfl rfl (by simp [CanAsk]) progressing.growing

end Progressing

/-! ## Counting answers -/

/-- Of queries of one turn no more are answered than its window has nanoseconds from the first one
on. -/
theorem countP_isAnswered_le {turn : Nat} {list : List Ask}
    (onward : list.Pairwise Ask.Onward) (sameTurn : ∀ ask ∈ list, ask.turn = turn)
    (inside : ∀ ask ∈ list, ask.window.start < ask.window.stop) :
    ∀ ask ∈ list.head?, (∀ other ∈ list, other.window.stop = ask.window.stop)
      ∧ (list.countP Ask.isAnswered : Int) ≤ ask.window.stop - ask.window.start := by
  induction list with
  | nil => simp
  | cons ask rest inductionHypothesis =>
    rintro _ ⟨⟩
    rw [List.pairwise_cons] at onward
    rw [List.forall_mem_cons] at sameTurn inside
    have sameStop : ∀ other ∈ rest, other.window.stop = ask.window.stop := fun other among =>
      (onward.1 other among (sameTurn.1.trans (sameTurn.2 other among).symm)).1
    refine ⟨List.forall_mem_cons.mpr ⟨rfl, sameStop⟩, ?_⟩
    have here : (if ask.isAnswered then 1 else 0) ≤ 1 := by split <;> omega
    rw [List.countP_cons]
    cases rest with
    | nil =>
      have := inside.1
      simp only [List.countP_nil]
      omega
    | cons next later =>
      have := (inductionHypothesis onward.2 sameTurn.2 inside.2 next rfl).2
      have := sameStop next List.mem_cons_self
      obtain ⟨-, notBefore, after⟩ := onward.1 next List.mem_cons_self
        (sameTurn.1.trans (sameTurn.2 next List.mem_cons_self).symm)
      split
      · rename_i isAnswered
        have := after isAnswered
        omega
      · omega

/-- What is known of a run over a complete scope: its one window ends with the scope, or at the one
time that was read from the clock. -/
structure OneWindow (stop : Option Int) (stage : Stage) (run : Run ω δ) : Prop where
  complete : run.iterator.scope.complete = true
  stopNanos : run.iterator.scope.stopNanos = .ok stop
  notWaiting : stage ≠ .waiting
  notDue : run.iterator.waitDue = false
  unopened : run.iterator.windowStop = none → clockReadings run.events = []
  opened : ∀ windowStop ∈ run.iterator.windowStop,
    stop = some windowStop ∧ clockReadings run.events = []
      ∨ stop = none ∧ clockReadings run.events = [windowStop]
  /-- All queries are of one turn. -/
  current : ∀ ask ∈ asks run.events, ask.turn = turnCount run.events

namespace OneWindow

variable {stop : Option Int} {stage stage' : Stage} {run run' : Run ω δ}

theorem start {iterator : Iterator δ} (world : ω) (complete : iterator.scope.complete = true)
    (stopNanos : iterator.scope.stopNanos = .ok stop) (notDue : iterator.waitDue = false)
    (unopened : iterator.windowStop = none) :
    OneWindow stop .resting (Run.start iterator world) where
  complete := complete
  stopNanos := stopNanos
  notWaiting := by simp
  notDue := notDue
  unopened _ := rfl
  opened := by simp [Run.start, unopened]
  current := by simp [Run.start, asks, asksFrom]

/-- No turn began. -/
theorem still (one : OneWindow stop stage run) {more : List (Event δ)}
    (noTurn : turnCount more = 0) (events : run'.events = run.events ++ more)
    (scope : run'.iterator.scope = run.iterator.scope)
    (waitDue : run'.iterator.waitDue = run.iterator.waitDue)
    (windowStop : run'.iterator.windowStop = run.iterator.windowStop)
    (notWaiting : stage' ≠ .waiting) : OneWindow stop stage' run' := by
  have sameReadings : clockReadings run'.events = clockReadings run.events := by
    rw [events, clockReadings_append, (turnCount_eq_zero.mp noTurn).1, List.append_nil]
  have sameTurn : turnCount run'.events = turnCount run.events := by
    rw [events, turnCount_append, noTurn, Nat.add_zero]
  refine ⟨scope ▸ one.complete, scope ▸ one.stopNanos, notWaiting, waitDue.trans one.notDue, ?_, ?_,
    ?_⟩
  · rw [sameReadings, windowStop]
    exact one.unopened
  · rw [sameReadings, windowStop]
    exact one.opened
  · rw [sameTurn, events, asks_append, List.forall_mem_append]
    refine ⟨one.current, fun ask among => ?_⟩
    have bounds := turn_of_mem among
    omega

/-- Every move keeps this. -/
theorem move [WaitTime δ] {env : Surroundings ω δ} {first : Int}
    (progressing : Progressing first stage run) (move : Move env (stage, run) (stage', run'))
    (one : OneWindow stop stage run) : OneWindow stop stage' run' := by
  have isLast (known : Option Int) (windowStop : Int) :
      run.iterator.isLastWindow known windowStop = true := by
    simp [isLastWindow, one.complete]
  cases move with
  | resume _ _ due => exact absurd due (ne_true_of_eq_false one.notDue)
  | @openFirst _ known windowStop world events hungry unopened opening =>
    obtain rfl : known = stop := Except.ok.inj (hungry.stopNanos.symm.trans one.stopNanos)
    have noReading := one.unopened unopened
    have noAsks := progressing.unopened unopened
    refine ⟨one.complete, one.stopNanos, by simp, one.notDue, by simp [Run.advance], ?_, ?_⟩
    · rintro _ ⟨⟩
      simp only [Run.advance, clockReadings_append, noReading, List.nil_append]
      rcases opening_cases opening with ⟨-, atStop, rfl⟩ | ⟨now, rfl, atNow⟩
      · exact Or.inl ⟨atStop, rfl⟩
      · cases known with
        | none => exact Or.inr ⟨rfl, by rw [atNow rfl]; rfl⟩
        | some stop =>
          rw [one.complete] at opening
          cases opening
    · rw [Run.advance, asks_append, noAsks, List.nil_append]
      rcases opening_cases opening with ⟨-, -, rfl⟩ | ⟨now, rfl, -⟩ <;> simp [asksFrom]
  | useUp | finish | handOut | close =>
    exact one.still rfl (List.append_nil _).symm rfl rfl rfl (by simp)
  | @failQuery _ _ _ _ closes =>
    cases closes <;> exact one.still rfl rfl rfl rfl rfl (by simp)
  | dropPage => exact one.still rfl rfl rfl rfl rfl (by simp)
  | breakOff hungry opened inside answer acceptance
  | lastPage hungry opened inside answer acceptance =>
    have same := sameBut_of_acceptance acceptance
    exact one.still (turnCount_page _ _ _ _) rfl same.scope same.waitDue same.windowStop
      (by simp)
  | @turnPage _ _ windowStop batch world next taken cursor hungry opened inside answer
      acceptance =>
    have same := sameBut_of_acceptance acceptance
    have noTurn : turnCount (pageEvent run.iterator windowStop batch
        :: taken.map .accepted ++ (follow cursor (next.countTaken taken) world).events) = 0 := by
      rw [turnCount_append, turnCount_page, (silent_follow _ _ _).turns]
    refine one.still noTurn (List.append_assoc _ _ _) ?_ ?_ ?_ (by simp)
    · simpa [Run.after, Run.advance, follow_eq, countTaken] using same.scope
    · simpa [Run.after, Run.advance, follow_eq, countTaken] using same.waitDue
    · simpa [Run.after, Run.advance, follow_eq, countTaken] using same.windowStop
  | renew _ _ notLast | giveUp _ _ notLast | postpone _ _ notLast | beginWait _ _ notLast =>
    exact absurd (isLast _ _) (ne_true_of_eq_false notLast)
  | failWait | breakWait | endWait => exact absurd rfl one.notWaiting

/-- No more queries are answered than the window has nanoseconds. -/
theorem answeredCount_le {first : Int} (one : OneWindow stop stage run)
    (progressing : Progressing first stage run) {windowStop : Int}
    (opened : run.iterator.windowStop = some windowStop) :
    answeredCount run.events ≤ (windowStop - first).toNat := by
  rw [← countP_asksFrom 0]
  change (asks run.events).countP Ask.isAnswered ≤ _
  have counted := countP_isAnswered_le progressing.onward one.current
    fun ask among => (progressing.inside ask among).2
  cases all : asks run.events with
  | nil => simp
  | cons ask rest =>
    have among : ask ∈ asks run.events := all ▸ List.mem_cons_self
    obtain ⟨-, few⟩ := counted ask (by simp [all])
    obtain ⟨sameStop, -⟩ := progressing.current ask among (one.current ask among)
    have := (progressing.inside ask among).1
    have := Option.some.inj (opened.symm.trans sameStop)
    rw [all] at few
    omega

/-- The clock is read once at most, and only if the scope has no end; no more queries are answered
than there are nanoseconds up to the end of the scope or to that one time. -/
theorem bounded {first : Int} (one : OneWindow stop stage run)
    (progressing : Progressing first stage run) :
    (∀ ending ∈ stop, clockReadings run.events = []
        ∧ answeredCount run.events ≤ (ending - first).toNat)
      ∧ (stop = none → clockReadings run.events = [] ∧ answeredCount run.events = 0
        ∨ ∃ reading, clockReadings run.events = [reading]
          ∧ answeredCount run.events ≤ (reading - first).toNat) := by
  cases opened : run.iterator.windowStop with
  | none =>
    have noReading := one.unopened opened
    have noAnswer : answeredCount run.events = 0 := by
      have noAsks : asksFrom 0 run.events = [] := progressing.unopened opened
      rw [← countP_asksFrom 0, noAsks, List.countP_nil]
    rw [noAnswer]
    exact ⟨fun _ _ => ⟨noReading, Nat.zero_le _⟩, fun _ => Or.inl ⟨noReading, rfl⟩⟩
  | some windowStop =>
    have few := one.answeredCount_le progressing opened
    rcases one.opened windowStop opened with ⟨rfl, noReading⟩ | ⟨rfl, isReading⟩
    · refine ⟨?_, by simp⟩
      rintro _ ⟨⟩
      exact ⟨noReading, few⟩
    · exact ⟨by simp, fun _ => Or.inr ⟨windowStop, isReading, few⟩⟩

end OneWindow

end Iterator
end RunLog
