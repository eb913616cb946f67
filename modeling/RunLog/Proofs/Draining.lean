import Mathlib.Data.List.Permutation
import RunLog.Journal
import RunLog.Proofs.Backend

/-!
# Draining a finished log

The log of a complete run with an end is asked for in one window.  Every fetch takes in a page and
moves the cursor on, or finds that nothing is left, so an iterator that is drained comes to its end.
Then every line of the window was handed out that fits on a page with the lines at its time, once
and in the order of its stream, and where not all of them fit there is a warning.
-/

namespace RunLog
namespace Store

variable {store : Store} {window : Window} {limit : Nat} {line : StoredLine}

instance (store : Store) (limit : Nat) (line : StoredLine) : Decidable (store.Fits limit line) :=
  inferInstanceAs (Decidable (line ∈ (store.atTime line.timestamp).take limit))

/-- The lines of a store in a window that are among the first ones at their time. -/
def wanted (store : Store) (window : Window) (limit : Nat) : List StoredLine :=
  (store.within window).filter fun line => store.Fits limit line

theorem mem_wanted :
    line ∈ store.wanted window limit ↔
      window.contains line.timestamp = true ∧ store.Fits limit line := by
  rw [wanted, List.mem_filter, mem_within, decide_eq_true_eq]
  exact ⟨fun ⟨⟨_, inside⟩, fits⟩ => ⟨inside, fits⟩,
    fun ⟨inside, fits⟩ => ⟨⟨fits.mem_lines, inside⟩, fits⟩⟩

theorem nodup_wanted (store : Store) (window : Window) (limit : Nat) :
    (store.wanted window limit).Nodup :=
  (store.nodup_byTime.filter _).filter _

/-- A store that stays as it is. -/
theorem evolves_constant (positive : 0 < limit) (store : Store) (count : Nat) :
    Evolves limit (visible (fun _ => store) count) store := by
  cases count with
  | zero => exact Evolves.of_empty limit positive store
  | succ count => exact Evolves.refl limit store

end Store

namespace Iterator

variable {ω δ : Type}

/-! ## One window -/

/-- What is known of a run over a complete scope that ends at a given time: there is one window, and
no wait. -/
structure Finishing (stop : Int) (stage : Stage) (run : Run ω δ) : Prop where
  complete : run.iterator.scope.complete = true
  stopNanos : run.iterator.scope.stopNanos = .ok (some stop)
  notWaiting : stage ≠ .waiting
  notDue : run.iterator.waitDue = false
  /-- The window ends with the scope. -/
  windowStop : ∀ windowStop ∈ run.iterator.windowStop, windowStop = stop
  /-- The windows that were asked for ended with the scope. -/
  windows : ∀ window ∈ windowsAsked run.events, window.stop = stop
  /-- The window is used up after a query, or when the cursor has reached its end. -/
  used : stage = .usedUp ∨ run.iterator.exhausted = true →
    windowsAsked run.events ≠ [] ∨ stop ≤ run.iterator.cursor

namespace Finishing

variable {stop : Int} {stage stage' : Stage} {run run' : Run ω δ}

theorem start (iterator : Iterator δ) (world : ω) (complete : iterator.scope.complete = true)
    (stopNanos : iterator.scope.stopNanos = .ok (some stop)) (notDue : iterator.waitDue = false)
    (unopened : iterator.windowStop = none) (notExhausted : iterator.exhausted = false) :
    Finishing stop .resting (Run.start iterator world) where
  complete := complete
  stopNanos := stopNanos
  notWaiting := by simp
  notDue := notDue
  windowStop := by simp [Run.start, unopened]
  windows := by simp [Run.start]
  used := by simp [Run.start, notExhausted]

theorem eq_some (finishing : Finishing stop stage run) {known : Option Int}
    (active : Active run.iterator known) : known = some stop :=
  Except.ok.inj (active.stopNanos.symm.trans finishing.stopNanos)

/-- A page was asked for. -/
theorem asked (finishing : Finishing stop stage run)
    (scope : run'.iterator.scope = run.iterator.scope)
    (waitDue : run'.iterator.waitDue = run.iterator.waitDue) {windowStop : Int}
    (opened : run.iterator.windowStop = some windowStop)
    (sameWindow : run'.iterator.windowStop = run.iterator.windowStop)
    (windows : windowsAsked run'.events
      = windowsAsked run.events ++ [⟨run.iterator.cursor, windowStop⟩])
    (notWaiting : stage' ≠ .waiting) : Finishing stop stage' run' where
  complete := scope ▸ finishing.complete
  stopNanos := scope ▸ finishing.stopNanos
  notWaiting := notWaiting
  notDue := waitDue.trans finishing.notDue
  windowStop := sameWindow ▸ finishing.windowStop
  windows := by
    intro window isWindow
    rw [windows, List.mem_append, List.mem_singleton] at isWindow
    rcases isWindow with earlier | rfl
    · exact finishing.windows window earlier
    · exact finishing.windowStop windowStop opened
  used _ := by simp [windows]

/-- No page was asked for. -/
theorem quiet (finishing : Finishing stop stage run)
    (scope : run'.iterator.scope = run.iterator.scope)
    (waitDue : run'.iterator.waitDue = run.iterator.waitDue)
    (sameWindow : run'.iterator.windowStop = run.iterator.windowStop)
    (events : run'.events = run.events) (notWaiting : stage' ≠ .waiting)
    (used : stage' = .usedUp ∨ run'.iterator.exhausted = true →
      windowsAsked run.events ≠ [] ∨ stop ≤ run'.iterator.cursor) :
    Finishing stop stage' run' where
  complete := scope ▸ finishing.complete
  stopNanos := scope ▸ finishing.stopNanos
  notWaiting := notWaiting
  notDue := waitDue.trans finishing.notDue
  windowStop := sameWindow ▸ finishing.windowStop
  windows := events ▸ finishing.windows
  used := events ▸ used

theorem isLastWindow (finishing : Finishing stop stage run) (known : Option Int)
    (windowStop : Int) : run.iterator.isLastWindow known windowStop = true := by
  simp [Iterator.isLastWindow, finishing.complete]

/-- Every move keeps this. -/
theorem move [WaitTime δ] {env : Surroundings ω δ} (move : Move env (stage, run) (stage', run'))
    (finishing : Finishing stop stage run) : Finishing stop stage' run' := by
  cases move with
  | resume _ _ due => exact absurd due (ne_true_of_eq_false finishing.notDue)
  | openFirst hungry unopened opening =>
    obtain rfl := finishing.eq_some hungry.toActive
    rw [finishing.complete] at opening
    cases opening
    have notExhausted := hungry.notExhausted
    refine ⟨finishing.complete, finishing.stopNanos, by simp, finishing.notDue, ?_, ?_, ?_⟩
    · rintro _ ⟨⟩
      rfl
    · simpa [Run.advance] using finishing.windows
    · simp [Run.advance, notExhausted]
  | useUp hungry opened past =>
    refine finishing.quiet rfl rfl rfl rfl (by simp) fun _ => Or.inr ?_
    rwa [finishing.windowStop _ opened] at past
  | @failQuery _ _ _ _ closes _ hungry opened =>
    cases closes with
    | true =>
      exact finishing.asked rfl rfl opened rfl (by simp [Run.advance, Event.window?]) (by simp)
    | false =>
      exact finishing.asked rfl rfl opened rfl (by simp [Run.advance, Event.window?]) (by simp)
  | dropPage hungry opened =>
    exact finishing.asked rfl rfl opened rfl (by simp [Run.advance, pageEvent, Event.window?])
      (by simp)
  | breakOff hungry opened inside answer acceptance =>
    have same := sameBut_of_acceptance acceptance
    exact finishing.asked same.scope same.waitDue opened same.windowStop
      (by rw [Run.advance, windowsAsked_append, windowsAsked_page]) (by simp)
  | turnPage hungry opened inside answer acceptance =>
    have same := sameBut_of_acceptance acceptance
    refine finishing.asked ?_ ?_ opened ?_ ?_ (by simp)
    · simpa [Run.after, Run.advance, follow_eq, countTaken] using same.scope
    · simpa [Run.after, Run.advance, follow_eq, countTaken] using same.waitDue
    · simpa [Run.after, Run.advance, follow_eq, countTaken] using same.windowStop
    · simp only [Run.after, Run.advance, windowsAsked_append, windowsAsked_page,
        windowsAsked_follow, List.append_nil]
  | lastPage hungry opened inside answer acceptance =>
    have same := sameBut_of_acceptance acceptance
    exact finishing.asked same.scope same.waitDue opened same.windowStop
      (by rw [Run.advance, windowsAsked_append, windowsAsked_page]) (by simp)
  | finish => exact finishing.quiet rfl rfl rfl rfl (by simp) fun _ => finishing.used (Or.inl rfl)
  | renew _ _ notLast | giveUp _ _ notLast | postpone _ _ notLast | beginWait _ _ notLast =>
    exact absurd (finishing.isLastWindow _ _) (ne_true_of_eq_false notLast)
  | failWait | breakWait | endWait => exact absurd rfl finishing.notWaiting
  | handOut => exact finishing.quiet rfl rfl rfl rfl (by simp) finishing.used
  | close => exact finishing.quiet rfl rfl rfl rfl (by simp) finishing.used

end Finishing

/-! ## On the way -/

/-- Surroundings that answer every query inside a range of times. -/
def Answers (env : Surroundings ω δ) (Asked : ω → Nat → Prop) (start stop : Int) : Prop :=
  ∀ window world count, Asked world count → start ≤ window.start → window.stop ≤ stop →
    ∃ batch later, env.query window world = ((.ok batch, false), later)

/-- What is known of a run over a complete scope in front of a store that stays as it is. -/
structure Underway (store : Store) (start stop : Int) (limit : Nat) (Asked : ω → Nat → Prop)
    (stage : Stage) (run : Run ω δ) : Prop extends Finishing stop stage run where
  tally : Tally (acceptedEntries run.events) run.delivered run.iterator
  paged : ∃ lines, Paged (fun _ => store) start limit Asked lines stage run

/-- An iterator whose window ends at a given time. -/
def openUntil (stop : Int) (iterator : Iterator δ) : Iterator δ :=
  { iterator with windowStop := some stop }

/-- What a fetch that goes well makes of an iterator: it is exhausted, or it has moved on. -/
structure Progress (stop : Int) (iterator : Iterator δ) (step : Step ω δ) : Prop where
  failure : step.failure = none
  notClosed : step.iterator.closed = false
  onward : step.iterator.exhausted = true
    ∨ iterator.cursor < stop ∧ iterator.cursor < step.iterator.cursor

section Steps

variable [WaitTime δ] {env : Surroundings ω δ} {store : Store} {start stop : Int} {limit : Nat}
  {Asked : ω → Nat → Prop} {stage stage' : Stage} {run run' : Run ω δ}

theorem finishWindow_of_complete {iterator : Iterator δ} (complete : iterator.scope.complete = true)
    (mayWait : Bool) (known : Option Int) (windowStop : Int) (world : ω) :
    finishWindow env mayWait known windowStop iterator world
      = ⟨{ iterator with exhausted := true }, world, [], none⟩ := by
  simp [finishWindow, complete]

/-- A page that is taken in without a failure leads on, or ends the window. -/
theorem load_of_acceptance {known : Option Int} {windowStop : Int} {iterator next : Iterator δ}
    {world later : ω} {batch : Batch} {taken : List Entry} (mayWait : Bool)
    (answer : env.query ⟨iterator.cursor, windowStop⟩ world = ((.ok batch, false), later))
    (acceptance : acceptAll known (Entry.sorted batch.entries) iterator = (next, taken, none)) :
    load env mayWait known windowStop iterator world
      = Step.after
          (match batch.next with
            | some cursor => follow cursor (next.countTaken taken) later
            | none => finishWindow env mayWait known windowStop (next.countTaken taken) later)
          (pageEvent iterator windowStop batch :: taken.map .accepted) := by
  simp only [load, answer, takeIn, acceptance, Bool.false_eq_true, if_false]
  rfl

/-- A fetch opens the window that ends with the scope, or finds it open. -/
theorem Finishing.fetch_eq (finishing : Finishing stop .resting run) :
    fetch env true run.iterator run.world
      = advanceWindow env true (some stop) stop (run.iterator.openUntil stop) run.world := by
  have notDue : ¬run.iterator.waitDue = true := ne_true_of_eq_false finishing.notDue
  rw [fetch, finishing.stopNanos]
  change fetchWithin env true (some stop) run.iterator run.world = _
  rw [fetchWithin, if_neg notDue, fetchOpen]
  cases opened : run.iterator.windowStop with
  | none => simp [newWindowStop, finishing.complete, Step.after, openUntil]
  | some windowStop =>
    obtain rfl := finishing.windowStop windowStop opened
    have same : run.iterator.openUntil windowStop = run.iterator := by
      rw [openUntil, ← opened]
    rw [same]

namespace Underway

theorem along (pages : Pages env (fun _ => store) limit Asked) (positive : 0 < limit)
    (underway : Underway store start stop limit Asked stage run)
    (path : Path env (stage, run) (stage', run')) :
    Underway store start stop limit Asked stage' run' := by
  refine path.invariant (Underway store start stop limit Asked) ?_ underway
  rintro stage run stage' run' move ⟨finishing, tally, lines, paged⟩
  exact ⟨finishing.move move, tally.move move,
    paged.move pages (Store.evolves_constant positive store) positive move tally⟩

/-- A fetch goes well. -/
theorem progress (pages : Pages env (fun _ => store) limit Asked) (positive : 0 < limit)
    (answers : Answers env Asked start stop)
    (underway : Underway store start stop limit Asked .resting run)
    (notClosed : run.iterator.closed = false) (notExhausted : run.iterator.exhausted = false) :
    Progress stop run.iterator (fetch env true run.iterator run.world) := by
  obtain ⟨lines, paged⟩ := underway.paged
  rw [underway.fetch_eq, advanceWindow]
  by_cases past : stop ≤ run.iterator.cursor
  · have isComplete : (run.iterator.openUntil stop).scope.complete = true := underway.complete
    have reached : stop ≤ (run.iterator.openUntil stop).cursor := past
    rw [if_pos reached, finishWindow_of_complete isComplete]
    exact ⟨rfl, notClosed, Or.inl rfl⟩
  · have notReached : ¬stop ≤ (run.iterator.openUntil stop).cursor := past
    rw [if_neg notReached]
    let opened : Run ω δ := { run with iterator := run.iterator.openUntil stop }
    have books : Books (fun _ => store) start limit Asked lines opened :=
      paged.toBooks.congr rfl rfl rfl (fun _ => id) rfl rfl
    obtain ⟨batch, later, answer⟩ :=
      answers ⟨opened.iterator.cursor, stop⟩ run.world _ books.count books.ledger.ahead
        (Int.le_refl _)
    obtain ⟨fresh, acceptance, -⟩ := books.takeIn pages (Store.evolves_constant positive store)
      positive (underway.tally.congr rfl rfl rfl rfl)
      (paged.inTime (Or.inl ⟨by simp, notClosed, notExhausted⟩)) (Int.not_le.mp past)
      (fun last isLast => Int.le_of_eq (Option.some.inj isLast)) answer
    have same := sameBut_pushLines opened.iterator fresh
    have stillOpen : (opened.iterator.pushLines fresh).closed = false := same.closed.trans notClosed
    rw [load_of_acceptance true answer acceptance]
    cases batch.next with
    | some next =>
      have further :
          run.iterator.cursor < max next ((opened.iterator.pushLines fresh).cursor + 1) := by
        rw [same.cursor]
        exact Int.lt_of_lt_of_le (Int.lt_succ _) (Int.le_max_right _ _)
      simp only [follow_eq]
      refine ⟨rfl, ?_, Or.inr ⟨Int.not_le.mp past, ?_⟩⟩
      · rw [Step.iterator_after, closed_advance]
        exact stillOpen
      · rw [Step.iterator_after, cursor_advance]
        exact Int.lt_of_lt_of_le further (Int.le_max_right _ _)
    | none =>
      have isComplete : ((opened.iterator.pushLines fresh).countTaken
          (fresh.map StoredLine.entry)).scope.complete = true := by
        rw [countTaken, same.scope]
        exact underway.complete
      simp only [finishWindow_of_complete isComplete]
      exact ⟨rfl, stillOpen, Or.inl rfl⟩

/-! ### To the end -/

/-- What asking for the next entry comes to when it goes well: an entry, or the end. -/
structure Answered (pull : Pull ω δ) : Prop where
  found : ∃ found, pull.outcome = .ok found
    ∧ (found = none → pull.iterator.exhausted = true ∧ pull.iterator.ready = [])
  notClosed : pull.iterator.closed = false

omit [WaitTime δ] in
theorem Answered.after {pull : Pull ω δ} (answered : Answered pull) (events : List (Event δ)) :
    Answered { pull with events := events ++ pull.events } :=
  ⟨answered.found, answered.notClosed⟩

theorem answered_of_needsNoFetch (env : Surroundings ω δ) (fuel : Nat) {iterator : Iterator δ}
    (world : ω) (notClosed : iterator.closed = false) (needsNoFetch : NeedsNoFetch iterator) :
    Answered (next env fuel iterator world) := by
  cases ready : iterator.ready with
  | cons entry rest =>
    rw [next_ready env fuel notClosed ready]
    exact ⟨⟨some entry, rfl, by simp⟩, notClosed⟩
  | nil =>
    have exhausted : iterator.exhausted = true := by
      simpa [NeedsNoFetch, notClosed, ready] using needsNoFetch
    rw [next_exhausted env fuel notClosed ready exhausted]
    exact ⟨⟨none, rfl, fun _ => ⟨exhausted, ready⟩⟩, notClosed⟩

/-- With enough fetches for the rest of the window, there is a next entry or the end. -/
theorem answered_next (pages : Pages env (fun _ => store) limit Asked) (positive : 0 < limit)
    (answers : Answers env Asked start stop)
    (underway : Underway store start stop limit Asked .resting run)
    (notClosed : run.iterator.closed = false) {fuel : Nat}
    (enough : NeedsNoFetch run.iterator ∨ (stop - run.iterator.cursor).toNat < fuel) :
    Answered (next env fuel run.iterator run.world) := by
  induction fuel generalizing run with
  | zero =>
    have needsNoFetch := enough.resolve_right (Nat.not_lt_zero _)
    exact answered_of_needsNoFetch env 0 run.world notClosed needsNoFetch
  | succ fuel inductionHypothesis =>
    by_cases needsNoFetch : NeedsNoFetch run.iterator
    · exact answered_of_needsNoFetch env (fuel + 1) run.world notClosed needsNoFetch
    · have room := enough.resolve_left needsNoFetch
      obtain ⟨-, nothingReady, notExhausted⟩ := not_needsNoFetch.mp needsNoFetch
      have progress := underway.progress pages positive answers notClosed notExhausted
      have fetching := path_fetch env run true notClosed notExhausted nothingReady
      have still : NeedsNoFetch (fetch env true run.iterator run.world).iterator
          ∨ (stop - (fetch env true run.iterator run.world).iterator.cursor).toNat < fuel := by
        rcases progress.onward with exhausted | ⟨inside, further⟩
        · exact Or.inl (Or.inr (Or.inr exhausted))
        · exact Or.inr (by omega)
      rw [next_fetched env fuel notClosed nothingReady notExhausted progress.failure]
      exact (inductionHypothesis (underway.along pages positive fetching) progress.notClosed
        still).after _

omit [WaitTime δ] in
/-- Accepted lines are lines of the store. -/
theorem mem_lines_of_paged {lines : List StoredLine}
    (paged : Paged (fun _ => store) start limit Asked lines stage run) {line : StoredLine}
    (among : line ∈ lines) : line ∈ store.lines := by
  have present := paged.ledger.mem_lines among
  cases count : (windowsAsked run.events).length with
  | zero => simp [count, Store.visible] at present
  | succ count => simpa [count] using present

omit [WaitTime δ] in
/-- No more entries were handed out than there are lines. -/
theorem length_delivered_le (underway : Underway store start stop limit Asked stage run) :
    run.delivered.length ≤ store.lines.length := by
  obtain ⟨lines, paged⟩ := underway.paged
  have among : lines ⊆ store.lines := fun line isLine => mem_lines_of_paged paged isLine
  calc run.delivered.length
      ≤ (Entry.numbered (acceptedEntries run.events)).length := underway.tally.delivered.length_le
    _ = lines.length := by rw [Entry.length_numbered, paged.entries, List.length_map]
    _ ≤ store.lines.length := (List.subperm_of_subset paged.ledger.nodup among).length_le

/-- With enough fetches for the window and more calls than there are lines left, an iterator is
drained to its end. -/
theorem drained (pages : Pages env (fun _ => store) limit Asked) (positive : 0 < limit)
    (answers : Answers env Asked start stop)
    (underway : Underway store start stop limit Asked .resting run)
    (notClosed : run.iterator.closed = false) {fuel count : Nat}
    (enoughFetches : (stop - start).toNat < fuel)
    (enough : store.lines.length < run.delivered.length + count) :
    let drained := drain env fuel count run.iterator run.world
    drained.failure = none ∧ drained.iterator.closed = false ∧ drained.iterator.exhausted = true
      ∧ drained.iterator.ready = [] := by
  induction count generalizing run with
  | zero => exact absurd underway.length_delivered_le (Nat.not_le.mpr enough)
  | succ count inductionHypothesis =>
    obtain ⟨lines, paged⟩ := underway.paged
    have ahead := paged.ledger.ahead
    have answered := underway.answered_next pages positive answers notClosed
      (Or.inr (by omega : (stop - run.iterator.cursor).toNat < fuel))
    obtain ⟨found, outcome, atEnd⟩ := answered.found
    rw [drain, outcome]
    cases found with
    | none =>
      obtain ⟨exhausted, nothingReady⟩ := atEnd rfl
      exact ⟨rfl, answered.notClosed, exhausted, nothingReady⟩
    | some entry =>
      have onward := underway.along pages positive (path_next env run fuel)
      apply inductionHypothesis onward answered.notClosed
      rw [Run.afterPull, outcome]
      simp only [Except.toOption, Option.bind_some, id_eq, Option.toList_some, List.length_append,
        List.length_singleton]
      omega

/-! ### At the end -/

section AtTheEnd

omit [WaitTime δ]

/-- Every accepted line is wanted. -/
theorem mem_wanted {lines : List StoredLine} (finishing : Finishing stop stage run)
    (paged : Paged (fun _ => store) start limit Asked lines stage run) {line : StoredLine}
    (among : line ∈ lines) : line ∈ store.wanted ⟨start, stop⟩ limit := by
  obtain ⟨fits, fromStart⟩ := paged.ledger.fits line among
  obtain ⟨window, isLast, before⟩ := paged.bounded line among
  have asked := List.mem_of_getLast? isLast
  rw [finishing.windows window asked] at before
  obtain ⟨count, isCount⟩ := Nat.exists_eq_succ_of_ne_zero
    (Nat.ne_of_gt (List.length_pos_of_mem asked))
  rw [isCount, Store.visible_succ] at fits
  exact Store.mem_wanted.mpr ⟨decide_eq_true ⟨fromStart, before⟩, fits⟩

/-- Once an iterator is exhausted, nothing of the window is missing. -/
theorem caught_of_exhausted {lines : List StoredLine} (positive : 0 < limit)
    (finishing : Finishing stop stage run)
    (paged : Paged (fun _ => store) start limit Asked lines stage run)
    (exhausted : run.iterator.exhausted = true) :
    Caught start limit store lines (stalls run.events) stop := by
  cases isLast : (windowsAsked run.events).getLast? with
  | none =>
    -- Nothing was asked for, so the cursor is still at the start, and the end is not after it.
    have noneAsked := List.getLast?_eq_none_iff.mp isLast
    have past := (finishing.used (Or.inr exhausted)).resolve_left (not_not.mpr noneAsked)
    have safe := paged.ledger.safe
    rw [noneAsked] at safe
    rcases safe with atStart | ⟨line, present, -⟩ | ⟨time, -, full⟩
    · intro line _ fromStart before
      omega
    · cases present
    · simp [Store.visible, Store.atTime, Store.byTime] at full
      omega
  | some window =>
    have asked := List.mem_of_getLast? isLast
    obtain ⟨count, isCount⟩ := Nat.exists_eq_succ_of_ne_zero
      (Nat.ne_of_gt (List.length_pos_of_mem asked))
    have caught := paged.settled (Or.inr (Or.inl exhausted)) window isLast
    rwa [isCount, Store.visible_succ, finishing.windows window asked] at caught

/-- Once an iterator is exhausted, the accepted lines are those that are wanted. -/
theorem mem_iff_wanted {lines : List StoredLine} (positive : 0 < limit)
    (finishing : Finishing stop stage run)
    (paged : Paged (fun _ => store) start limit Asked lines stage run)
    (exhausted : run.iterator.exhausted = true) {line : StoredLine} :
    line ∈ lines ↔ line ∈ store.wanted ⟨start, stop⟩ limit := by
  refine ⟨mem_wanted finishing paged, fun isWanted => ?_⟩
  obtain ⟨inside, fits⟩ := Store.mem_wanted.mp isWanted
  obtain ⟨fromStart, before⟩ := of_decide_eq_true inside
  have caught := caught_of_exhausted positive finishing paged exhausted
  exact (caught line fits.mem_lines fromStart before).1 fits

/-- The accepted lines are the wanted ones, each once. -/
theorem perm_wanted {lines : List StoredLine} (positive : 0 < limit)
    (finishing : Finishing stop stage run)
    (paged : Paged (fun _ => store) start limit Asked lines stage run)
    (exhausted : run.iterator.exhausted = true) :
    lines.Perm (store.wanted ⟨start, stop⟩ limit) :=
  (List.perm_ext_iff_of_nodup paged.ledger.nodup (store.nodup_wanted _ limit)).mpr fun _ =>
    mem_iff_wanted positive finishing paged exhausted

/-- The accepted lines of a stream are those that are wanted, in its order. -/
theorem filter_labels_accepted {lines : List StoredLine} (positive : 0 < limit)
    (finishing : Finishing stop stage run)
    (paged : Paged (fun _ => store) start limit Asked lines stage run)
    (exhausted : run.iterator.exhausted = true) {stream : StoredStream}
    (known : stream ∈ store.streams) :
    (lines.filter fun line => line.labels = stream.labels)
      = stream.lines.filter fun line => line ∈ store.wanted ⟨start, stop⟩ limit := by
  -- Both sides are in the order of the stream and hold the same lines.
  have increasing := (StoredStream.pairwise_before_lines (store.inOrder stream known)).filter
    fun line => line ∈ store.wanted ⟨start, stop⟩ limit
  have accepted : (lines.filter fun line => line.labels = stream.labels).Pairwise
      fun left right => left.sortKey.Before right.sortKey := by
    apply (paged.ledger.increasing.filter _).imp_of_mem
    intro left right isLeft isRight before
    have leftLabels := of_decide_eq_true (List.mem_filter.mp isLeft).2
    have rightLabels := of_decide_eq_true (List.mem_filter.mp isRight).2
    exact before (leftLabels.trans rightLabels.symm)
  refine List.Perm.eq_of_pairwise ?_ accepted increasing ?_
  · exact fun _ _ _ _ before after => absurd after (SortKey.not_before_of_before before)
  · refine (List.perm_ext_iff_of_nodup (paged.ledger.nodup.filter _) ?_).mpr fun line => ?_
    · exact (store.nodup_byTime.sublist (Store.sublist_byTime known)).filter _
    · rw [List.mem_filter, List.mem_filter, decide_eq_true_eq, decide_eq_true_eq,
        mem_iff_wanted positive finishing paged exhausted]
      constructor
      · rintro ⟨isWanted, labels⟩
        have present := (Store.mem_wanted.mp isWanted).2.mem_lines
        exact ⟨Store.mem_lines_of_labels_eq known present labels, isWanted⟩
      · exact fun ⟨among, isWanted⟩ => ⟨isWanted, StoredStream.labels_of_mem_lines among⟩

/-- What was handed out are the accepted lines, if nothing is ready. -/
theorem delivered_eq {lines : List StoredLine}
    (underway : Underway store start stop limit Asked stage run)
    (entries : acceptedEntries run.events = lines.map StoredLine.entry)
    (notClosed : run.iterator.closed = false) (nothingReady : run.iterator.ready = []) :
    run.delivered = Entry.numbered (lines.map StoredLine.entry) := by
  have whole := underway.tally.ready notClosed
  rwa [nothingReady, List.append_nil, entries] at whole

/-- Once an iterator is exhausted and has nothing ready, the wanted lines were handed out, once each
and in the order of their streams, and where lines are left out it stalled. -/
theorem handedOut (positive : 0 < limit)
    (underway : Underway store start stop limit Asked stage run)
    (notClosed : run.iterator.closed = false) (exhausted : run.iterator.exhausted = true)
    (nothingReady : run.iterator.ready = []) :
    ∃ lines : List StoredLine, run.delivered = Entry.numbered (lines.map StoredLine.entry)
      ∧ lines.Perm (store.wanted ⟨start, stop⟩ limit)
      ∧ (∀ stream ∈ store.streams, (lines.filter fun line => line.labels = stream.labels)
          = stream.lines.filter fun line => line ∈ store.wanted ⟨start, stop⟩ limit)
      ∧ ∀ time, start ≤ time → time < stop → limit < (store.atTime time).length →
          time ∈ stalls run.events := by
  obtain ⟨lines, paged⟩ := underway.paged
  have finishing := underway.toFinishing
  refine ⟨lines, underway.delivered_eq paged.entries notClosed nothingReady,
    perm_wanted positive finishing paged exhausted,
    fun stream known => filter_labels_accepted positive finishing paged exhausted known,
    fun time fromStart before crowded => ?_⟩
  obtain ⟨line, present, atOnce⟩ :=
    Store.exists_of_le_length_atTime positive (Nat.le_of_lt crowded)
  subst atOnce
  exact (caught_of_exhausted positive finishing paged exhausted line present fromStart before).2
    crowded

end AtTheEnd

end Underway

end Steps

/-! ## Behind a client -/

section Client

open Numeral (Legible)

/-- The nanoseconds of what a clock shows have few enough digits to be read. -/
theorem legible_of_nanos {moment : Moment} {nanos : Int}
    (shown : Moment.inRange moment.clock = true) (isNanos : Scope.nanos moment = .ok nanos) :
    Legible nanos := by
  have bounded {clock : Int} (shown : Moment.inRange clock = true) :
      Legible (clock * Moment.nanosPerMicro) := by
    have range : -62135596800000000 ≤ clock ∧ clock < 253402300800000000 := of_decide_eq_true shown
    have small : (clock * Moment.nanosPerMicro).natAbs < 10 ^ 21 := by
      rw [Moment.nanosPerMicro]
      omega
    exact Nat.lt_of_lt_of_le small (Nat.pow_le_pow_right (by decide) (by decide))
  unfold Scope.nanos Moment.toNanos? Moment.toUtc? at isNanos
  split at isNanos
  · rename_i found
    cases isNanos
    split at found
    · cases found
      exact bounded shown
    · dsimp only at found
      split at found
      · rename_i utcShown
        cases found
        exact bounded utcShown
      · cases found
  · cases isNanos

theorem legible_between {start stop time : Int} (legibleStart : Legible start)
    (legibleStop : Legible stop) (fromStart : start ≤ time) (before : time < stop) :
    Legible time := by
  unfold Legible at *
  omega

/-- Queries between times with few enough digits are answered. -/
theorem answers_of_serves {host : Host ω} {client : Client} {scope : Scope} {limit : Nat}
    {store : Store} {asked : ω → Nat}
    (serves : Serves host client scope limit (fun _ => store) asked) {start stop : Int}
    (legibleStart : Legible start) (legibleStop : Legible stop) :
    Answers (host.surroundings scope) (Serves.Counts client asked) start stop := by
  rintro window ⟨_, world⟩ count ⟨rfl, rfl⟩ fromStart toStop
  obtain ⟨later, -, answered⟩ := serves.query_eq window world
  have legible : ∀ line ∈ store.page window limit, Legible line.timestamp := by
    intro line onPage
    obtain ⟨afterStart, beforeStop⟩ := of_decide_eq_true (Store.contains_of_mem_page onPage)
    exact legible_between legibleStart legibleStop (Int.le_trans fromStart afterStart)
      (Int.lt_of_lt_of_le beforeStop toStop)
  obtain ⟨batch, read⟩ := Batch.exists_ofResponse_answer legible
  rw [read] at answered
  exact ⟨batch, _, answered⟩

/-- An iterator over a complete scope with an end, behind a client and a backend with any store, is
drained without a failure, given enough fetches for the window and more calls than there are lines.
Every line in the scope that is among the first ones at its time, as many as a page holds, is handed
out once and nothing else is; the lines of each stream come in its order; and where a page does not
hold all lines at a time there is a warning. -/
theorem drain_hands_out_wanted {host : Host ω} {client : Client} {scope : Scope}
    {policy : TailPolicy Float} {iterator : Iterator Float}
    (started : Iterator.start scope policy = .ok iterator) {start stop : Int}
    (startNanos : scope.startNanos = .ok start) (stopNanos : scope.stopNanos = .ok (some stop))
    (startShown : Moment.inRange scope.start.clock = true)
    (stopShown : ∀ moment ∈ scope.stop, Moment.inRange moment.clock = true)
    (complete : scope.complete = true) {limit : Nat} (positive : 0 < limit) {store : Store}
    {asked : ω → Nat} (serves : Serves host client scope limit (fun _ => store) asked) {world : ω}
    (unasked : asked world = 0) {fuel count : Nat} (enoughFetches : (stop - start).toNat < fuel)
    (enoughCalls : store.lines.length < count) (parent : Option Work) :
    let drained := drain (host.surroundings scope) fuel count iterator ⟨client, world⟩
    drained.failure = none
      ∧ ∃ lines : List StoredLine, drained.entries = Entry.numbered (lines.map StoredLine.entry)
        ∧ lines.Perm (store.wanted ⟨start, stop⟩ limit)
        ∧ (∀ stream ∈ store.streams, (lines.filter fun line => line.labels = stream.labels)
            = stream.lines.filter fun line => line ∈ store.wanted ⟨start, stop⟩ limit)
        ∧ ∀ time, start ≤ time → time < stop → limit < (store.atTime time).length →
            Notice.warning (Notice.stallWarning time)
              ∈ Notice.ofEvents scope parent drained.events := by
  intro drained
  have pages := serves.pages positive
  have legibleStart := legible_of_nanos startShown startNanos
  have legibleStop : Legible stop := by
    cases isStop : scope.stop with
    | none => simp [Scope.stopNanos, isStop] at stopNanos
    | some moment =>
      have isNanos : Scope.nanos moment = .ok stop := by
        rw [Scope.stopNanos, isStop] at stopNanos
        cases nanos : Scope.nanos moment with
        | error failure => simp [nanos, Except.map] at stopNanos
        | ok known => simpa [nanos, Except.map] using stopNanos
      exact legible_of_nanos (stopShown moment isStop) isNanos
  have answers := answers_of_serves serves legibleStart legibleStop
  let first : Run (Session ω) Float := Run.start iterator ⟨client, world⟩
  have resting : Path (host.surroundings scope) (.resting, first) (.resting, first) :=
    Relation.ReflTransGen.refl
  have paged := exists_paged_of_path pages (Store.evolves_constant positive store) positive started
    startNanos (⟨rfl, unasked⟩ : Serves.Counts client asked first.world 0) resting
  have tally := tally_of_path started resting
  obtain ⟨cursor, -, rfl⟩ := eq_of_start started
  have underway : Underway store start stop limit (Serves.Counts client asked) .resting first :=
    ⟨Finishing.start _ _ complete stopNanos rfl rfl rfl, tally, paged⟩
  obtain ⟨noFailure, notClosed, exhausted, nothingReady⟩ := underway.drained pages positive answers
    rfl enoughFetches (by simpa [first, Run.start] using enoughCalls)
  obtain ⟨lines, delivered, perm, inOrder, stalled⟩ :=
    (underway.along pages positive (path_drain _ first fuel count)).handedOut positive notClosed
      exhausted nothingReady
  refine ⟨noFailure, lines, delivered, perm, inOrder, fun time fromStart before crowded => ?_⟩
  obtain ⟨event, happened, isStall⟩ :=
    List.mem_filterMap.mp (stalled time fromStart before crowded)
  refine List.mem_flatMap.mpr ⟨event, happened, ?_⟩
  cases event with
  | stalled cursor =>
    cases isStall
    exact List.mem_singleton.mpr rfl
  | clockRead | queried | accepted | waited => cases isStall

/-- The texts with which a backend answers from three lines at one time, two of them on a page. -/
def crowdedText (_count : Nat) (window : Window) : Text :=
  if window.contains 7 then
    Store.answerText (Store.streamText "a" "[\"7\",\"x\"],[\"7\",\"y\"]")
  else Store.answerText []

theorem read_crowdedText (count : Nat) (window : Window) :
    Json.readWithin Host.answerDepth (Text.ofUtf8 (crowdedText count window).utf8)
      = .ok (Store.threeLines.answer window 2) := by
  have atOnce : ∀ line ∈ Store.threeLines.lines, line.timestamp = 7 := by decide
  rw [crowdedText, Store.answer_of_atOnce atOnce]
  split
  all_goals
    rw [Store.answer, Store.groups, Store.page, Store.within, Store.byTime_threeLines]
    cbv

/-- Of three lines at one time the first two are handed out, and there is a warning. -/
theorem crowded_drain_hands_out_wanted :
    ∃ iterator, Iterator.start (Scope.firstMicrosecond true) TailPolicy.standard = .ok iterator ∧
      let client : Client := ⟨⟨"http://loki:3100", none, none, true, 10, false⟩, ⟨"ci", none⟩, 2⟩
      let host := Host.answering (fun _ => 500) crowdedText
      let drained := drain (host.surroundings (Scope.firstMicrosecond true)) 1001 4 iterator
        ⟨client, 0⟩
      drained.failure = none
        ∧ ∃ lines : List StoredLine, drained.entries = Entry.numbered (lines.map StoredLine.entry)
          ∧ lines.Perm (Store.threeLines.wanted ⟨0, 1000⟩ 2)
          ∧ (∀ stream ∈ Store.threeLines.streams,
              (lines.filter fun line => line.labels = stream.labels)
                = stream.lines.filter fun line => line ∈ Store.threeLines.wanted ⟨0, 1000⟩ 2)
          ∧ ∀ time, 0 ≤ time → time < 1000 → 2 < (Store.threeLines.atTime time).length →
              Notice.warning (Notice.stallWarning time)
                ∈ Notice.ofEvents (Scope.firstMicrosecond true) none drained.events := by
  have started : Iterator.start (Scope.firstMicrosecond true) TailPolicy.standard = .ok _ := rfl
  have shown : ∀ moment ∈ (Scope.firstMicrosecond true).stop,
      Moment.inRange moment.clock = true := by
    rintro _ ⟨⟩
    rfl
  have serves : Serves (Host.answering (fun _ => 500) crowdedText)
      ⟨⟨"http://loki:3100", none, none, true, 10, false⟩, ⟨"ci", none⟩, 2⟩
      (Scope.firstMicrosecond true) 2 (fun _ => Store.threeLines) id :=
    Serves.answering rfl rfl rfl rfl rfl rfl _ read_crowdedText
  exact ⟨_, started, drain_hands_out_wanted started rfl rfl rfl shown rfl (by decide) serves rfl
    (by decide) (by decide) none⟩

end Client

end Iterator
end RunLog
