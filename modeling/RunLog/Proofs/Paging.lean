import RunLog.Proofs.Ledger

/-!
# Paging through a store

An iterator whose queries are answered with pages of a store keeps a ledger of that store through
every move, while the store changes between the queries.  Once a window is used up, nothing is
missing that the last query could have shown: the last page of the window was not full, or the
cursor passed the end of the window.
-/

namespace RunLog

/-- The window that an event says was asked for. -/
def Event.window? {δ : Type} : Event δ → Option Window
  | .queried window _ => some window
  | _ => none

/-- The time that an event says a page did not go past. -/
def Event.stall? {δ : Type} : Event δ → Option Int
  | .stalled cursor => some cursor
  | _ => none

namespace Iterator

variable {ω δ : Type}

/-- The windows that were asked for among some events, in order. -/
def windowsAsked (events : List (Event δ)) : List Window :=
  events.filterMap Event.window?

/-- The times that a page did not go past among some events, in order. -/
def stalls (events : List (Event δ)) : List Int :=
  events.filterMap Event.stall?

@[simp] theorem windowsAsked_nil : windowsAsked ([] : List (Event δ)) = [] := rfl

@[simp] theorem stalls_nil : stalls ([] : List (Event δ)) = [] := rfl

@[simp] theorem windowsAsked_cons (event : Event δ) (rest : List (Event δ)) :
    windowsAsked (event :: rest) = event.window?.toList ++ windowsAsked rest := by
  cases found : event.window? <;> simp [windowsAsked, found]

@[simp] theorem stalls_cons (event : Event δ) (rest : List (Event δ)) :
    stalls (event :: rest) = event.stall?.toList ++ stalls rest := by
  cases found : event.stall? <;> simp [stalls, found]

@[simp] theorem windowsAsked_append (first second : List (Event δ)) :
    windowsAsked (first ++ second) = windowsAsked first ++ windowsAsked second := by
  simp [windowsAsked]

@[simp] theorem stalls_append (first second : List (Event δ)) :
    stalls (first ++ second) = stalls first ++ stalls second := by
  simp [stalls]

@[simp] theorem windowsAsked_map_accepted (taken : List Entry) :
    windowsAsked (taken.map (Event.accepted (δ := δ))) = [] := by
  induction taken with
  | nil => rfl
  | cons entry rest inductionHypothesis => simpa [Event.window?] using inductionHypothesis

@[simp] theorem stalls_map_accepted (taken : List Entry) :
    stalls (taken.map (Event.accepted (δ := δ))) = [] := by
  induction taken with
  | nil => rfl
  | cons entry rest inductionHypothesis => simpa [Event.stall?] using inductionHypothesis

/-! ### A page that is taken in -/

section TakenIn

variable (iterator : Iterator δ) (windowStop : Int) (batch : Batch) (taken : List Entry)

theorem acceptedEntries_page :
    acceptedEntries (pageEvent iterator windowStop batch :: taken.map .accepted) = taken := by
  simp [pageEvent, Event.entry?]

theorem windowsAsked_page :
    windowsAsked (pageEvent iterator windowStop batch :: taken.map .accepted)
      = [⟨iterator.cursor, windowStop⟩] := by
  simp [pageEvent, Event.window?]

theorem stalls_page : stalls (pageEvent iterator windowStop batch :: taken.map .accepted) = [] := by
  simp [pageEvent, Event.stall?]

end TakenIn

theorem windowsAsked_follow (next : Int) (iterator : Iterator δ) (world : ω) :
    windowsAsked (follow next iterator world).events = [] := by
  rw [follow_eq]
  split <;> rfl

theorem stalls_follow (next : Int) (iterator : Iterator δ) (world : ω) :
    stalls (follow next iterator world).events
      = if next ≤ iterator.cursor then [iterator.cursor] else [] := by
  rw [follow_eq]
  split <;> rfl

/-! ### A window that is opened -/

/-- Nothing is asked for and nothing stalls while a window is opened. -/
theorem quiet_of_opening {env : Surroundings ω δ} {complete : Bool} {stop : Option Int}
    {world later : ω} {windowStop : Int} {events : List (Event δ)}
    (opening : newWindowStop env complete stop world = (windowStop, later, events)) :
    windowsAsked events = [] ∧ stalls events = [] := by
  unfold newWindowStop at opening
  split at opening <;> cases opening <;> exact ⟨rfl, rfl⟩

/-- A window does not end after the scope. -/
theorem le_of_opening {env : Surroundings ω δ} {complete : Bool} {stop : Option Int}
    {world later : ω} {windowStop : Int} {events : List (Event δ)}
    (opening : newWindowStop env complete stop world = (windowStop, later, events)) :
    ∀ last ∈ stop, windowStop ≤ last := by
  rintro last rfl
  cases complete with
  | true =>
    cases opening
    exact Int.le_refl _
  | false =>
    cases opening
    exact Int.min_le_right _ _

/-! ## Queries that show a store -/

/-- Surroundings that answer the queries with the pages of stores, one store after the other; the
relation tells how many queries a world has seen. -/
structure Pages (env : Surroundings ω δ) (history : Nat → Store) (limit : Nat)
    (Asked : ω → Nat → Prop) : Prop where
  /-- The clock does not count as a query. -/
  clock : ∀ world count, Asked world count → Asked (env.clock world).2 count
  /-- A wait does not count as a query. -/
  wait : ∀ number interval world count, Asked world count →
    Asked (env.wait number interval world).2 count
  /-- Queries are counted. -/
  query : ∀ window world count, Asked world count → Asked (env.query window world).2 (count + 1)
  /-- If there is a batch, it is a page. -/
  page : ∀ {window world count batch closes later}, Asked world count →
    env.query window world = ((.ok batch, closes), later) →
    Batch.IsPage (history count) window limit batch

theorem Pages.count_of_opening {env : Surroundings ω δ} {history : Nat → Store} {limit : Nat}
    {Asked : ω → Nat → Prop} (pages : Pages env history limit Asked) {complete : Bool}
    {stop : Option Int} {world later : ω} {windowStop : Int} {events : List (Event δ)}
    (opening : newWindowStop env complete stop world = (windowStop, later, events)) {count : Nat}
    (counted : Asked world count) : Asked later count := by
  unfold newWindowStop at opening
  split at opening <;> cases opening
  · exact counted
  · exact pages.clock world count counted
  · exact pages.clock world count counted

theorem Pages.count_of_wait {env : Surroundings ω δ} {history : Nat → Store} {limit : Nat}
    {Asked : ω → Nat → Prop} (pages : Pages env history limit Asked) {number : Nat} {interval : δ}
    {world later : ω} {outcome : Except Failure Bool}
    (answer : env.wait number interval world = (outcome, later)) {count : Nat}
    (counted : Asked world count) : Asked later count := by
  have after := pages.wait number interval world count counted
  rwa [answer] at after

/-- After some events, nothing is missing that the last query could have shown. -/
def Settled (history : Nat → Store) (start : Int) (limit : Nat) (lines : List StoredLine)
    (events : List (Event δ)) : Prop :=
  ∀ window ∈ (windowsAsked events).getLast?,
    Caught start limit (Store.visible history (windowsAsked events).length) lines (stalls events)
      window.stop

/-- The accepted entries of a run are those of some lines, kept in a ledger. -/
structure Books (history : Nat → Store) (start : Int) (limit : Nat) (Asked : ω → Nat → Prop)
    (lines : List StoredLine) (run : Run ω δ) : Prop where
  /-- The lines are the accepted entries. -/
  entries : acceptedEntries run.events = lines.map StoredLine.entry
  /-- The queries were counted. -/
  count : Asked run.world (windowsAsked run.events).length
  /-- The ledger is that of the store that was shown last. -/
  ledger : Ledger start limit (Store.visible history (windowsAsked run.events).length) lines
    (stalls run.events) run.iterator
  /-- All lines lie before the end of the last window that was asked for. -/
  bounded : ∀ line ∈ lines, ∃ window ∈ (windowsAsked run.events).getLast?,
    line.timestamp < window.stop

/-- How an iterator stands to the stores that it was shown, between two moves. -/
structure Paged (history : Nat → Store) (start : Int) (limit : Nat) (Asked : ω → Nat → Prop)
    (lines : List StoredLine) (stage : Stage) (run : Run ω δ) : Prop extends
    Books history start limit Asked lines run where
  /-- Unless a window with new lines is used up, the cursor is not behind any accepted line. -/
  inTime : (stage ≠ .usedUp ∧ run.iterator.closed = false ∧ run.iterator.exhausted = false)
      ∨ run.iterator.windowCount = 0 →
    ∀ line ∈ lines, line.timestamp ≤ run.iterator.cursor
  /-- No window ends after the scope. -/
  windowStop : ∀ windowStop ∈ run.iterator.windowStop, ∀ stop,
    run.iterator.scope.stopNanos = .ok stop → ∀ last ∈ stop, windowStop ≤ last
  /-- Once a window is used up, nothing is missing. -/
  settled : stage ≠ .resting ∨ run.iterator.exhausted = true ∨ run.iterator.waitDue = true →
    Settled history start limit lines run.events
  /-- Something can be missing only while the window that was asked for last is open. -/
  opened : Settled history start limit lines run.events
    ∨ ∃ window ∈ (windowsAsked run.events).getLast?, run.iterator.windowStop = some window.stop

/-- The page that a query asks for from the cursor on. -/
def nextPage (history : Nat → Store) (limit : Nat) (run : Run ω δ) (windowStop : Int) :
    List StoredLine :=
  (history (windowsAsked run.events).length).page ⟨run.iterator.cursor, windowStop⟩ limit

/-- A run whose iterator has taken in a page: some fresh lines of it were accepted, and with them
all of it. -/
structure TakenIn (history : Nat → Store) (start : Int) (limit : Nat) (Asked : ω → Nat → Prop)
    (lines fresh : List StoredLine) (run : Run ω δ) (windowStop : Int) (batch : Batch)
    (world : ω) : Prop where
  /-- The ledger holds the fresh lines. -/
  books : Books history start limit Asked (lines ++ fresh)
    (run.advance (run.iterator.pushLines fresh) world
      (pageEvent run.iterator windowStop batch :: (fresh.map StoredLine.entry).map .accepted))
  /-- The fresh lines are on the page. -/
  onPage : ∀ line ∈ fresh, line ∈ nextPage history limit run windowStop
  /-- All of the page was accepted. -/
  covers : ∀ line ∈ nextPage history limit run windowStop, line ∈ lines ++ fresh

section Steps

variable {history : Nat → Store} {start : Int} {limit : Nat} {Asked : ω → Nat → Prop}
  {lines : List StoredLine} {stage : Stage} {run run' : Run ω δ}

/-- What an iterator remembers of the last accepted line. -/
theorem last_of_tally (tally : Tally (acceptedEntries run.events) run.delivered run.iterator)
    (entries : acceptedEntries run.events = lines.map StoredLine.entry) :
    (run.iterator.last = none ∧ lines = [])
      ∨ ∃ last, run.iterator.last = some last ∧ (∃ line ∈ lines, line.timestamp = last.timestamp)
        ∧ ∀ line ∈ lines, line.timestamp ≤ last.timestamp := by
  rw [entries] at tally
  rcases List.eq_nil_or_concat lines with rfl | ⟨front, latest, rfl⟩
  · exact Or.inl ⟨by simpa using tally.last, rfl⟩
  · have isLast := tally.last
    have inOrder := tally.inOrder
    rw [List.concat_eq_append, List.map_append, List.map_singleton] at isLast inOrder
    rw [Entry.numbered_append_singleton, List.getLast?_concat] at isLast
    refine Or.inr ⟨_, isLast, ⟨latest, by simp, rfl⟩, fun line among => ?_⟩
    rw [List.concat_eq_append, List.mem_append, List.mem_singleton] at among
    rcases among with before | rfl
    · exact (List.pairwise_append.mp inOrder).2.2 line.entry (List.mem_map_of_mem before)
        latest.entry (by simp)
    · exact Int.le_refl _

/-- A window that is bounded by the scope is known to be. -/
theorem windowStop_le_of_eq {iterator : Iterator δ} {windowStop : Int} {stop : Option Int}
    (opened : iterator.windowStop = some windowStop)
    (stopNanos : iterator.scope.stopNanos = .ok stop) (bound : ∀ last ∈ stop, windowStop ≤ last) :
    ∀ windowStop ∈ iterator.windowStop, ∀ stop,
      iterator.scope.stopNanos = .ok stop → ∀ last ∈ stop, windowStop ≤ last := by
  intro known isKnown other isOther
  rw [opened] at isKnown
  rw [stopNanos] at isOther
  cases isKnown
  cases isOther
  exact bound

namespace Books

/-- Nothing else of a run matters. -/
theorem congr (books : Books history start limit Asked lines run)
    (entries : acceptedEntries run'.events = acceptedEntries run.events)
    (windows : windowsAsked run'.events = windowsAsked run.events)
    (stalled : stalls run'.events = stalls run.events)
    (count : ∀ count, Asked run.world count → Asked run'.world count)
    (cursor : run'.iterator.cursor = run.iterator.cursor)
    (accepted : run'.iterator.accepted = run.iterator.accepted) :
    Books history start limit Asked lines run' where
  entries := entries.trans books.entries
  count := by
    rw [windows]
    exact count _ books.count
  ledger := by
    rw [windows]
    exact books.ledger.congr rfl stalled cursor accepted
  bounded := by
    rw [windows]
    exact books.bounded

/-- After one more query the ledger is that of the store that it showed. -/
theorem ask {env : Surroundings ω δ} (pages : Pages env history limit Asked)
    (evolves : ∀ count, Store.Evolves limit (Store.visible history count) (history count))
    (positive : 0 < limit) (books : Books history start limit Asked lines run)
    (inTime : ∀ line ∈ lines, line.timestamp ≤ run.iterator.cursor) {windowStop : Int}
    (inside : run.iterator.cursor < windowStop) (outcome : Except Failure Nat)
    {answer : Except Failure Batch × Bool} {world : ω}
    (answered : env.query ⟨run.iterator.cursor, windowStop⟩ run.world = (answer, world)) :
    Books history start limit Asked lines (run.advance run.iterator world
      [.queried ⟨run.iterator.cursor, windowStop⟩ outcome]) where
  entries := by simpa [Run.advance, Event.entry?] using books.entries
  count := by
    have counted := pages.query ⟨run.iterator.cursor, windowStop⟩ run.world _ books.count
    rw [answered] at counted
    simpa [Run.advance, Event.window?] using counted
  ledger := by
    have evolved := books.ledger.evolve (evolves _) positive
    simpa [Run.advance, Event.window?, Event.stall?] using evolved
  bounded := by
    intro line among
    have before := inTime line among
    refine ⟨⟨run.iterator.cursor, windowStop⟩, ?_, by simpa using Int.lt_of_le_of_lt before inside⟩
    simp [Run.advance, Event.window?]

/-- A page is taken in without a failure, and afterwards all of it was accepted. -/
theorem takeIn {env : Surroundings ω δ} (pages : Pages env history limit Asked)
    (evolves : ∀ count, Store.Evolves limit (Store.visible history count) (history count))
    (positive : 0 < limit) (books : Books history start limit Asked lines run)
    (tally : Tally (acceptedEntries run.events) run.delivered run.iterator)
    (inTime : ∀ line ∈ lines, line.timestamp ≤ run.iterator.cursor) {windowStop : Int}
    (inside : run.iterator.cursor < windowStop) {stop : Option Int}
    (bound : ∀ last ∈ stop, windowStop ≤ last) {batch : Batch} {closes : Bool} {world : ω}
    (answered : env.query ⟨run.iterator.cursor, windowStop⟩ run.world
      = ((.ok batch, closes), world)) :
    ∃ fresh, acceptAll stop (Entry.sorted batch.entries) run.iterator
        = (run.iterator.pushLines fresh, fresh.map StoredLine.entry, none)
      ∧ TakenIn history start limit Asked lines fresh run windowStop batch world := by
  have asks := books.ask pages evolves positive inTime inside (.ok batch.entries.length) answered
  have page := pages.page books.count answered
  have ledger : Ledger start limit (history (windowsAsked run.events).length) lines
      (stalls run.events) run.iterator := by
    simpa [Run.advance, Event.window?, Event.stall?] using asks.ledger
  have onTime : ∀ last ∈ run.iterator.last, last.timestamp ≤ run.iterator.cursor := by
    intro last isLast
    rcases last_of_tally tally books.entries with
      ⟨none, -⟩ | ⟨known, isKnown, ⟨line, among, same⟩, -⟩
    · rw [none] at isLast
      cases isLast
    · rw [isKnown] at isLast
      cases isLast
      exact same ▸ inTime line among
  obtain ⟨fresh, acceptance, ledger', onPage, covers⟩ :=
    ledger.acceptAll page rfl inTime onTime bound
  refine ⟨fresh, acceptance, ⟨?_, ?_, ?_, ?_⟩, onPage, covers⟩
  · rw [Run.advance, acceptedEntries_append, acceptedEntries_page, books.entries, List.map_append]
  · rw [Run.advance, windowsAsked_append, windowsAsked_page]
    simpa [Run.advance, Event.window?] using asks.count
  · rw [Run.advance, windowsAsked_append, windowsAsked_page, stalls_append, stalls_page]
    simpa using ledger'
  · rw [Run.advance, windowsAsked_append, windowsAsked_page, List.getLast?_concat]
    intro line present
    refine ⟨_, rfl, ?_⟩
    rcases List.mem_append.mp present with among | isFresh
    · exact Int.lt_of_le_of_lt (inTime line among) inside
    · exact (of_decide_eq_true (Store.contains_of_mem_page (onPage line isFresh))).2

/-- A full page leads on. -/
theorem turn (books : Books history start limit Asked lines run) {next : Int}
    (caught : Caught start limit (Store.visible history (windowsAsked run.events).length) lines
      (stalls run.events ++ if next ≤ run.iterator.cursor then [run.iterator.cursor] else [])
      (max next (run.iterator.cursor + 1)))
    (safe : Safe start limit (Store.visible history (windowsAsked run.events).length)
      (max next (run.iterator.cursor + 1))) :
    Books history start limit Asked lines
      (run.after (follow next run.iterator run.world)) := by
  have windows : windowsAsked (run.after (follow next run.iterator run.world)).events
      = windowsAsked run.events := by
    rw [Run.after, Run.advance, windowsAsked_append, windowsAsked_follow, List.append_nil]
  have stalled : stalls (run.after (follow next run.iterator run.world)).events
      = stalls run.events
        ++ if next ≤ run.iterator.cursor then [run.iterator.cursor] else [] := by
    rw [Run.after, Run.advance, stalls_append, stalls_follow]
  refine ⟨?_, ?_, ?_, ?_⟩
  · simpa [Run.after, Run.advance] using books.entries
  · rw [windows, follow_eq]
    exact books.count
  · rw [windows, stalled, follow_eq]
    exact books.ledger.advance (List.subset_append_left _ _) caught safe
  · rw [windows]
    exact books.bounded

end Books

theorem Settled.congr {events events' : List (Event δ)}
    (settled : Settled history start limit lines events)
    (windows : windowsAsked events' = windowsAsked events)
    (stalled : stalls events' = stalls events) :
    Settled history start limit lines events' := by
  unfold Settled
  rw [windows, stalled]
  exact settled

namespace Paged

/-- A move that asks for nothing and leaves the cursor alone. -/
theorem quiet {stage' : Stage} (paged : Paged history start limit Asked lines stage run)
    (entries : acceptedEntries run'.events = acceptedEntries run.events)
    (windows : windowsAsked run'.events = windowsAsked run.events)
    (stalled : stalls run'.events = stalls run.events)
    (count : ∀ count, Asked run.world count → Asked run'.world count)
    (cursor : run'.iterator.cursor = run.iterator.cursor)
    (accepted : run'.iterator.accepted = run.iterator.accepted)
    (scope : run'.iterator.scope = run.iterator.scope)
    (windowStop : run'.iterator.windowStop = run.iterator.windowStop)
    (inTime : (stage' ≠ .usedUp ∧ run'.iterator.closed = false ∧ run'.iterator.exhausted = false)
        ∨ run'.iterator.windowCount = 0 →
      (stage ≠ .usedUp ∧ run.iterator.closed = false ∧ run.iterator.exhausted = false)
        ∨ run.iterator.windowCount = 0)
    (settled : stage' ≠ .resting ∨ run'.iterator.exhausted = true ∨ run'.iterator.waitDue = true →
      Settled history start limit lines run.events) :
    Paged history start limit Asked lines stage' run' where
  toBooks := paged.toBooks.congr entries windows stalled count cursor accepted
  inTime notPast := by
    rw [cursor]
    exact paged.inTime (inTime notPast)
  windowStop := by
    rw [windowStop, scope]
    exact paged.windowStop
  settled done := (settled done).congr windows stalled
  opened := by
    rw [windows, windowStop]
    exact paged.opened.imp_left fun settled => settled.congr windows stalled

/-- After one more query whose window is still open. -/
theorem asking {stage' : Stage} {windowStop : Int} {stop : Option Int}
    (books : Books history start limit Asked lines run')
    (isResting : stage' = .resting)
    (last : (windowsAsked run'.events).getLast?.map Window.stop = some windowStop)
    (opened : run'.iterator.windowStop = some windowStop)
    (stopNanos : run'.iterator.scope.stopNanos = .ok stop)
    (bound : ∀ last ∈ stop, windowStop ≤ last)
    (notExhausted : run'.iterator.exhausted = false) (notDue : run'.iterator.waitDue = false)
    (inTime : ∀ line ∈ lines, line.timestamp ≤ run'.iterator.cursor) :
    Paged history start limit Asked lines stage' run' where
  toBooks := books
  inTime _ := inTime
  windowStop := windowStop_le_of_eq opened stopNanos bound
  settled := by simp [isResting, notExhausted, notDue]
  opened := by
    obtain ⟨window, isWindow, rfl⟩ := Option.map_eq_some_iff.mp last
    exact Or.inr ⟨window, isWindow, opened⟩

/-- The first window is opened. -/
theorem openFirst {env : Surroundings ω δ} (pages : Pages env history limit Asked)
    {stop : Option Int} (hungry : Hungry run.iterator stop)
    (paged : Paged history start limit Asked lines .resting run)
    (unopened : run.iterator.windowStop = none) {windowStop : Int} {world : ω}
    {events : List (Event δ)}
    (opening : newWindowStop env run.iterator.scope.complete stop run.world
      = (windowStop, world, events)) :
    Paged history start limit Asked lines .resting
      (run.advance { run.iterator with windowStop := some windowStop } world events) := by
  obtain ⟨windows, stalled⟩ := quiet_of_opening opening
  have settled : Settled history start limit lines run.events := by
    rcases paged.opened with settled | ⟨window, -, isOpen⟩
    · exact settled
    · rw [unopened] at isOpen
      cases isOpen
  have stillSettled : Settled history start limit lines (run.events ++ events) :=
    settled.congr (by simp [windows]) (by simp [stalled])
  refine ⟨paged.toBooks.congr ?_ ?_ ?_ ?_ rfl rfl, fun _ => ?_, ?_,
    fun _ => stillSettled, Or.inl stillSettled⟩
  · simp [Run.advance, acceptedEntries_of_opening opening]
  · simp [Run.advance, windows]
  · simp [Run.advance, stalled]
  · exact fun _ => pages.count_of_opening opening
  · exact paged.inTime (Or.inl ⟨by simp, hungry.notClosed, hungry.notExhausted⟩)
  · exact windowStop_le_of_eq rfl hungry.stopNanos (le_of_opening opening)

/-- The next window is opened after one that was used up. -/
theorem openNext {env : Surroundings ω δ} (pages : Pages env history limit Asked)
    (books : Books history start limit Asked lines run)
    (tally : Tally (acceptedEntries run.events) run.delivered run.iterator)
    (settled : Settled history start limit lines run.events) {stop : Option Int}
    (stopNanos : run.iterator.scope.stopNanos = .ok stop) :
    Paged history start limit Asked lines .resting
      (run.after (Iterator.openNext env stop run.iterator run.world)) := by
  rcases opening : newWindowStop env run.iterator.scope.complete stop run.world
    with ⟨windowStop, world, events⟩
  obtain ⟨windows, stalled⟩ := quiet_of_opening opening
  have whole : run.after (Iterator.openNext env stop run.iterator run.world)
      = run.advance { run.iterator with
          cursor := run.iterator.catchUp.cursor
          accepted := run.iterator.catchUp.accepted
          windowCount := 0
          windowStop := some windowStop } world events := by
    rw [openNext_eq, opening]
    rfl
  have latest : ∀ last ∈ run.iterator.last, (∃ line ∈ lines, line.timestamp = last.timestamp)
      ∧ Caught start limit (Store.visible history (windowsAsked run.events).length) lines
          (stalls run.events) last.timestamp := by
    intro last isLast
    rcases last_of_tally tally books.entries with ⟨none, -⟩ | ⟨known, isKnown, isLine, -⟩
    · rw [none] at isLast
      cases isLast
    · rw [isKnown] at isLast
      cases isLast
      obtain ⟨line, among, same⟩ := isLine
      obtain ⟨window, isWindow, before⟩ := books.bounded line among
      exact ⟨⟨line, among, same⟩, (settled window isWindow).mono (List.Subset.refl _)
        (List.Subset.refl _) (by omega)⟩
  have ledger := books.ledger.catchUp latest
  have stillSettled : Settled history start limit lines (run.events ++ events) :=
    settled.congr (by simp [windows]) (by simp [stalled])
  rw [whole]
  refine ⟨⟨?_, ?_, ?_, ?_⟩, ?_, ?_, fun _ => stillSettled, Or.inl stillSettled⟩
  · simpa [Run.advance, acceptedEntries_of_opening opening] using books.entries
  · simpa [Run.advance, windows] using pages.count_of_opening opening books.count
  · simp only [Run.advance, windowsAsked_append, windows, stalls_append, stalled, List.append_nil]
    exact ledger.congr rfl rfl rfl rfl
  · simpa [Run.advance, windows] using books.bounded
  · intro _ line among
    change line.timestamp ≤ run.iterator.catchUp.cursor
    rcases last_of_tally tally books.entries with ⟨-, rfl⟩ | ⟨last, isLast, -, upper⟩
    · cases among
    · rw [catchUp, isLast]
      apply Int.le_trans (upper line among)
      rw [cursor_advance]
      exact Int.le_max_right _ _
  · exact windowStop_le_of_eq rfl stopNanos (le_of_opening opening)

/-- After a full page was taken in and the cursor moved on. -/
theorem turnPage {windowStop next : Int} {stop : Option Int} {batch : Batch}
    {fresh : List StoredLine} {world : ω} (hungry : Hungry run.iterator stop)
    (opened : run.iterator.windowStop = some windowStop)
    (inTime : ∀ line ∈ lines, line.timestamp ≤ run.iterator.cursor)
    (bound : ∀ last ∈ stop, windowStop ≤ last)
    (takenIn : TakenIn history start limit Asked lines fresh run windowStop batch world)
    (full : (nextPage history limit run windowStop).length = limit)
    (reached : ∃ line ∈ nextPage history limit run windowStop, line.timestamp = next)
    (upper : ∀ line ∈ nextPage history limit run windowStop, line.timestamp ≤ next) :
    let taken := fresh.map StoredLine.entry
    let iterator := (run.iterator.pushLines fresh).countTaken taken
    Paged history start limit Asked (lines ++ fresh) .resting
      ((run.advance iterator world
        (pageEvent run.iterator windowStop batch :: taken.map .accepted)).after
          (follow next iterator world)) := by
  intro taken iterator
  have same := sameBut_pushLines run.iterator fresh
  have counted : Books history start limit Asked (lines ++ fresh) (run.advance iterator world
      (pageEvent run.iterator windowStop batch :: taken.map .accepted)) :=
    takenIn.books.congr rfl rfl rfl (fun _ => id) rfl rfl
  generalize isMiddle : run.advance iterator world
    (pageEvent run.iterator windowStop batch :: taken.map .accepted) = middle at counted ⊢
  have windows : windowsAsked middle.events
      = windowsAsked run.events ++ [⟨run.iterator.cursor, windowStop⟩] := by
    rw [← isMiddle, Run.advance, windowsAsked_append, windowsAsked_page]
  have isIterator : middle.iterator = iterator := by rw [← isMiddle]; rfl
  have sameCursor : middle.iterator.cursor = run.iterator.cursor := isIterator ▸ same.cursor
  have ledger := counted.ledger
  rw [windows, List.length_append, List.length_singleton, Store.visible_succ] at ledger
  obtain ⟨caught, safe⟩ :=
    ledger.caught_of_turned sameCursor.symm takenIn.covers full reached upper
  have turned := counted.turn (by simpa [windows] using caught) (by simpa [windows] using safe)
  have sameStep : follow next iterator world = follow next middle.iterator middle.world := by
    rw [← isMiddle]
    rfl
  rw [sameStep]
  have stillOpen : middle.iterator.windowStop = some windowStop :=
    isIterator ▸ same.windowStop.trans opened
  have stopNanos : middle.iterator.scope.stopNanos = .ok stop := by
    rw [isIterator, show iterator.scope = run.iterator.scope from same.scope]
    exact hungry.stopNanos
  have notExhausted : middle.iterator.exhausted = false :=
    isIterator ▸ same.exhausted.trans hungry.notExhausted
  have notDue : middle.iterator.waitDue = false := isIterator ▸ same.waitDue.trans hungry.notDue
  refine asking turned rfl ?_ ?_ ?_ bound ?_ ?_ fun line among => ?_
  · simp [Run.after, Run.advance, windowsAsked_follow, windows]
  · simpa [Run.after, Run.advance, follow_eq] using stillOpen
  · simpa [Run.after, Run.advance, follow_eq] using stopNanos
  · simpa [Run.after, Run.advance, follow_eq] using notExhausted
  · simpa [Run.after, Run.advance, follow_eq] using notDue
  · have moved : (middle.after (follow next middle.iterator middle.world)).iterator.cursor
        = max run.iterator.cursor (max next (run.iterator.cursor + 1)) := by
      simp [Run.after, Run.advance, follow_eq, sameCursor]
    rw [moved]
    rcases List.mem_append.mp among with old | isFresh
    · have before := inTime line old
      omega
    · have before := upper line (takenIn.onPage line isFresh)
      omega

/-- After the last page of a window was taken in. -/
theorem lastPage {windowStop : Int} {batch : Batch} {fresh : List StoredLine} {world : ω}
    (inTime : ∀ line ∈ lines, line.timestamp ≤ run.iterator.cursor)
    (bound : ∀ windowStop ∈ run.iterator.windowStop, ∀ stop,
      run.iterator.scope.stopNanos = .ok stop → ∀ last ∈ stop, windowStop ≤ last)
    (takenIn : TakenIn history start limit Asked lines fresh run windowStop batch world)
    (notFull : (nextPage history limit run windowStop).length < limit) :
    let taken := fresh.map StoredLine.entry
    Paged history start limit Asked (lines ++ fresh) .usedUp
      (run.advance ((run.iterator.pushLines fresh).countTaken taken) world
        (pageEvent run.iterator windowStop batch :: taken.map .accepted)) := by
  intro taken
  have same := sameBut_pushLines run.iterator fresh
  have counted : Books history start limit Asked (lines ++ fresh)
      (run.advance ((run.iterator.pushLines fresh).countTaken taken) world
        (pageEvent run.iterator windowStop batch :: taken.map .accepted)) :=
    takenIn.books.congr rfl rfl rfl (fun _ => id) rfl rfl
  have windows : windowsAsked (run.events
      ++ pageEvent run.iterator windowStop batch :: taken.map .accepted)
      = windowsAsked run.events ++ [⟨run.iterator.cursor, windowStop⟩] := by
    rw [windowsAsked_append, windowsAsked_page]
  have settled : Settled history start limit (lines ++ fresh) (run.events
      ++ pageEvent run.iterator windowStop batch :: taken.map .accepted) := by
    intro window isWindow
    rw [windows, List.getLast?_concat] at isWindow
    cases isWindow
    have ledger := counted.ledger
    rw [Run.advance, windows, List.length_append, List.length_singleton, Store.visible_succ]
      at ledger
    rw [windows, List.length_append, List.length_singleton, Store.visible_succ]
    exact ledger.caught_of_ended same.cursor.symm takenIn.covers notFull
  refine ⟨counted, ?_, ?_, fun _ => settled, Or.inl settled⟩
  · rintro (⟨usedUp, -⟩ | foundNone)
    · exact absurd rfl usedUp
    · -- a window that showed nothing new has none of the page either
      have noneTaken : fresh = [] := by
        have none : taken.length = 0 := Nat.eq_zero_of_add_eq_zero_left foundNone
        simpa [taken] using none
      subst noneTaken
      simpa [Run.advance, countTaken, same.cursor] using inTime
  intro known isKnown stop isStop
  exact bound known (same.windowStop ▸ isKnown) stop (same.scope ▸ isStop)

/-- What is accepted of a page are lines of the store, and nothing of it is refused. -/
theorem taken {env : Surroundings ω δ} (pages : Pages env history limit Asked)
    (evolves : ∀ count, Store.Evolves limit (Store.visible history count) (history count))
    (positive : 0 < limit) (tally : Tally (acceptedEntries run.events) run.delivered run.iterator)
    (paged : Paged history start limit Asked lines .resting run) {stop : Option Int}
    (hungry : Hungry run.iterator stop) {windowStop : Int}
    (opened : run.iterator.windowStop = some windowStop)
    (inside : run.iterator.cursor < windowStop) {batch : Batch} {closes : Bool} {world : ω}
    (answer : env.query ⟨run.iterator.cursor, windowStop⟩ run.world
      = ((.ok batch, closes), world)) {next : Iterator δ} {taken : List Entry}
    {failure : Option Failure} (acceptance : acceptAll stop (Entry.sorted batch.entries) run.iterator
      = (next, taken, failure)) :
    failure = none ∧ ∃ fresh, next = run.iterator.pushLines fresh
      ∧ taken = fresh.map StoredLine.entry
      ∧ TakenIn history start limit Asked lines fresh run windowStop batch world := by
  obtain ⟨fresh, accepted, takenIn⟩ := paged.toBooks.takeIn pages evolves positive tally
    (paged.inTime (Or.inl ⟨by simp, hungry.notClosed, hungry.notExhausted⟩)) inside
    (paged.windowStop windowStop opened stop hungry.stopNanos) answer
  rw [acceptance] at accepted
  cases accepted
  exact ⟨rfl, fresh, rfl, rfl, takenIn⟩

/-- Every move keeps what is known about a run, for some more lines. -/
theorem move [WaitTime δ] {env : Surroundings ω δ} (pages : Pages env history limit Asked)
    (evolves : ∀ count, Store.Evolves limit (Store.visible history count) (history count))
    (positive : 0 < limit) {stage' : Stage} (move : Move env (stage, run) (stage', run'))
    (tally : Tally (acceptedEntries run.events) run.delivered run.iterator)
    (paged : Paged history start limit Asked lines stage run) :
    ∃ lines', Paged history start limit Asked lines' stage' run' := by
  have inTime {stop : Option Int} (active : Active run.iterator stop)
      (notUsedUp : stage ≠ .usedUp) : ∀ line ∈ lines, line.timestamp ≤ run.iterator.cursor :=
    paged.inTime (Or.inl ⟨notUsedUp, active.notClosed, active.notExhausted⟩)
  have bound {stop : Option Int} {windowStop : Int} (hungry : Hungry run.iterator stop)
      (opened : run.iterator.windowStop = some windowStop) : ∀ last ∈ stop, windowStop ≤ last :=
    paged.windowStop windowStop opened stop hungry.stopNanos
  cases move with
  | resume active nothingReady due =>
    exact ⟨lines, paged.quiet rfl rfl rfl (fun _ => id) rfl rfl rfl rfl
      (fun _ => Or.inl ⟨by simp, active.notClosed, active.notExhausted⟩)
      fun _ => paged.settled (Or.inr (Or.inr due))⟩
  | openFirst hungry unopened opening =>
    exact ⟨lines, openFirst pages hungry paged unopened opening⟩
  | useUp hungry opened past =>
    refine ⟨lines, paged.quiet rfl rfl rfl (fun _ => id) rfl rfl rfl rfl
      (fun _ => Or.inl ⟨by simp, hungry.notClosed, hungry.notExhausted⟩) fun _ => ?_⟩
    rcases paged.opened with settled | ⟨window, isWindow, isOpen⟩
    · exact settled
    · intro other isOther
      rw [Option.mem_unique isOther isWindow]
      rw [opened] at isOpen
      cases isOpen
      exact paged.ledger.caught.mono (List.Subset.refl _) (List.Subset.refl _) past
  | @failQuery _ _ _ failure closes _ hungry opened inside answer =>
    have books := paged.toBooks.ask pages evolves positive (inTime hungry.toActive (by simp)) inside
      (.error failure) answer
    refine ⟨lines, ?_⟩
    cases closes with
    | true =>
      exact asking (books.congr rfl rfl rfl (fun _ => id) rfl rfl) rfl
        (by simp [Run.advance, Event.window?]) opened hungry.stopNanos (bound hungry opened)
        hungry.notExhausted hungry.notDue (inTime hungry.toActive (by simp))
    | false =>
      exact asking books rfl (by simp [Run.advance, Event.window?]) opened hungry.stopNanos
        (bound hungry opened) hungry.notExhausted hungry.notDue (inTime hungry.toActive (by simp))
  | @dropPage _ _ _ batch _ hungry opened inside answer =>
    have books := paged.toBooks.ask pages evolves positive (inTime hungry.toActive (by simp)) inside
      (.ok batch.entries.length) answer
    exact ⟨lines, asking (books.congr rfl rfl rfl (fun _ => id) rfl rfl) rfl
      (by simp [Run.advance, pageEvent, Event.window?]) opened hungry.stopNanos
      (bound hungry opened) hungry.notExhausted hungry.notDue (inTime hungry.toActive (by simp))⟩
  | breakOff hungry opened inside answer acceptance =>
    cases (paged.taken pages evolves positive tally hungry opened inside answer acceptance).1
  | turnPage hungry opened inside answer acceptance full =>
    obtain ⟨-, fresh, rfl, rfl, takenIn⟩ :=
      paged.taken pages evolves positive tally hungry opened inside answer acceptance
    have page := pages.page paged.count answer
    obtain ⟨isFull, reached, upper⟩ := page.turned _ full
    exact ⟨lines ++ fresh, turnPage hungry opened (inTime hungry.toActive (by simp))
      (bound hungry opened) takenIn isFull reached upper⟩
  | lastPage hungry opened inside answer acceptance notFull =>
    obtain ⟨-, fresh, rfl, rfl, takenIn⟩ :=
      paged.taken pages evolves positive tally hungry opened inside answer acceptance
    have page := pages.page paged.count answer
    exact ⟨lines ++ fresh, lastPage (inTime hungry.toActive (by simp)) paged.windowStop takenIn
      (page.ended notFull)⟩
  | finish | giveUp =>
    exact ⟨lines, paged.quiet rfl rfl rfl (fun _ => id) rfl rfl rfl rfl (by simp)
      fun _ => paged.settled (Or.inl (by simp))⟩
  | postpone _ _ _ foundNone | beginWait _ _ _ foundNone =>
    exact ⟨lines, paged.quiet rfl rfl rfl (fun _ => id) rfl rfl rfl rfl
      (fun _ => Or.inr foundNone) fun _ => paged.settled (Or.inl (by simp))⟩
  | renew active opened notLast found =>
    have patient : Books history start limit Asked lines
        { run with iterator := { run.iterator with elapsed := WaitTime.none } } :=
      paged.toBooks.congr rfl rfl rfl (fun _ => id) rfl rfl
    exact ⟨lines, openNext pages patient (tally.congr rfl rfl rfl rfl)
      (paged.settled (Or.inl (by simp))) active.stopNanos⟩
  | failWait active answer | breakWait active answer =>
    exact ⟨lines, paged.quiet (by simp [Run.advance, Event.entry?])
      (by simp [Run.advance, Event.window?]) (by simp [Run.advance, Event.stall?])
      (fun _ => pages.count_of_wait answer) rfl rfl rfl rfl
      (fun _ => Or.inl ⟨by simp, active.notClosed, active.notExhausted⟩)
      fun _ => paged.settled (Or.inl (by simp))⟩
  | @endWait _ _ world active answer =>
    have waited : Books history start limit Asked lines
        (run.advance run.iterator.countWait.passInterval world
          [.waited run.iterator.policy.interval (.ok false)]) :=
      paged.toBooks.congr (by simp [Run.advance, Event.entry?])
        (by simp [Run.advance, Event.window?]) (by simp [Run.advance, Event.stall?])
        (fun _ => pages.count_of_wait answer) rfl rfl
    have settled := paged.settled (Or.inl (by simp))
    exact ⟨lines, openNext pages waited
      (tally.congr (by simp [Run.advance, Event.entry?]) rfl rfl rfl)
      (settled.congr (by simp [Run.advance, Event.window?]) (by simp [Run.advance, Event.stall?]))
      active.stopNanos⟩
  | handOut notClosed ready =>
    exact ⟨lines, paged.quiet rfl rfl rfl (fun _ => id) rfl rfl rfl rfl id paged.settled⟩
  | close =>
    exact ⟨lines, paged.quiet rfl rfl rfl (fun _ => id) rfl rfl rfl rfl
      (Or.imp_left fun isActive => absurd isActive.2.1 (by simp)) paged.settled⟩

end Paged

end Steps

/-- Whatever moves a run is made of, its accepted entries are those of lines of the store that was
shown last. -/
theorem exists_paged_of_path [WaitTime δ] {env : Surroundings ω δ} {history : Nat → Store}
    {limit : Nat} {Asked : ω → Nat → Prop} (pages : Pages env history limit Asked)
    (evolves : ∀ count, Store.Evolves limit (Store.visible history count) (history count))
    (positive : 0 < limit) {scope : Scope} {policy : TailPolicy δ} {iterator : Iterator δ}
    (started : Iterator.start scope policy = .ok iterator) {start : Int}
    (startNanos : scope.startNanos = .ok start) {world : ω} (unasked : Asked world 0)
    {stage : Stage} {run : Run ω δ}
    (path : Path env (.resting, Run.start iterator world) (stage, run)) :
    ∃ lines, Paged history start limit Asked lines stage run := by
  obtain ⟨cursor, isCursor, rfl⟩ := eq_of_start started
  have atStart : cursor = start := Except.ok.inj (isCursor.symm.trans startNanos)
  refine (path.invariant
    (fun stage run => Tally (acceptedEntries run.events) run.delivered run.iterator
      ∧ ∃ lines, Paged history start limit Asked lines stage run) ?_ ?_).2
  · rintro stage run stage' run' move ⟨tally, lines, paged⟩
    exact ⟨tally.move move, paged.move pages evolves positive move tally⟩
  · have settled : Settled history start limit [] ([] : List (Event δ)) := by simp [Settled]
    refine ⟨Tally.start _ rfl rfl, [], ⟨⟨rfl, unasked, ?_, by simp⟩, by simp, ?_,
      fun _ => settled, Or.inl settled⟩⟩
    · exact Ledger.initial limit _ atStart rfl
    · intro windowStop isOpen
      cases isOpen

end Iterator
end RunLog
