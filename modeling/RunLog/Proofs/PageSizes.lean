import RunLog.Proofs.Arrival

/-!
# Logs with different pages

A finished log is asked for with pages of some size.  If all lines at one time fit on a page, the
same lines are handed out whatever the size, with the same positions, and those of each stream in
the same order.  Only lines of different streams at one time can come in different orders: there a
page may have ended, and the lines after its end come after those before it.  Where no stream with
several lines at a time comes before another one with lines at that time, this makes no difference,
and neither does it where pages of both sizes show as many lines first.
-/

namespace RunLog

namespace Entry

/-- The positions of numbered entries depend on their times only. -/
theorem map_sortKey_numbered (entries : List Entry) :
    (numbered entries).map sortKey
      = List.zipWith SortKey.mk (entries.map Entry.timestamp)
          (ranks [] (entries.map Entry.timestamp)) := by
  rw [numbered, List.map_zipWith, List.zipWith_map_left]
  rfl

/-- The first entries are numbered without regard to the others. -/
theorem numbered_isPrefix_append (first others : List Entry) :
    numbered first <+: numbered (first ++ others) := by
  have sameLength : first.length = (ranks [] (first.map Entry.timestamp)).length := by simp
  rw [numbered, numbered, List.map_append, ranks_append, List.zipWith_append sameLength]
  exact List.prefix_append _ _

end Entry

/-! ## Streams one after the other -/

namespace StoredStream

variable {stream : StoredStream} {line : StoredLine}

/-- How many lines of a stream have a given time. -/
def countAt (stream : StoredStream) (time : Int) : Nat :=
  (stream.values.map Prod.fst).count time

/-- An occurrence is one of as many as there are lines at the time. -/
theorem occurrence_bounds (present : line ∈ stream.lines) :
    0 ≤ line.occurrence ∧ line.occurrence < stream.countAt line.timestamp := by
  have count_eq : Entry.countAt (stream.lines.map StoredLine.entry) line.timestamp
      = stream.countAt line.timestamp := by
    have times : stream.lines.map StoredLine.timestamp = stream.values.map Prod.fst := by
      rw [← map_value_linesAfter stream.labels [] stream.values, List.map_map]
      rfl
    rw [Entry.countAt, countAt, ← times, List.map_map]
    rfl
  have sequences := Entry.sequences_numbered (stream.lines.map StoredLine.entry) line.timestamp
  rw [stream.ranked_lines.numbered_map_entry, count_eq] at sequences
  have among : line.occurrence
      ∈ (List.range (stream.countAt line.timestamp)).map Int.ofNat := by
    rw [← sequences]
    exact List.mem_map_of_mem (List.mem_filter.mpr ⟨List.mem_map_of_mem present, by simp⟩)
  obtain ⟨number, isNumber, same⟩ := List.mem_map.mp among
  rw [← same]
  exact ⟨Int.natCast_nonneg number, Int.ofNat_lt.mpr (List.mem_range.mp isNumber)⟩

end StoredStream

namespace Store

/-- At a time, no stream with several lines comes before another one with lines. -/
def InTurn (store : Store) (time : Int) : Prop :=
  store.streams.Pairwise fun first second => first.countAt time ≤ 1 ∨ second.countAt time = 0

instance (store : Store) (time : Int) : Decidable (store.InTurn time) :=
  inferInstanceAs (Decidable (List.Pairwise _ _))

/-- Pages of two sizes agree on the lines of a window at a time: the streams come in turn, or as
many lines come first. -/
def Agree (store : Store) (limit limit' : Nat) (window : Window) (time : Int) : Prop :=
  store.InTurn time ∨ store.firstPart limit window time = store.firstPart limit' window time

variable {store : Store} {limit limit' : Nat} {window : Window} {time : Int}

/-- Where streams come in turn, occurrences do not decrease. -/
theorem InTurn.pairwise_atTime (inTurn : store.InTurn time) :
    (store.atTime time).Pairwise fun left right => left.occurrence ≤ right.occurrence := by
  rw [atTime_eq, lines, List.filter_flatMap, List.pairwise_flatMap]
  constructor
  · intro stream known
    have increasing := (StoredStream.pairwise_before_lines (store.inOrder stream known)).filter
      fun line => line.timestamp = time
    refine increasing.imp_of_mem fun isLeft isRight before => ?_
    have leftTime := of_decide_eq_true (List.mem_filter.mp isLeft).2
    have rightTime := of_decide_eq_true (List.mem_filter.mp isRight).2
    rcases before with earlier | ⟨-, lower⟩
    · exact absurd (leftTime.trans rightTime.symm) (Int.ne_of_lt earlier)
    · exact Int.le_of_lt lower
  · refine inTurn.imp fun turns left isLeft right isRight => ?_
    obtain ⟨inFirst, leftTime⟩ := List.mem_filter.mp isLeft
    obtain ⟨inSecond, rightTime⟩ := List.mem_filter.mp isRight
    have leftBounds := StoredStream.occurrence_bounds inFirst
    have rightBounds := StoredStream.occurrence_bounds inSecond
    rw [of_decide_eq_true leftTime] at leftBounds
    rw [of_decide_eq_true rightTime] at rightBounds
    omega

/-! ## Deliveries -/

namespace Delivery

variable {lines others : List StoredLine}

/-- Two deliveries hold the same times in the same order. -/
theorem map_timestamp_eq (delivery : store.Delivery limit window lines)
    (other : store.Delivery limit' window others) :
    lines.map StoredLine.timestamp = others.map StoredLine.timestamp :=
  List.Perm.eq_of_pairwise (fun _ _ _ _ => Int.le_antisymm) (List.pairwise_map.mpr delivery.byTime)
    (List.pairwise_map.mpr other.byTime) ((delivery.perm.trans other.perm.symm).map _)

theorem map_sortKey_eq (delivery : store.Delivery limit window lines)
    (other : store.Delivery limit' window others) :
    (Entry.numbered (lines.map StoredLine.entry)).map Entry.sortKey
      = (Entry.numbered (others.map StoredLine.entry)).map Entry.sortKey := by
  have times (lines : List StoredLine) : (lines.map StoredLine.entry).map Entry.timestamp
      = lines.map StoredLine.timestamp := by
    rw [List.map_map]
    rfl
  rw [Entry.map_sortKey_numbered, Entry.map_sortKey_numbered, times, times,
    delivery.map_timestamp_eq other]

/-- Where pages of both sizes agree, the lines come in the same order. -/
theorem filter_timestamp_eq (delivery : store.Delivery limit window lines)
    (other : store.Delivery limit' window others) (inside : window.contains time = true)
    (agree : store.Agree limit limit' window time) :
    (lines.filter fun line => line.timestamp = time)
      = others.filter fun line => line.timestamp = time := by
  rw [delivery.inParts time inside, other.inParts time inside]
  rcases agree with inTurn | sameFirst
  · have whole (shown : Nat) :
        StoredLine.inParts shown (store.atTime time) = store.atTime time := by
      refine StoredLine.inParts_of_pairwise (fun first isFirst second isSecond => ?_)
        inTurn.pairwise_atTime shown
      rw [(mem_atTime.mp isFirst).2, (mem_atTime.mp isSecond).2]
    rw [whole, whole]
  · rw [sameFirst]

/-- Where pages of both sizes agree at all times, the lines are delivered alike. -/
theorem eq_of_agree (delivery : store.Delivery limit window lines)
    (other : store.Delivery limit' window others)
    (agree : ∀ time, window.contains time = true → store.Agree limit limit' window time) :
    lines = others := by
  refine eq_of_filter_key_eq (fun first second : Int => decide (first ≤ second))
    StoredLine.timestamp ?_ ?_ (delivery.byTime.imp decide_eq_true)
    (other.byTime.imp decide_eq_true) fun time => ?_
  · exact fun _ _ before after =>
      Int.le_antisymm (of_decide_eq_true before) (of_decide_eq_true after)
  · exact fun first second => by simpa using Int.le_total first second
  · by_cases inside : window.contains time = true
    · exact delivery.filter_timestamp_eq other inside (agree time inside)
    · have nothing {lines : List StoredLine} (perm : lines.Perm (store.within window)) :
          (lines.filter fun line => line.timestamp = time) = [] := by
        refine List.filter_eq_nil_iff.mpr fun line present atOnce => inside ?_
        exact of_decide_eq_true atOnce ▸ (mem_within.mp (perm.subset present)).2
      rw [nothing delivery.perm, nothing other.perm]

end Delivery

end Store

/-! ## Behind a client -/

/-- A client in front of a backend with a store, which was not asked for anything yet. -/
structure Source (ω : Type) (scope : Scope) (store : Store) (limit : Nat) where
  /-- What the client runs on. -/
  host : Host ω
  /-- The client. -/
  client : Client
  /-- How many queries a world has seen. -/
  asked : ω → Nat
  /-- The world. -/
  world : ω
  /-- The backend answers with pages of the store. -/
  serves : Serves host client scope limit (fun _ => store) asked
  /-- Nothing was asked for. -/
  unasked : asked world = 0

namespace Iterator

/-- An iterator that has begun with a complete scope between two times that a clock can show. -/
structure Fresh (scope : Scope) (policy : TailPolicy Float) (start stop : Int)
    (iterator : Iterator Float) : Prop where
  started : Iterator.start scope policy = .ok iterator
  complete : scope.complete = true
  startNanos : scope.startNanos = .ok start
  stopNanos : scope.stopNanos = .ok (some stop)
  startShown : Moment.inRange scope.start.clock = true
  stopShown : ∀ moment ∈ scope.stop, Moment.inRange moment.clock = true

open Numeral (Legible)

namespace Fresh

variable {ω : Type} {scope : Scope} {policy : TailPolicy Float} {start stop : Int}
  {iterator : Iterator Float}

theorem legibleStop (fresh : Fresh scope policy start stop iterator) : Legible stop := by
  have stopNanos := fresh.stopNanos
  cases isStop : scope.stop with
  | none => simp [Scope.stopNanos, isStop] at stopNanos
  | some moment =>
    cases nanos : Scope.nanos moment with
    | error failure => simp [Scope.stopNanos, isStop, nanos, Except.map] at stopNanos
    | ok known =>
      obtain rfl : known = stop := by
        simpa [Scope.stopNanos, isStop, nanos, Except.map] using stopNanos
      exact legible_of_nanos (fresh.stopShown moment isStop) nanos

/-- Nothing has happened to the iterator. -/
theorem idle (fresh : Fresh scope policy start stop iterator) :
    iterator.closed = false ∧ iterator.ready = [] ∧ iterator.exhausted = false
      ∧ iterator.cursor = start := by
  have startNanos := fresh.startNanos
  obtain ⟨cursor, isCursor, rfl⟩ := eq_of_start fresh.started
  exact ⟨rfl, rfl, rfl, Except.ok.inj (isCursor.symm.trans startNanos)⟩

theorem underway (fresh : Fresh scope policy start stop iterator) {store : Store} {limit : Nat}
    (positive : 0 < limit) (source : Source ω scope store limit) :
    Underway store start stop limit (Serves.Counts source.client source.asked) .resting
      (Run.start iterator ⟨source.client, source.world⟩) := by
  let first : Run (Session ω) Float := Run.start iterator ⟨source.client, source.world⟩
  have resting : Path (source.host.surroundings scope) (.resting, first) (.resting, first) :=
    Relation.ReflTransGen.refl
  have paged := exists_paged_of_path (source.serves.pages positive)
    (Store.evolves_constant positive store) positive fresh.started fresh.startNanos
    (⟨rfl, source.unasked⟩ : Serves.Counts source.client source.asked first.world 0) resting
  have tally := tally_of_path fresh.started resting
  have complete := fresh.complete
  have stopNanos := fresh.stopNanos
  obtain ⟨cursor, -, rfl⟩ := eq_of_start fresh.started
  exact ⟨Finishing.start _ _ complete stopNanos rfl rfl rfl, tally, paged⟩

end Fresh

/-! ### The first page -/

section FirstPage

variable {ω δ : Type} [WaitTime δ] {env : Surroundings ω δ} {store : Store} {start stop : Int}
  {limit : Nat} {Asked : ω → Nat → Prop} {run : Run ω δ}

/-- The first fetch accepts the lines of the first page in the order in which they are read. -/
theorem Underway.accepted_fetch (pages : Pages env (fun _ => store) limit Asked)
    (lists : Lists env store limit Asked) (positive : 0 < limit)
    (answers : Answers env Asked start stop)
    (underway : Underway store start stop limit Asked .resting run)
    (notClosed : run.iterator.closed = false) (notExhausted : run.iterator.exhausted = false)
    (nothing : acceptedEntries run.events = []) (inside : run.iterator.cursor < stop) :
    acceptedEntries (fetch env true run.iterator run.world).events
      = (StoredLine.sorted ((store.groups ⟨run.iterator.cursor, stop⟩ limit).flatMap Prod.snd)).map
          StoredLine.entry := by
  obtain ⟨lines, paged⟩ := underway.paged
  obtain rfl : lines = [] := List.map_eq_nil_iff.mp (paged.entries.symm.trans nothing)
  let opened : Run ω δ := { run with iterator := run.iterator.openUntil stop }
  have books : Books (fun _ => store) start limit Asked [] opened :=
    paged.toBooks.congr rfl rfl rfl (fun _ => id) rfl rfl
  obtain ⟨batch, later, answer⟩ :=
    answers ⟨opened.iterator.cursor, stop⟩ run.world _ books.count books.ledger.ahead
      (Int.le_refl _)
  obtain ⟨fresh, acceptance, takenIn⟩ := books.takeIn pages (Store.evolves_constant positive store)
    positive (underway.tally.congr rfl rfl rfl rfl)
    (paged.inTime (Or.inl ⟨by simp, notClosed, notExhausted⟩)) inside
    (fun last isLast => Int.le_of_eq (Option.some.inj isLast)) answer
  have same := sameBut_pushLines opened.iterator fresh
  have isComplete : ((opened.iterator.pushLines fresh).countTaken
      (fresh.map StoredLine.entry)).scope.complete = true := by
    rw [countTaken, same.scope]
    exact underway.complete
  have accepted : acceptedEntries (fetch env true run.iterator run.world).events
      = fresh.map StoredLine.entry := by
    have notReached : ¬stop ≤ (run.iterator.openUntil stop).cursor := Int.not_le.mpr inside
    rw [underway.fetch_eq, advanceWindow, if_neg notReached,
      load_of_acceptance true answer acceptance, Step.after, acceptedEntries_append,
      acceptedEntries_page]
    cases batch.next with
    | some next => simp
    | none => simp [finishWindow_of_complete isComplete]
  -- the page is listed without repetitions, and all of it is fresh
  have isListed := lists.sublist books.count answer acceptance fun line isFresh =>
    Store.mem_lines_of_mem_page (takenIn.onPage line isFresh)
  have nodup := (StoredLine.sorted_perm _).nodup_iff.mpr
    (store.nodup_flatMap_groups ⟨run.iterator.cursor, stop⟩ limit)
  have whole := isListed.eq_of_length_le
    (List.subperm_of_subset nodup fun line listed => by
      simpa using takenIn.covers line
        (Store.mem_flatMap_groups.mp ((StoredLine.sorted_perm _).subset listed))).length_le
  rw [accepted, whole]
  rfl

/-- What happens first in a drain is a fetch. -/
theorem exists_events_drain (fuel count : Nat) {iterator : Iterator δ} {world : ω}
    (notClosed : iterator.closed = false) (nothingReady : iterator.ready = [])
    (notExhausted : iterator.exhausted = false)
    (fetched : (fetch env true iterator world).failure = none) :
    ∃ later, (drain env (fuel + 1) (count + 1) iterator world).events
      = (fetch env true iterator world).events ++ later := by
  rw [drain, next_fetched env fuel notClosed nothingReady notExhausted fetched]
  dsimp only
  rcases (next env fuel (fetch env true iterator world).iterator
    (fetch env true iterator world).world).outcome with failure | (_ | entry)
  · exact ⟨_, rfl⟩
  · exact ⟨_, rfl⟩
  · exact ⟨_, List.append_assoc _ _ _⟩

end FirstPage

end Iterator

namespace Source

open Iterator (Run)

variable {ω : Type} {scope : Scope} {store : Store} {limit : Nat}

/-- Ask a source for all entries of an iterator. -/
def drain (source : Source ω scope store limit) (fuel count : Nat) (iterator : Iterator Float) :
    Iterator.Drain (Session ω) Float :=
  Iterator.drain (source.host.surroundings scope) fuel count iterator ⟨source.client, source.world⟩

/-- The run in which nothing was asked of a source. -/
def unread (source : Source ω scope store limit) (iterator : Iterator Float) :
    Run (Session ω) Float :=
  Run.start iterator ⟨source.client, source.world⟩

/-- A source lists the lines of a page as they are read. -/
theorem lists (source : Source ω scope store limit) :
    Iterator.Lists (source.host.surroundings scope) store limit
      (Serves.Counts source.client source.asked) := by
  rintro window ⟨_, world⟩ count batch closes later ⟨rfl, rfl⟩ answer
  obtain ⟨after, -, answered⟩ := source.serves.query_eq window world
  rw [answered] at answer
  have read : Batch.ofResponse source.host.sender.room limit window (store.answer window limit)
      = .ok batch :=
    congrArg (fun answer => answer.1.1) answer
  rw [Batch.eq_of_ofResponse read, Batch.sorted_entries_ofReading]

section Drain

variable (source : Source ω scope store limit) (positive : 0 < limit) {policy : TailPolicy Float}
  {start stop : Int} {iterator : Iterator Float} (fresh : iterator.Fresh scope policy start stop)
  {fuel count : Nat} (enoughFetches : (stop - start).toNat < fuel)
  (enoughCalls : store.lines.length < count)

include positive fresh enoughFetches enoughCalls in
/-- With enough fetches for the window and more calls than there are lines, an iterator comes to its
end. -/
theorem drain_ends :
    let drained := source.drain fuel count iterator
    drained.failure = none ∧ drained.iterator.closed = false ∧ drained.iterator.exhausted = true
      ∧ drained.iterator.ready = [] := by
  have answers := Iterator.answers_of_serves source.serves
    (Iterator.legible_of_nanos fresh.startShown fresh.startNanos) fresh.legibleStop
  exact (fresh.underway positive source).drained (source.serves.pages positive) positive answers
    fresh.idle.1 enoughFetches (by simpa [Run.start] using enoughCalls)

include positive fresh in
theorem underway_drain (fuel count : Nat) :
    Iterator.Underway store start stop limit (Serves.Counts source.client source.asked) .resting
      ((source.unread iterator).afterDrain (source.drain fuel count iterator)) :=
  (fresh.underway positive source).along (source.serves.pages positive) positive
    (Iterator.path_drain (source.host.surroundings scope) (source.unread iterator) fuel count)

include positive fresh enoughFetches enoughCalls in
/-- Then all lines of the window are delivered. -/
theorem drain_delivers (room : ∀ time, (store.atTime time).length ≤ limit) :
    ∃ lines : List StoredLine,
      (source.drain fuel count iterator).entries = Entry.numbered (lines.map StoredLine.entry)
        ∧ store.Delivery limit ⟨start, stop⟩ lines := by
  obtain ⟨-, notClosed, exhausted, nothingReady⟩ :=
    source.drain_ends positive fresh enoughFetches enoughCalls
  have answers := Iterator.answers_of_serves source.serves
    (Iterator.legible_of_nanos fresh.startShown fresh.startNanos) fresh.legibleStop
  obtain ⟨-, -, notExhausted, atStart⟩ := fresh.idle
  have begins := Iterator.Arrives.begin store limit iterator
    (⟨source.client, source.world⟩ : Session ω) stop notExhausted
  rw [atStart] at begins
  have arrives := (fresh.underway positive source).arrives_along (source.serves.pages positive)
    source.lists positive answers room ⟨[], begins⟩
    (Iterator.path_drain (source.host.surroundings scope) (source.unread iterator) fuel count)
  exact (source.underway_drain positive fresh fuel count).delivered_of_arrives positive room arrives
    notClosed exhausted nothingReady

include positive fresh enoughFetches enoughCalls in
/-- The lines of the first page are handed out first, in the order in which they are read. -/
theorem drain_begins_with_page (inside : start < stop) :
    Entry.numbered ((StoredLine.sorted
        ((store.groups ⟨start, stop⟩ limit).flatMap Prod.snd)).map StoredLine.entry)
      <+: (source.drain fuel count iterator).entries := by
  have pages := source.serves.pages positive
  have underway := fresh.underway positive source
  have answers := Iterator.answers_of_serves source.serves
    (Iterator.legible_of_nanos fresh.startShown fresh.startNanos) fresh.legibleStop
  obtain ⟨-, notClosed, -, nothingReady⟩ :=
    source.drain_ends positive fresh enoughFetches enoughCalls
  have handedOut : (source.drain fuel count iterator).entries
      = Entry.numbered (Iterator.acceptedEntries (source.drain fuel count iterator).events) := by
    have whole := (source.underway_drain positive fresh fuel count).tally.ready notClosed
    simpa [Run.afterDrain, Run.advance, unread, Run.start, nothingReady] using whole
  obtain ⟨isOpen, noneReady, notExhausted, atStart⟩ := fresh.idle
  obtain ⟨fetches, rfl⟩ : ∃ fetches, fuel = fetches + 1 := ⟨fuel - 1, by omega⟩
  obtain ⟨calls, rfl⟩ : ∃ calls, count = calls + 1 := ⟨count - 1, by omega⟩
  obtain ⟨later, events⟩ := Iterator.exists_events_drain fetches calls isOpen noneReady notExhausted
    (underway.progress pages positive answers isOpen notExhausted).failure
  have accepted := underway.accepted_fetch pages source.lists positive answers isOpen notExhausted
    rfl (atStart ▸ inside)
  dsimp only [Run.start] at events accepted
  rw [handedOut, drain, events, Iterator.acceptedEntries_append, accepted, atStart]
  exact Entry.numbered_isPrefix_append _ _

end Drain

end Source

/-- Two drains of a finished log with pages of different sizes, on each of which all lines at one
time fit, succeed and hand out the same lines with the same positions, those of each stream in the
same order.  Where a page of the one size or of the other ends, the lines at the time come in two
parts, those that the first such page shows and the others, and elsewhere in one, each in the order
of occurrences.  So they come in the same order where streams come in turn, and where as many of
them come first for both sizes; if it is one or the other at all times, the same entries are handed
out. -/
theorem drains_agree_in_turn {ω ω' : Type} {scope : Scope} {store : Store} {limit limit' : Nat}
    (source : Source ω scope store limit) (other : Source ω' scope store limit')
    (positive : 0 < limit) (positive' : 0 < limit')
    (room : ∀ time, (store.atTime time).length ≤ limit)
    (room' : ∀ time, (store.atTime time).length ≤ limit') {policy : TailPolicy Float}
    {start stop : Int} {iterator : Iterator Float}
    (fresh : iterator.Fresh scope policy start stop) {fuel count : Nat}
    (enoughFetches : (stop - start).toNat < fuel) (enoughCalls : store.lines.length < count) :
    let drained := source.drain fuel count iterator
    let drained' := other.drain fuel count iterator
    drained.failure = none ∧ drained'.failure = none
      ∧ drained.entries.map Entry.sortKey = drained'.entries.map Entry.sortKey
      ∧ (∃ lines lines' : List StoredLine,
          drained.entries = Entry.numbered (lines.map StoredLine.entry)
          ∧ drained'.entries = Entry.numbered (lines'.map StoredLine.entry)
          ∧ store.Delivery limit ⟨start, stop⟩ lines ∧ store.Delivery limit' ⟨start, stop⟩ lines'
          ∧ lines.Perm lines'
          ∧ (∀ stream ∈ store.streams, (lines.filter fun line => line.labels = stream.labels)
              = lines'.filter fun line => line.labels = stream.labels)
          ∧ ∀ time, start ≤ time → time < stop → store.Agree limit limit' ⟨start, stop⟩ time →
              (lines.filter fun line => line.timestamp = time)
                = lines'.filter fun line => line.timestamp = time)
      ∧ ((∀ time, start ≤ time → time < stop → store.Agree limit limit' ⟨start, stop⟩ time) →
          drained.entries = drained'.entries) := by
  intro drained drained'
  obtain ⟨noFailure, -⟩ := source.drain_ends positive fresh enoughFetches enoughCalls
  obtain ⟨noFailure', -⟩ := other.drain_ends positive' fresh enoughFetches enoughCalls
  obtain ⟨lines, entries, delivery⟩ :=
    source.drain_delivers positive fresh enoughFetches enoughCalls room
  obtain ⟨lines', entries', delivery'⟩ :=
    other.drain_delivers positive' fresh enoughFetches enoughCalls room'
  refine ⟨noFailure, noFailure', ?_, ⟨lines, lines', entries, entries', delivery, delivery',
    delivery.perm.trans delivery'.perm.symm, fun stream known => ?_,
    fun time fromStart before agree => ?_⟩, fun agree => ?_⟩
  · rw [show drained.entries = _ from entries, show drained'.entries = _ from entries']
    exact delivery.map_sortKey_eq delivery'
  · rw [delivery.ofStream stream known, delivery'.ofStream stream known]
  · have inside : Window.contains ⟨start, stop⟩ time = true := decide_eq_true ⟨fromStart, before⟩
    exact delivery.filter_timestamp_eq delivery' inside agree
  · have same := delivery.eq_of_agree delivery' fun time inside =>
      agree time (of_decide_eq_true inside).1 (of_decide_eq_true inside).2
    rw [show drained.entries = _ from entries, show drained'.entries = _ from entries', same]

/-! ### Four lines on pages of three and of four -/

namespace Store

set_option maxRecDepth 4000 in
/-- A stream with a line at the fifth and two at the seventh nanosecond, and one with a third line
then. -/
def fourLines : Store where
  streams := [⟨[("job", "a")], [(5, "w"), (7, "x"), (7, "y")]⟩, ⟨[("job", "b")], [(7, "z")]⟩]
  distinct := by decide +kernel
  inOrder := by decide +kernel
  encodable := by decide +kernel

theorem byTime_fourLines : fourLines.byTime = fourLines.lines :=
  byTime_of_pairwise (by decide +kernel)

theorem length_atTime_fourLines (time : Int) : (fourLines.atTime time).length ≤ 3 := by
  obtain ⟨first, others, lines_eq, isFirst, three⟩ : ∃ first others,
      fourLines.lines = first :: others ∧ first.timestamp = 5 ∧ others.length = 3 :=
    ⟨_, _, rfl, rfl, rfl⟩
  rw [atTime, byTime_fourLines]
  rcases eq_or_ne time 5 with rfl | later
  · decide
  · rw [lines_eq, List.filter_cons_of_neg (by simpa [isFirst] using later.symm), ← three]
    exact List.length_filter_le _ _

/-- Windows that agree on the two times have the same answer. -/
theorem answer_fourLines (window : Window) (limit : Nat) :
    fourLines.answer window limit
      = if window.contains 7 then
          if window.contains 5 then fourLines.answer ⟨5, 8⟩ limit else fourLines.answer ⟨7, 8⟩ limit
        else if window.contains 5 then fourLines.answer ⟨5, 6⟩ limit
        else fourLines.answer ⟨0, 0⟩ limit := by
  have atTimes : ∀ line ∈ fourLines.lines, line.timestamp = 5 ∨ line.timestamp = 7 := by decide
  split <;> split <;> apply answer_congr <;> intro line present <;>
    rcases atTimes line present with atOnce | atOnce <;> simp_all <;> rfl

end Store

/-- The texts with which a backend answers from these lines, three or four of them on a page. -/
def fourLinesText (limit _count : Nat) (window : Window) : Text :=
  if window.contains 7 then
    if window.contains 5 then
      if limit = 3 then
        Store.answerText (Store.streamText "a" "[\"5\",\"w\"],[\"7\",\"x\"],[\"7\",\"y\"]")
      else
        Store.answerText (Store.streamText "a" "[\"5\",\"w\"],[\"7\",\"x\"],[\"7\",\"y\"]" ++ ","
          ++ Store.streamText "b" "[\"7\",\"z\"]")
    else
      Store.answerText (Store.streamText "a" "[\"7\",\"x\"],[\"7\",\"y\"]" ++ ","
        ++ Store.streamText "b" "[\"7\",\"z\"]")
  else if window.contains 5 then Store.answerText (Store.streamText "a" "[\"5\",\"w\"]")
  else Store.answerText []

theorem read_fourLinesText {limit : Nat} (size : limit = 3 ∨ limit = 4) (count : Nat)
    (window : Window) :
    Json.readWithin Host.answerDepth (Text.ofUtf8 (fourLinesText limit count window).utf8)
      = .ok (Store.fourLines.answer window limit) := by
  rw [Store.answer_fourLines, fourLinesText]
  rcases size with rfl | rfl
  all_goals
    split <;> split
    all_goals
      rw [Store.answer, Store.groups, Store.page, Store.within, Store.byTime_fourLines]
      cbv

/-- A client in front of a backend with these lines. -/
def fourLinesSource (limit : Nat) (size : limit = 3 ∨ limit = 4) :
    Source Nat (Scope.firstMicrosecond true) Store.fourLines limit where
  host := Host.answering (fun _ => 500) (fourLinesText limit)
  client := ⟨⟨"http://loki:3100", none, none, true, 10, false⟩, ⟨"ci", none⟩, limit⟩
  asked := id
  world := 0
  serves := Serves.answering rfl rfl rfl rfl rfl rfl _ (read_fourLinesText size)
  unasked := rfl

theorem exists_fresh_firstMicrosecond : ∃ iterator,
    Iterator.Fresh (Scope.firstMicrosecond true) TailPolicy.standard 0 1000 iterator := by
  have shown : ∀ moment ∈ (Scope.firstMicrosecond true).stop,
      Moment.inRange moment.clock = true := by
    rintro _ ⟨⟩
    rfl
  exact ⟨_, rfl, rfl, rfl, rfl, rfl, shown⟩

/-- With pages of three and of four lines, the same lines come, and those of each stream and those
at the fifth nanosecond in the same order. -/
theorem fourLines_drains_agree_in_turn : ∃ iterator,
    Iterator.Fresh (Scope.firstMicrosecond true) TailPolicy.standard 0 1000 iterator ∧
      let drained := (fourLinesSource 3 (Or.inl rfl)).drain 1001 5 iterator
      let drained' := (fourLinesSource 4 (Or.inr rfl)).drain 1001 5 iterator
      drained.failure = none ∧ drained'.failure = none
        ∧ drained.entries.map Entry.sortKey = drained'.entries.map Entry.sortKey
        ∧ ∃ lines lines' : List StoredLine,
          drained.entries = Entry.numbered (lines.map StoredLine.entry)
            ∧ drained'.entries = Entry.numbered (lines'.map StoredLine.entry)
            ∧ lines.Perm lines'
            ∧ (∀ stream ∈ Store.fourLines.streams,
                (lines.filter fun line => line.labels = stream.labels)
                  = lines'.filter fun line => line.labels = stream.labels)
            ∧ (lines.filter fun line => line.timestamp = 5)
                = lines'.filter fun line => line.timestamp = 5 := by
  obtain ⟨iterator, fresh⟩ := exists_fresh_firstMicrosecond
  obtain ⟨noFailure, noFailure', keys,
      ⟨lines, lines', entries, entries', -, -, perm, ofStream, atOnce⟩, -⟩ :=
    drains_agree_in_turn (fourLinesSource 3 (Or.inl rfl)) (fourLinesSource 4 (Or.inr rfl))
      (by decide) (by decide) Store.length_atTime_fourLines
      (fun time => Nat.le_succ_of_le (Store.length_atTime_fourLines time)) fresh
      (by decide : (1000 - 0 : Int).toNat < 1001) (by decide : Store.fourLines.lines.length < 5)
  exact ⟨iterator, fresh, noFailure, noFailure', keys, lines, lines', entries, entries', perm,
    ofStream, atOnce 5 (by decide) (by decide) (Or.inl (by decide))⟩

/-- With pages of three lines the third line is another one than with pages of four. -/
theorem fourLines_order_by_page_size : ∃ iterator,
    Iterator.Fresh (Scope.firstMicrosecond true) TailPolicy.standard 0 1000 iterator
      ∧ (∀ time, (Store.fourLines.atTime time).length ≤ 3) ∧
      let drained := (fourLinesSource 3 (Or.inl rfl)).drain 1001 5 iterator
      let drained' := (fourLinesSource 4 (Or.inr rfl)).drain 1001 5 iterator
      drained.entries[2]?.map Entry.line = some [0x79]
        ∧ drained'.entries[2]?.map Entry.line = some [0x7A]
        ∧ drained.entries.map Entry.line ≠ drained'.entries.map Entry.line := by
  obtain ⟨iterator, fresh⟩ := exists_fresh_firstMicrosecond
  have begins {limit : Nat} (size : limit = 3 ∨ limit = 4) (positive : 0 < limit) :=
    (fourLinesSource limit size).drain_begins_with_page positive fresh
      (by decide : (1000 - 0 : Int).toNat < 1001) (by decide : Store.fourLines.lines.length < 5)
      (by decide)
  have three : StoredLine.sorted ((Store.fourLines.groups ⟨0, 1000⟩ 3).flatMap Prod.snd)
      = [⟨[("job", "a")], 5, 0, "w"⟩, ⟨[("job", "a")], 7, 0, "x"⟩,
        ⟨[("job", "a")], 7, 1, "y"⟩] := by
    rw [Store.groups, Store.page, Store.within, Store.byTime_fourLines]
    exact List.mergeSort_of_pairwise (by decide +kernel)
  have four : StoredLine.sorted ((Store.fourLines.groups ⟨0, 1000⟩ 4).flatMap Prod.snd)
      = [⟨[("job", "a")], 5, 0, "w"⟩, ⟨[("job", "a")], 7, 0, "x"⟩, ⟨[("job", "b")], 7, 0, "z"⟩,
        ⟨[("job", "a")], 7, 1, "y"⟩] := by
    rw [Store.groups, Store.page, Store.within, Store.byTime_fourLines]
    refine StoredLine.sorted_eq (by decide +kernel) fun key => ?_
    -- the third line changes places with the fourth, which is at another position
    by_cases ofThird : key = ⟨7, 1⟩
    · subst ofThird
      rfl
    · have isOther : ¬SortKey.mk 7 1 = key := fun same => ofThird same.symm
      change List.filter _ [_, _, _, _] = _
      simp [StoredLine.sortKey, List.filter_cons, isOther]
  obtain ⟨others, ofThree⟩ := begins (Or.inl rfl) (by decide)
  obtain ⟨others', ofFour⟩ := begins (Or.inr rfl) (by decide)
  rw [three] at ofThree
  rw [four] at ofFour
  have third : ((fourLinesSource 3 (Or.inl rfl)).drain 1001 5 iterator).entries[2]?.map Entry.line
      = some [0x79] := by
    rw [← ofThree]
    rfl
  have third' : ((fourLinesSource 4 (Or.inr rfl)).drain 1001 5 iterator).entries[2]?.map Entry.line
      = some [0x7A] := by
    rw [← ofFour]
    rfl
  refine ⟨iterator, fresh, Store.length_atTime_fourLines, third, third', fun same => ?_⟩
  have sameThird := congrArg (·[2]?) same
  simp only [List.getElem?_map, third, third'] at sameThird
  simp at sameThird

end RunLog
