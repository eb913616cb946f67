import RunLog.Proofs.Answer

/-!
# What an iterator has of a store

A ledger relates an iterator to the store behind it: which lines of the store were accepted, that
none of those before the cursor is missing, and that the remembered fingerprints tell exactly which
lines from the cursor on were accepted already.

The store may change between two queries.  What is needed of a change is that lines stay and that
new ones come late enough; a cursor lies where no new line can come behind it, which is at a line,
or right after a time at which no more lines fit on a page.

Taking in a page keeps the ledger, and afterwards every line on the page is accepted.
-/

namespace RunLog
namespace Store

/-- A change of a store behind an iterator that asks for pages of a given size. -/
structure Evolves (limit : Nat) (old new : Store) : Prop where
  /-- No line is lost. -/
  grows : ∀ line ∈ old.lines, line ∈ new.lines
  /-- The lines that fit on a page go on to fit. -/
  keeps : ∀ line, old.Fits limit line → new.Fits limit line
  /-- A line that newly fits is none of the past, and there was room for it at its time. -/
  fresh : ∀ line, new.Fits limit line → ¬old.Fits limit line →
    (∀ seen ∈ old.lines, seen.timestamp ≤ line.timestamp)
      ∧ (old.atTime line.timestamp).length < limit
  /-- Where there are too many lines at a time, there were too many before, or it is a new time. -/
  crowded : ∀ time, limit < (new.atTime time).length →
    limit < (old.atTime time).length ∨ ∀ seen ∈ old.lines, seen.timestamp < time
  /-- New lines come after the old ones of their stream. -/
  appends : ∀ line ∈ old.lines, ∀ other ∈ new.lines, other.labels = line.labels →
    other.timestamp = line.timestamp → other.occurrence < line.occurrence → other ∈ old.lines

variable {limit : Nat} {old new store : Store}

theorem Evolves.refl (limit : Nat) (store : Store) : Evolves limit store store :=
  ⟨fun _ present => present, fun _ fits => fits, fun _ fits notFits => absurd fits notFits,
    fun _ crowded => Or.inl crowded, fun _ _ _ present _ _ _ => present⟩

theorem Evolves.of_empty (limit : Nat) (positive : 0 < limit) (store : Store) :
    Evolves limit empty store := by
  refine ⟨by simp, ?_, ?_, ?_, by simp⟩
  · intro line fits
    cases fits.mem_lines
  · refine fun line _ _ => ⟨by simp, ?_⟩
    simpa [atTime, byTime] using positive
  · exact fun _ _ => Or.inr (by simp)

/-- The stores that queries show: none before the first query, and then one after the other. -/
def visible (history : Nat → Store) : Nat → Store
  | 0 => empty
  | count + 1 => history count

@[simp] theorem visible_succ (history : Nat → Store) (count : Nat) :
    visible history (count + 1) = history count := rfl

/-- Where so many lines share a time as a positive limit says, there is one. -/
theorem exists_of_le_length_atTime {time : Int} (positive : 0 < limit)
    (many : limit ≤ (store.atTime time).length) : ∃ line ∈ store.lines, line.timestamp = time := by
  obtain ⟨line, present⟩ := List.exists_mem_of_length_pos (Nat.lt_of_lt_of_le positive many)
  obtain ⟨among, atOnce⟩ := mem_atTime.mp present
  exact ⟨line, among, atOnce⟩

/-- No fewer lines share a time in a larger store. -/
theorem length_atTime_le_of_subset {time : Int} (larger : ∀ line ∈ old.lines, line ∈ new.lines) :
    (old.atTime time).length ≤ (new.atTime time).length := by
  refine (List.subperm_of_subset (old.nodup_byTime.filter _) fun line present => ?_).length_le
  obtain ⟨among, atOnce⟩ := mem_atTime.mp present
  exact mem_atTime.mpr ⟨larger line among, atOnce⟩

end Store

namespace Iterator

variable {δ : Type}

/-- Of the lines from a start up to a bound, those that fit were accepted, and where not all of them
fit, the iterator stalled. -/
def Caught (start : Int) (limit : Nat) (store : Store) (lines : List StoredLine)
    (stalls : List Int) (bound : Int) : Prop :=
  ∀ line ∈ store.lines, start ≤ line.timestamp → line.timestamp < bound →
    (store.Fits limit line → line ∈ lines)
      ∧ (limit < (store.atTime line.timestamp).length → line.timestamp ∈ stalls)

/-- A cursor behind which no new line can come. -/
def Safe (start : Int) (limit : Nat) (store : Store) (cursor : Int) : Prop :=
  cursor ≤ start ∨ (∃ line ∈ store.lines, cursor ≤ line.timestamp)
    ∨ ∃ time, cursor = time + 1 ∧ limit ≤ (store.atTime time).length

/-- What an iterator has of a store, given the lines that were accepted and the times at which it
stalled. -/
structure Ledger (start : Int) (limit : Nat) (store : Store) (lines : List StoredLine)
    (stalls : List Int) (iterator : Iterator δ) : Prop where
  /-- No line was accepted twice. -/
  nodup : lines.Nodup
  /-- Only lines of the store were accepted, and only those that fit. -/
  fits : ∀ line ∈ lines, store.Fits limit line ∧ start ≤ line.timestamp
  /-- Nothing before the cursor is missing. -/
  caught : Caught start limit store lines stalls iterator.cursor
  /-- Nothing new comes behind the cursor. -/
  safe : Safe start limit store iterator.cursor
  /-- The cursor is not before the start. -/
  ahead : start ≤ iterator.cursor
  /-- Only accepted lines are remembered. -/
  remembered : ∀ fingerprint ∈ iterator.accepted, ∃ line ∈ lines, line.fingerprint = fingerprint
  /-- Accepted lines from the cursor on are remembered. -/
  recent : ∀ line ∈ lines, iterator.cursor ≤ line.timestamp →
    line.fingerprint ∈ iterator.accepted
  /-- The lines of each stream were accepted in order. -/
  increasing : lines.Pairwise fun left right =>
    left.labels = right.labels → left.sortKey.Before right.sortKey
  /-- Before a line of a stream, those at the same time were accepted. -/
  downward : ∀ line ∈ lines, ∀ other ∈ store.lines, other.labels = line.labels →
    other.timestamp = line.timestamp → other.occurrence < line.occurrence → other ∈ lines

variable {start : Int} {limit : Nat} {store old new : Store} {lines : List StoredLine}
  {stalls : List Int} {iterator : Iterator δ}

theorem Caught.mono {lines' : List StoredLine} {stalls' : List Int} {bound bound' : Int}
    (caught : Caught start limit store lines stalls bound) (more : lines ⊆ lines')
    (moreStalls : stalls ⊆ stalls') (lower : bound' ≤ bound) :
    Caught start limit store lines' stalls' bound' := by
  intro line present fromStart before
  obtain ⟨accepted, stalled⟩ := caught line present fromStart (Int.lt_of_lt_of_le before lower)
  exact ⟨fun fits => more (accepted fits), fun crowded => moreStalls (stalled crowded)⟩

namespace Ledger

/-- Before anything happened. -/
theorem initial (limit : Nat) (iterator : Iterator δ) (atStart : iterator.cursor = start)
    (nothing : iterator.accepted = []) : Ledger start limit Store.empty [] [] iterator where
  nodup := List.nodup_nil
  fits := by simp
  caught := by simp [Caught]
  safe := Or.inl (Int.le_of_eq atStart)
  ahead := Int.le_of_eq atStart.symm
  remembered := by simp [nothing]
  recent := by simp
  increasing := List.Pairwise.nil
  downward := by simp

/-- Nothing else of an iterator matters. -/
theorem congr {lines' : List StoredLine} {stalls' : List Int} {next : Iterator δ}
    (ledger : Ledger start limit store lines stalls iterator)
    (sameLines : lines' = lines) (sameStalls : stalls' = stalls)
    (cursor : next.cursor = iterator.cursor) (accepted : next.accepted = iterator.accepted) :
    Ledger start limit store lines' stalls' next := by
  subst sameLines sameStalls
  exact ⟨ledger.nodup, ledger.fits, cursor ▸ ledger.caught, cursor ▸ ledger.safe,
    cursor ▸ ledger.ahead, accepted ▸ ledger.remembered,
    fun line among fromCursor => accepted ▸ ledger.recent line among (cursor ▸ fromCursor),
    ledger.increasing, ledger.downward⟩

theorem mem_lines (ledger : Ledger start limit store lines stalls iterator) {line : StoredLine}
    (among : line ∈ lines) : line ∈ store.lines :=
  (ledger.fits line among).1.mem_lines

/-! ## The store changes -/

/-- A time before a safe cursor is not later than everything that was there. -/
theorem exists_not_before (ledger : Ledger start limit store lines stalls iterator)
    (positive : 0 < limit) {time : Int} (fromStart : start ≤ time)
    (before : time < iterator.cursor) : ∃ seen ∈ store.lines, time ≤ seen.timestamp := by
  rcases ledger.safe with atStart | ⟨seen, present, later⟩ | ⟨bumped, cursor, full⟩
  · omega
  · exact ⟨seen, present, by omega⟩
  · obtain ⟨seen, present, atOnce⟩ := Store.exists_of_le_length_atTime positive full
    exact ⟨seen, present, by omega⟩

/-- No line that newly fits lies between the start and a safe cursor. -/
theorem fits_before (ledger : Ledger start limit old lines stalls iterator)
    (evolves : Store.Evolves limit old new) (positive : 0 < limit) {line : StoredLine}
    (fits : new.Fits limit line) (fromStart : start ≤ line.timestamp)
    (before : line.timestamp < iterator.cursor) : old.Fits limit line := by
  by_contra isFresh
  obtain ⟨afterAll, room⟩ := evolves.fresh line fits isFresh
  rcases ledger.safe with atStart | ⟨seen, present, later⟩ | ⟨time, cursor, full⟩
  · omega
  · have bound := afterAll seen present
    omega
  · obtain ⟨seen, present, atOnce⟩ := Store.exists_of_le_length_atTime positive full
    have bound := afterAll seen present
    have same : line.timestamp = time := by omega
    rw [same] at room
    omega

/-- A change of the store keeps the ledger. -/
theorem evolve (ledger : Ledger start limit old lines stalls iterator)
    (evolves : Store.Evolves limit old new) (positive : 0 < limit) :
    Ledger start limit new lines stalls iterator where
  nodup := ledger.nodup
  fits line among := ⟨evolves.keeps line (ledger.fits line among).1, (ledger.fits line among).2⟩
  caught := by
    intro line present fromStart before
    constructor
    · intro fits
      have oldFits := ledger.fits_before evolves positive fits fromStart before
      exact (ledger.caught line oldFits.mem_lines fromStart before).1 oldFits
    · intro crowded
      rcases evolves.crowded line.timestamp crowded with stillCrowded | newTime
      · obtain ⟨seen, among, atOnce⟩ :=
          Store.exists_of_le_length_atTime positive (Nat.le_of_lt stillCrowded)
        have caught := ledger.caught seen among (atOnce ▸ fromStart) (atOnce ▸ before)
        rw [atOnce] at caught
        exact caught.2 stillCrowded
      · obtain ⟨seen, among, notBefore⟩ := ledger.exists_not_before positive fromStart before
        exact absurd (newTime seen among) (Int.not_lt.mpr notBefore)
  safe := by
    rcases ledger.safe with atStart | ⟨seen, present, later⟩ | ⟨time, cursor, full⟩
    · exact Or.inl atStart
    · exact Or.inr (Or.inl ⟨seen, evolves.grows seen present, later⟩)
    · exact Or.inr (Or.inr ⟨time, cursor,
        Nat.le_trans full (Store.length_atTime_le_of_subset evolves.grows)⟩)
  ahead := ledger.ahead
  remembered := ledger.remembered
  recent := ledger.recent
  increasing := ledger.increasing
  downward line among other present sameLabels atOnce earlier :=
    ledger.downward line among other
      (evolves.appends line (ledger.mem_lines among) other present sameLabels atOnce earlier)
      sameLabels atOnce earlier

/-! ## The cursor moves -/

/-- An iterator can go on to a safe cursor before which nothing is missing. -/
theorem advance (ledger : Ledger start limit store lines stalls iterator) {stalls' : List Int}
    {cursor : Int} (moreStalls : stalls ⊆ stalls')
    (caught : Caught start limit store lines stalls' cursor)
    (safe : Safe start limit store cursor) :
    Ledger start limit store lines stalls' (iterator.advance cursor) where
  nodup := ledger.nodup
  fits := ledger.fits
  caught := by
    rw [cursor_advance]
    rcases Int.le_total iterator.cursor cursor with later | behind
    · rwa [Int.max_eq_right later]
    · rw [Int.max_eq_left behind]
      exact ledger.caught.mono (List.Subset.refl _) moreStalls (Int.le_refl _)
  safe := by
    rw [cursor_advance]
    rcases Int.le_total iterator.cursor cursor with later | behind
    · rwa [Int.max_eq_right later]
    · rw [Int.max_eq_left behind]
      exact ledger.safe
  ahead := by
    rw [cursor_advance]
    exact Int.le_trans ledger.ahead (Int.le_max_left _ _)
  remembered fingerprint present :=
    ledger.remembered fingerprint (mem_accepted_advance.mp present).1
  recent := by
    intro line among fromCursor
    rw [cursor_advance] at fromCursor
    refine mem_accepted_advance.mpr ⟨ledger.recent line among ?_, Or.inr ?_⟩
    · exact Int.le_trans (Int.le_max_left _ _) fromCursor
    · exact Int.le_trans (Int.le_max_right _ _) fromCursor
  increasing := ledger.increasing
  downward := ledger.downward

/-- An iterator can catch up with its last accepted line if nothing before that line is missing. -/
theorem catchUp (ledger : Ledger start limit store lines stalls iterator)
    (latest : ∀ last ∈ iterator.last, (∃ line ∈ lines, line.timestamp = last.timestamp)
      ∧ Caught start limit store lines stalls last.timestamp) :
    Ledger start limit store lines stalls iterator.catchUp := by
  cases known : iterator.last with
  | none => simpa [Iterator.catchUp, known] using ledger
  | some last =>
    obtain ⟨⟨line, among, atOnce⟩, caught⟩ := latest last known
    have safe : Safe start limit store last.timestamp :=
      Or.inr (Or.inl ⟨line, ledger.mem_lines among, Int.le_of_eq atOnce.symm⟩)
    simpa [Iterator.catchUp, known] using ledger.advance (List.Subset.refl _) caught safe

end Ledger

/-! ## Accepting lines -/

/-- An iterator that has accepted the entries of some lines. -/
def pushLines (iterator : Iterator δ) : List StoredLine → Iterator δ
  | [] => iterator
  | line :: rest => pushLines (iterator.push line.entry line.fingerprint) rest

theorem mem_accepted_pushLines {iterator : Iterator δ} {lines : List StoredLine}
    {fingerprint : Fingerprint} :
    fingerprint ∈ (iterator.pushLines lines).accepted ↔
      fingerprint ∈ iterator.accepted ∨ ∃ line ∈ lines, line.fingerprint = fingerprint := by
  induction lines generalizing iterator with
  | nil => simp [pushLines]
  | cons line rest inductionHypothesis =>
    simp [pushLines, inductionHypothesis, push, or_assoc, or_left_comm, eq_comm]

/-- The lines among some that an iterator does not remember. -/
def unknown (iterator : Iterator δ) (lines : List StoredLine) : List StoredLine :=
  lines.filter fun line => line.fingerprint ∉ iterator.accepted

/-- Of lines in the order of time, none of which is late or past the end, an iterator accepts those
that it does not remember. -/
theorem acceptAll_lines {stop : Option Int} {lines : List StoredLine}
    (found : ∀ line ∈ lines, line.entry.fingerprint = .ok line.fingerprint)
    (early : ∀ line ∈ lines, ∀ last ∈ stop, line.timestamp < last)
    (inOrder : lines.Pairwise fun left right => left.timestamp ≤ right.timestamp)
    (distinct : lines.Pairwise fun left right => left.fingerprint ≠ right.fingerprint)
    (iterator : Iterator δ)
    (onTime : ∀ line ∈ lines, ∀ last ∈ iterator.last, last.timestamp ≤ line.timestamp) :
    acceptAll stop (lines.map StoredLine.entry) iterator
      = (iterator.pushLines (iterator.unknown lines),
          (iterator.unknown lines).map StoredLine.entry, none) := by
  induction lines generalizing iterator with
  | nil => rfl
  | cons line rest inductionHypothesis =>
    obtain ⟨before, restInOrder⟩ := List.pairwise_cons.mp inOrder
    obtain ⟨differs, restDistinct⟩ := List.pairwise_cons.mp distinct
    have onward := inductionHypothesis
      (fun other present => found other (List.mem_cons_of_mem _ present))
      (fun other present => early other (List.mem_cons_of_mem _ present)) restInOrder restDistinct
    have notPast : ¬(stop.map fun stop => decide (stop ≤ line.entry.timestamp)).getD false := by
      cases stop with
      | none => exact Bool.false_ne_true
      | some last =>
        have before := early line List.mem_cons_self last rfl
        exact fun past => absurd (of_decide_eq_true past) (Int.not_le.mpr before)
    have notLate : iterator.isLate line.entry = false := by
      cases last : iterator.last with
      | none => simp [isLate, last]
      | some key =>
        rw [isLate, last]
        exact decide_eq_false (Int.not_lt.mpr (onTime line List.mem_cons_self key last))
    by_cases known : line.fingerprint ∈ iterator.accepted
    · have skipped : iterator.unknown (line :: rest) = iterator.unknown rest := by
        simp [unknown, known]
      have acceptance : iterator.accept stop line.entry = .ok (iterator, false) := by
        rw [accept, if_neg notPast, found line List.mem_cons_self]
        exact if_pos (Or.inl known)
      have continued := onward iterator
        fun other present => onTime other (List.mem_cons_of_mem _ present)
      simp [acceptAll, acceptance, skipped, continued]
    · have sameRest : (iterator.push line.entry line.fingerprint).unknown rest
          = iterator.unknown rest := by
        apply List.filter_congr
        intro other present
        simp [push, (differs other present).symm]
      have taken : iterator.unknown (line :: rest) = line :: iterator.unknown rest := by
        simp [unknown, known]
      have acceptance : iterator.accept stop line.entry
          = .ok (iterator.push line.entry line.fingerprint, true) := by
        rw [accept, if_neg notPast, found line List.mem_cons_self]
        exact if_neg (not_or.mpr ⟨known, ne_true_of_eq_false notLate⟩)
      have continued := onward (iterator.push line.entry line.fingerprint) ?_
      · simp [acceptAll, acceptance, taken, continued, sameRest, pushLines]
      · intro other present last isLast
        cases Option.mem_some_iff.mp isLast
        exact before other present

theorem sameBut_pushLines (iterator : Iterator δ) (lines : List StoredLine) :
    SameBut iterator (iterator.pushLines lines) := by
  induction lines generalizing iterator with
  | nil => exact ⟨rfl, rfl, rfl, rfl, rfl, rfl, rfl, rfl, rfl, rfl⟩
  | cons line rest inductionHypothesis =>
    have same := inductionHypothesis (iterator.push line.entry line.fingerprint)
    exact ⟨same.scope, same.policy, same.cursor, same.windowStop, same.elapsed, same.windowCount,
      same.waits, same.waitDue, same.exhausted, same.closed⟩

@[simp] theorem cursor_pushLines (iterator : Iterator δ) (lines : List StoredLine) :
    (iterator.pushLines lines).cursor = iterator.cursor :=
  (sameBut_pushLines iterator lines).cursor

namespace Ledger

variable {window : Window} {listed : List StoredLine}

/-- Of the lines in a window from the cursor on, those are unknown that were not accepted. -/
theorem mem_unknown (ledger : Ledger start limit store lines stalls iterator)
    (onPage : ∀ line ∈ listed, line ∈ store.lines ∧ iterator.cursor ≤ line.timestamp)
    {line : StoredLine} : line ∈ iterator.unknown listed ↔ line ∈ listed ∧ line ∉ lines := by
  simp only [unknown, List.mem_filter, decide_eq_true_eq, and_congr_right_iff]
  intro present
  obtain ⟨inStore, fromCursor⟩ := onPage line present
  refine not_congr ⟨fun known => ?_, fun among => ledger.recent line among fromCursor⟩
  obtain ⟨other, among, same⟩ := ledger.remembered _ known
  exact Store.eq_of_fingerprint_eq (ledger.mem_lines among) inStore same ▸ among

/-- Lines of a page that were not accepted come after those of their streams that were. -/
theorem before_of_unknown (ledger : Ledger start limit store lines stalls iterator)
    (inTime : ∀ line ∈ lines, line.timestamp ≤ iterator.cursor) {line other : StoredLine}
    (among : line ∈ lines) (inStore : other ∈ store.lines)
    (fromCursor : iterator.cursor ≤ other.timestamp) (isNew : other ∉ lines)
    (sameLabels : line.labels = other.labels) : line.sortKey.Before other.sortKey := by
  rcases Store.before_or_eq (ledger.mem_lines among) inStore sameLabels with rfl | before | after
  · exact absurd among isNew
  · exact before
  · have notLater := inTime line among
    rcases after with earlier | ⟨atOnce, lower⟩
    · change other.timestamp < line.timestamp at earlier
      omega
    · exact absurd (ledger.downward line among other inStore sameLabels.symm atOnce lower) isNew

/-- The lines of each stream are still in order after the unknown lines of a page. -/
theorem increasing_append_unknown (ledger : Ledger start limit store lines stalls iterator)
    (inTime : ∀ line ∈ lines, line.timestamp ≤ iterator.cursor)
    (onPage : ∀ line ∈ listed, line ∈ store.lines ∧ iterator.cursor ≤ line.timestamp)
    (inOrder : listed.Pairwise fun left right => left.sortKey.le right.sortKey = true)
    (nodup : listed.Nodup) :
    (lines ++ iterator.unknown listed).Pairwise fun left right =>
      left.labels = right.labels → left.sortKey.Before right.sortKey := by
  refine List.pairwise_append.mpr ⟨ledger.increasing, ?_, ?_⟩
  · apply ((inOrder.and nodup).filter _).imp_of_mem
    rintro left right inLeft inRight ⟨le, differ⟩ sameLabels
    refine SortKey.before_of_le le fun sameKey => differ ?_
    exact Store.eq_of_sortKey_eq (onPage left (List.mem_filter.mp inLeft).1).1
      (onPage right (List.mem_filter.mp inRight).1).1 sameLabels sameKey
  · intro line among other fresh sameLabels
    obtain ⟨isListed, isNew⟩ := (ledger.mem_unknown onPage).mp fresh
    obtain ⟨inStore, fromCursor⟩ := onPage other isListed
    exact ledger.before_of_unknown inTime among inStore fromCursor isNew sameLabels

/-- Before a line of a page, those of its stream at the same time are on the page. -/
theorem downward_append_unknown (ledger : Ledger start limit store lines stalls iterator)
    (onPage : ∀ line ∈ listed, line ∈ store.lines ∧ iterator.cursor ≤ line.timestamp)
    (perm : listed.Perm (store.page window limit)) {line other : StoredLine}
    (present : line ∈ lines ++ iterator.unknown listed) (inStore : other ∈ store.lines)
    (sameLabels : other.labels = line.labels) (atOnce : other.timestamp = line.timestamp)
    (lower : other.occurrence < line.occurrence) : other ∈ lines ++ iterator.unknown listed := by
  rcases List.mem_append.mp present with among | fresh
  · exact List.mem_append_left _ (ledger.downward line among other inStore sameLabels atOnce lower)
  · have lineOnPage := perm.mem_iff.mp ((ledger.mem_unknown onPage).mp fresh).1
    have inside : other ∈ store.within window :=
      Store.mem_within.mpr ⟨inStore, atOnce ▸ Store.contains_of_mem_page lineOnPage⟩
    have otherOnPage := Store.mem_page_of_before lineOnPage inside sameLabels
      (Or.inr ⟨atOnce, lower⟩)
    by_cases known : other ∈ lines
    · exact List.mem_append_left _ known
    · exact List.mem_append_right _
        ((ledger.mem_unknown onPage).mpr ⟨perm.mem_iff.mpr otherOnPage, known⟩)

/-- The ledger after unknown lines of a page were accepted, which are listed in the order of their
positions. -/
theorem pushLines (ledger : Ledger start limit store lines stalls iterator)
    (inTime : ∀ line ∈ lines, line.timestamp ≤ iterator.cursor)
    (fromCursor : window.start = iterator.cursor) (perm : listed.Perm (store.page window limit))
    (inOrder : listed.Pairwise fun left right => left.sortKey.le right.sortKey = true) :
    Ledger start limit store (lines ++ iterator.unknown listed) stalls
      (iterator.pushLines (iterator.unknown listed)) := by
  have onPage : ∀ line ∈ listed, line ∈ store.lines ∧ iterator.cursor ≤ line.timestamp := by
    intro line present
    have contained := Store.contains_of_mem_page (perm.mem_iff.mp present)
    refine ⟨Store.mem_lines_of_mem_page (perm.mem_iff.mp present), ?_⟩
    exact fromCursor ▸ (of_decide_eq_true contained).1
  have isFresh {line : StoredLine} :
      line ∈ iterator.unknown listed ↔ line ∈ listed ∧ line ∉ lines :=
    ledger.mem_unknown onPage
  have nodup : listed.Nodup := perm.nodup_iff.mpr (store.nodup_page window limit)
  constructor
  case nodup =>
    refine List.nodup_append.mpr ⟨ledger.nodup, nodup.filter _, ?_⟩
    rintro line among _ fresh rfl
    exact (isFresh.mp fresh).2 among
  case fits =>
    intro line present
    rcases List.mem_append.mp present with among | fresh
    · exact ledger.fits line among
    · have listedLine := (isFresh.mp fresh).1
      exact ⟨Store.fits_of_mem_page (perm.mem_iff.mp listedLine),
        Int.le_trans ledger.ahead (onPage line listedLine).2⟩
  case caught =>
    rw [cursor_pushLines]
    exact ledger.caught.mono (List.subset_append_left _ _) (List.Subset.refl _) (Int.le_refl _)
  case safe =>
    rw [cursor_pushLines]
    exact ledger.safe
  case ahead =>
    rw [cursor_pushLines]
    exact ledger.ahead
  case remembered =>
    intro fingerprint known
    rcases mem_accepted_pushLines.mp known with before | ⟨line, fresh, same⟩
    · obtain ⟨line, among, same⟩ := ledger.remembered fingerprint before
      exact ⟨line, List.mem_append_left _ among, same⟩
    · exact ⟨line, List.mem_append_right _ fresh, same⟩
  case recent =>
    intro line present late
    rw [cursor_pushLines] at late
    rcases List.mem_append.mp present with among | fresh
    · exact mem_accepted_pushLines.mpr (Or.inl (ledger.recent line among late))
    · exact mem_accepted_pushLines.mpr (Or.inr ⟨line, fresh, rfl⟩)
  case increasing => exact ledger.increasing_append_unknown inTime onPage inOrder nodup
  case downward =>
    exact fun line present other inStore sameLabels atOnce lower =>
      ledger.downward_append_unknown onPage perm present inStore sameLabels atOnce lower

/-- A page that begins at the cursor is taken in without a failure, and afterwards all of it was
accepted. -/
theorem acceptAll (ledger : Ledger start limit store lines stalls iterator) {batch : Batch}
    {stop : Option Int} (page : Batch.IsPage store window limit batch)
    (fromCursor : window.start = iterator.cursor)
    (inTime : ∀ line ∈ lines, line.timestamp ≤ iterator.cursor)
    (onTime : ∀ last ∈ iterator.last, last.timestamp ≤ iterator.cursor)
    (windowStop : ∀ last ∈ stop, window.stop ≤ last) :
    ∃ fresh, Iterator.acceptAll stop (Entry.sorted batch.entries) iterator
        = (iterator.pushLines fresh, fresh.map StoredLine.entry, none)
      ∧ Ledger start limit store (lines ++ fresh) stalls (iterator.pushLines fresh)
      ∧ (∀ line ∈ fresh, line ∈ store.page window limit)
      ∧ ∀ line ∈ store.page window limit, line ∈ lines ++ fresh := by
  obtain ⟨listed, perm, inOrder, entries⟩ := page.entries
  have inStore {line : StoredLine} (present : line ∈ listed) : line ∈ store.lines :=
    Store.mem_lines_of_mem_page (perm.mem_iff.mp present)
  have inWindow {line : StoredLine} (present : line ∈ listed) :
      iterator.cursor ≤ line.timestamp ∧ line.timestamp < window.stop :=
    fromCursor ▸ of_decide_eq_true (Store.contains_of_mem_page (perm.mem_iff.mp present))
  have isFresh {line : StoredLine} :
      line ∈ iterator.unknown listed ↔ line ∈ listed ∧ line ∉ lines :=
    ledger.mem_unknown fun line present => ⟨inStore present, (inWindow present).1⟩
  have distinct : listed.Pairwise fun left right => left.fingerprint ≠ right.fingerprint := by
    have nodup : listed.Nodup := perm.nodup_iff.mpr (store.nodup_page window limit)
    refine nodup.imp_of_mem fun inLeft inRight differ same => differ ?_
    exact Store.eq_of_fingerprint_eq (inStore inLeft) (inStore inRight) same
  refine ⟨iterator.unknown listed, ?_, ledger.pushLines inTime fromCursor perm inOrder, ?_, ?_⟩
  · rw [entries]
    refine acceptAll_lines (fun line present => Store.fingerprint_entry (inStore present)) ?_
      (inOrder.imp SortKey.timestamp_le_of_le) distinct iterator ?_
    · intro line present last isLast
      exact Int.lt_of_lt_of_le (inWindow present).2 (windowStop last isLast)
    · intro line present last isLast
      exact Int.le_trans (onTime last isLast) (inWindow present).1
  · exact fun line fresh => perm.mem_iff.mp (isFresh.mp fresh).1
  · intro line onPage
    by_cases known : line ∈ lines
    · exact List.mem_append_left _ known
    · exact List.mem_append_right _ (isFresh.mpr ⟨perm.mem_iff.mpr onPage, known⟩)

/-! ## After a page -/

/-- After a page was accepted, nothing before a line on it is missing. -/
theorem caught_of_mem_page (ledger : Ledger start limit store lines stalls iterator)
    (fromCursor : window.start = iterator.cursor)
    (covers : ∀ line ∈ store.page window limit, line ∈ lines) {last : StoredLine}
    (lastOnPage : last ∈ store.page window limit) :
    Caught start limit store lines stalls last.timestamp := by
  intro line present fromStart before
  by_cases behind : line.timestamp < iterator.cursor
  · exact ledger.caught line present fromStart behind
  · have lastInWindow := (of_decide_eq_true (Store.contains_of_mem_page lastOnPage)).2
    have onPage {other : StoredLine} (inStore : other ∈ store.lines)
        (atOnce : other.timestamp = line.timestamp) : other ∈ store.page window limit := by
      have inside : other ∈ store.within window :=
        Store.mem_within.mpr ⟨inStore, decide_eq_true (by omega)⟩
      by_contra leftOut
      have after := Store.timestamp_le_of_not_mem_page lastOnPage inside leftOut
      omega
    refine ⟨fun _ => covers line (onPage present rfl), fun crowded => ?_⟩
    have room := Store.length_atTime_le_of_onPage fun other => onPage
    omega

/-- After a page with lines at the cursor only was accepted, nothing at the cursor is missing apart
from what a page cannot show. -/
theorem caught_of_stalled (ledger : Ledger start limit store lines stalls iterator)
    (fromCursor : window.start = iterator.cursor)
    (covers : ∀ line ∈ store.page window limit, line ∈ lines)
    (atCursor : ∀ line ∈ store.page window limit, line.timestamp = iterator.cursor)
    (inside : iterator.cursor < window.stop) :
    Caught start limit store lines (stalls ++ [iterator.cursor]) (iterator.cursor + 1) := by
  intro line present fromStart before
  by_cases behind : line.timestamp < iterator.cursor
  · obtain ⟨accepted, known⟩ := ledger.caught line present fromStart behind
    exact ⟨accepted, fun crowded => List.mem_append_left _ (known crowded)⟩
  · have same : line.timestamp = iterator.cursor := by omega
    refine ⟨fun fits => covers line ?_, fun _ => List.mem_append_right _ (by simp [same])⟩
    by_contra leftOut
    obtain ⟨earlier, onPage, isEarlier⟩ :=
      Store.exists_earlier_of_fits fits (decide_eq_true (by omega)) leftOut
    have sameTime := atCursor earlier onPage
    omega

/-- After a full page was accepted, nothing before the place to go on from is missing, and that
place is safe. -/
theorem caught_of_turned (ledger : Ledger start limit store lines stalls iterator) {next : Int}
    (fromCursor : window.start = iterator.cursor)
    (covers : ∀ line ∈ store.page window limit, line ∈ lines)
    (full : (store.page window limit).length = limit)
    (reached : ∃ line ∈ store.page window limit, line.timestamp = next)
    (bound : ∀ line ∈ store.page window limit, line.timestamp ≤ next) :
    Caught start limit store lines
        (stalls ++ if next ≤ iterator.cursor then [iterator.cursor] else [])
        (max next (iterator.cursor + 1))
      ∧ Safe start limit store (max next (iterator.cursor + 1)) := by
  obtain ⟨last, lastOnPage, rfl⟩ := reached
  have inWindow {line : StoredLine} (onPage : line ∈ store.page window limit) :
      iterator.cursor ≤ line.timestamp ∧ line.timestamp < window.stop :=
    fromCursor ▸ of_decide_eq_true (Store.contains_of_mem_page onPage)
  rcases Int.lt_or_eq_of_le (inWindow lastOnPage).1 with further | stalled
  · have notBehind : ¬last.timestamp ≤ iterator.cursor := Int.not_le.mpr further
    rw [if_neg notBehind, List.append_nil, Int.max_eq_left (by omega)]
    exact ⟨ledger.caught_of_mem_page fromCursor covers lastOnPage,
      Or.inr (Or.inl ⟨last, Store.mem_lines_of_mem_page lastOnPage, Int.le_refl _⟩)⟩
  · have atCursor : ∀ line ∈ store.page window limit, line.timestamp = iterator.cursor := by
      intro line onPage
      have lower := (inWindow onPage).1
      have upper := bound line onPage
      omega
    have inside : iterator.cursor < window.stop := stalled ▸ (inWindow lastOnPage).2
    rw [if_pos (Int.le_of_eq stalled.symm), Int.max_eq_right (by omega)]
    refine ⟨ledger.caught_of_stalled fromCursor covers atCursor inside,
      Or.inr (Or.inr ⟨iterator.cursor, rfl, ?_⟩)⟩
    rw [← full]
    exact Store.length_page_le_atTime atCursor

/-- After a page that was not full was accepted, nothing in the window is missing. -/
theorem caught_of_ended (ledger : Ledger start limit store lines stalls iterator)
    (fromCursor : window.start = iterator.cursor)
    (covers : ∀ line ∈ store.page window limit, line ∈ lines)
    (notFull : (store.page window limit).length < limit) :
    Caught start limit store lines stalls window.stop := by
  intro line present fromStart before
  by_cases behind : line.timestamp < iterator.cursor
  · exact ledger.caught line present fromStart behind
  · have onPage {other : StoredLine} (inStore : other ∈ store.lines)
        (atOnce : other.timestamp = line.timestamp) : other ∈ store.page window limit :=
      Store.mem_page_of_not_full notFull
        (Store.mem_within.mpr ⟨inStore, decide_eq_true (by omega)⟩)
    refine ⟨fun _ => covers line (onPage present rfl), fun crowded => ?_⟩
    have room := Store.length_atTime_le_of_onPage fun other => onPage
    omega

end Ledger

end Iterator
end RunLog
