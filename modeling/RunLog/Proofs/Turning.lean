import RunLog.Proofs.Answer

/-!
# Pages one after the other

A window is asked for page by page.  A page that is full ends at the last of its times.  The next
page begins there, or a nanosecond after the beginning of the page before it if that one did not get
any further.  A page that is not full is the last one.  So the store, the window and the size of the
pages say which pages come and where they end.

Where a page ends, it shows the first lines at a time, and the next page shows all of them.
-/

namespace RunLog
namespace Store

/-- The time at which a page ends: the last one on it, if it is full. -/
def endOf? (store : Store) (limit : Nat) (window : Window) : Option Int :=
  if (store.page window limit).length < limit then none
  else ((store.page window limit).map StoredLine.timestamp).max?

/-- The windows of the pages that are asked for one after the other. -/
def turns (store : Store) (limit : Nat) (window : Window) : List Window :=
  if window.stop ≤ window.start then []
  else
    window :: match store.endOf? limit window with
      | none => []
      | some time => store.turns limit ⟨max time (window.start + 1), window.stop⟩
termination_by (window.stop - window.start).toNat
decreasing_by omega

/-- How many lines at a time the first one of some pages shows that ends there; all of them, if none
of the pages does. -/
def shownFirst (store : Store) (limit : Nat) (turns : List Window) (time : Int) : Nat :=
  match turns.find? fun turn => store.endOf? limit turn = some time with
  | some turn => ((store.page turn limit).filter fun line => line.timestamp = time).length
  | none => (store.atTime time).length

/-- How many lines at a time come first when a window is asked for page by page. -/
def firstPart (store : Store) (limit : Nat) (window : Window) (time : Int) : Nat :=
  store.shownFirst limit (store.turns limit window) time

variable {store : Store} {limit : Nat} {window turn : Window} {time : Int}

/-! ## Where a page ends -/

theorem endOf?_eq_some_iff :
    store.endOf? limit window = some time ↔
      limit ≤ (store.page window limit).length
        ∧ (∃ line ∈ store.page window limit, line.timestamp = time)
        ∧ ∀ line ∈ store.page window limit, line.timestamp ≤ time := by
  unfold endOf?
  split
  · rename_i room
    exact iff_of_false (by simp) fun ⟨full, _⟩ => Nat.not_le.mpr room full
  · rename_i full
    simp [List.max?_eq_some_iff, Nat.not_lt.mp full]

theorem endOf?_eq_none (room : (store.page window limit).length < limit) :
    store.endOf? limit window = none :=
  if_pos room

/-- What is read from a page says where it ends. -/
theorem endOf?_of_isPage {batch : Batch} (page : Batch.IsPage store window limit batch) :
    store.endOf? limit window = batch.next := by
  cases next : batch.next with
  | none => exact endOf?_eq_none (page.ended next)
  | some time =>
    obtain ⟨full, among, last⟩ := page.turned time next
    exact endOf?_eq_some_iff.mpr ⟨Nat.le_of_eq full.symm, among, last⟩

/-- A page ends inside its window. -/
theorem contains_of_endOf? (ends : store.endOf? limit window = some time) :
    window.contains time = true := by
  obtain ⟨-, ⟨line, onPage, rfl⟩, -⟩ := endOf?_eq_some_iff.mp ends
  exact contains_of_mem_page onPage

/-! ## The pages of a window -/

theorem turns_of_le (empty : window.stop ≤ window.start) : store.turns limit window = [] := by
  rw [turns, if_pos empty]

/-- A page that is not full is the last one. -/
theorem turns_of_none (inside : window.start < window.stop)
    (ends : store.endOf? limit window = none) : store.turns limit window = [window] := by
  rw [turns, if_neg (Int.not_le.mpr inside), ends]

/-- After a full page come those from its end on. -/
theorem turns_of_some (inside : window.start < window.stop)
    (ends : store.endOf? limit window = some time) :
    store.turns limit window
      = window :: store.turns limit ⟨max time (window.start + 1), window.stop⟩ := by
  rw [turns, if_neg (Int.not_le.mpr inside), ends]

/-! ## What a page shows at a time -/

/-- A page with all lines at a time shows these. -/
theorem filter_timestamp_page_of_subset (inside : window.contains time = true)
    (all : ∀ line ∈ store.atTime time, line ∈ store.page window limit) :
    ((store.page window limit).filter fun line => line.timestamp = time) = store.atTime time := by
  have shown : ((store.page window limit).filter fun line => line.timestamp = time)
      <+: (store.atTime time).take limit := filter_timestamp_page_isPrefix inside
  refine (shown.trans (List.take_prefix _ _)).sublist.eq_of_length_le (List.Subperm.length_le ?_)
  refine List.subperm_of_subset (store.nodup_byTime.filter _) fun line present => ?_
  exact List.mem_filter.mpr ⟨all line present, decide_eq_true (mem_atTime.mp present).2⟩

/-- A page that begins at some time shows all lines at this time, if so many fit on it. -/
theorem filter_timestamp_page_of_begins (inside : window.contains time = true)
    (begins : window.start = time) (room : (store.atTime time).length ≤ limit) :
    ((store.page window limit).filter fun line => line.timestamp = time) = store.atTime time := by
  refine filter_timestamp_page_of_subset inside fun line present => ?_
  obtain ⟨among, rfl⟩ := mem_atTime.mp present
  by_contra leftOut
  obtain ⟨earlier, onPage, isEarlier⟩ :=
    exists_earlier_of_fits (fits_of_length_atTime_le among room) inside leftOut
  have notBefore := (of_decide_eq_true (contains_of_mem_page onPage)).1
  omega

/-- Of the lines at a time at which it does not end, a page shows all or none. -/
theorem filter_timestamp_page_cases (inside : window.contains time = true)
    (noEnd : store.endOf? limit window ≠ some time) :
    ((store.page window limit).filter fun line => line.timestamp = time) = store.atTime time
      ∨ ((store.page window limit).filter fun line => line.timestamp = time) = [] := by
  have within (line : StoredLine) (present : line ∈ store.atTime time) :
      line ∈ store.within window := by
    obtain ⟨among, rfl⟩ := mem_atTime.mp present
    exact mem_within.mpr ⟨among, inside⟩
  by_cases room : (store.page window limit).length < limit
  · exact Or.inl (filter_timestamp_page_of_subset inside fun line present =>
      mem_page_of_not_full room (within line present))
  · -- a full page shows all lines before its last time, and none after it
    by_cases shown : ∃ line ∈ store.page window limit, time < line.timestamp
    · obtain ⟨later, onPage, isLater⟩ := shown
      refine Or.inl (filter_timestamp_page_of_subset inside fun line present => ?_)
      by_contra leftOut
      have notAfter := timestamp_le_of_not_mem_page onPage (within line present) leftOut
      rw [(mem_atTime.mp present).2] at notAfter
      omega
    · refine Or.inr (List.filter_eq_nil_iff.mpr fun line onPage atOnce => noEnd ?_)
      exact endOf?_eq_some_iff.mpr ⟨Nat.not_lt.mp room, ⟨line, onPage, of_decide_eq_true atOnce⟩,
        fun other otherOnPage => Int.not_lt.mp fun later => shown ⟨other, otherOnPage, later⟩⟩

/-! ## The lines that come first -/

section ShownFirst

variable {turns : List Window}

/-- Where a page has ended, later pages do not matter. -/
theorem shownFirst_append (ended : ∃ turn ∈ turns, store.endOf? limit turn = some time)
    (more : List Window) :
    store.shownFirst limit (turns ++ more) time = store.shownFirst limit turns time := by
  have found : (turns.find? fun turn => store.endOf? limit turn = some time).isSome = true := by
    simpa using ended
  obtain ⟨turn, isFound⟩ := Option.isSome_iff_exists.mp found
  simp only [shownFirst, List.find?_append, isFound, Option.some_or]

/-- The first page that ends at a time shows the first lines there. -/
theorem shownFirst_concat (none : ∀ turn ∈ turns, store.endOf? limit turn ≠ some time)
    (ends : store.endOf? limit turn = some time) :
    store.shownFirst limit (turns ++ [turn]) time
      = ((store.page turn limit).filter fun line => line.timestamp = time).length := by
  have notFound : (turns.find? fun turn => store.endOf? limit turn = some time) = Option.none := by
    simpa using none
  simp [shownFirst, List.find?_append, notFound, ends]

/-- Where no page ends, all lines come at once. -/
theorem shownFirst_of_none (none : ∀ turn ∈ turns, store.endOf? limit turn ≠ some time) :
    store.shownFirst limit turns time = (store.atTime time).length := by
  have notFound : (turns.find? fun turn => store.endOf? limit turn = some time) = Option.none := by
    simpa using none
  simp only [shownFirst, notFound]

/-- A page that ends elsewhere does not matter. -/
theorem shownFirst_concat_of_ne (elsewhere : store.endOf? limit turn ≠ some time) :
    store.shownFirst limit (turns ++ [turn]) time = store.shownFirst limit turns time := by
  by_cases ended : ∃ turn ∈ turns, store.endOf? limit turn = some time
  · exact shownFirst_append ended [turn]
  · have none : ∀ turn ∈ turns, store.endOf? limit turn ≠ some time :=
      fun turn among ends => ended ⟨turn, among, ends⟩
    have noneYet : ∀ other ∈ turns ++ [turn], store.endOf? limit other ≠ some time :=
      List.forall_mem_append.mpr ⟨none, by simpa using elsewhere⟩
    rw [shownFirst_of_none none, shownFirst_of_none noneYet]

/-- Where a page has ended, some lines have been shown. -/
theorem shownFirst_pos (ended : ∃ turn ∈ turns, store.endOf? limit turn = some time) :
    0 < store.shownFirst limit turns time ∧ store.atTime time ≠ [] := by
  have found : (turns.find? fun turn => store.endOf? limit turn = some time).isSome = true := by
    simpa using ended
  obtain ⟨turn, isFound⟩ := Option.isSome_iff_exists.mp found
  have ends : store.endOf? limit turn = some time := by simpa using List.find?_some isFound
  obtain ⟨-, ⟨line, onPage, atOnce⟩, -⟩ := endOf?_eq_some_iff.mp ends
  have shown : line ∈ (store.page turn limit).filter fun line => line.timestamp = time :=
    List.mem_filter.mpr ⟨onPage, decide_eq_true atOnce⟩
  simp only [shownFirst, isFound]
  exact ⟨List.length_pos_of_mem shown,
    List.ne_nil_of_mem (mem_atTime.mpr ⟨mem_lines_of_mem_page onPage, atOnce⟩)⟩

end ShownFirst

end Store
end RunLog
