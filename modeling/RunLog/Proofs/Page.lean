import Mathlib.Data.List.Perm.Subperm
import RunLog.Proofs.Store

/-!
# Pages

A page holds the first lines of a window, in the order of time; lines at one time come in the order
of their streams and of their places in them.  Whatever a page leaves out comes later, and what it
holds of a stream is the beginning of what the stream holds inside the window.

Of the lines at one time only the first ones fit on a page, as many as the page has room for.  A
line that fits and that a page leaves out comes after a line with an earlier time.
-/

namespace RunLog
namespace Store

/-- The lines of a store in a window, in the order of time. -/
def within (store : Store) (window : Window) : List StoredLine :=
  store.byTime.filter fun line => window.contains line.timestamp

/-- The first lines of a store in a window, at most as many as a limit says. -/
def page (store : Store) (window : Window) (limit : Nat) : List StoredLine :=
  (store.within window).take limit

/-- The lines of a store at one time. -/
def atTime (store : Store) (time : Int) : List StoredLine :=
  store.byTime.filter fun line => line.timestamp = time

/-- A line is among the first ones at its time, as many as a limit says. -/
def Fits (store : Store) (limit : Nat) (line : StoredLine) : Prop :=
  line ∈ (store.atTime line.timestamp).take limit

variable {store : Store} {window : Window} {limit : Nat} {line other : StoredLine}

theorem mem_within :
    line ∈ store.within window ↔ line ∈ store.lines ∧ window.contains line.timestamp = true := by
  simp [within]

theorem mem_atTime {time : Int} :
    line ∈ store.atTime time ↔ line ∈ store.lines ∧ line.timestamp = time := by
  simp [atTime]

theorem Fits.mem_lines (fits : store.Fits limit line) : line ∈ store.lines :=
  (mem_atTime.mp (List.mem_of_mem_take fits)).1

/-- Where no more lines share a time than fit on a page, all of them do. -/
theorem fits_of_length_atTime_le (present : line ∈ store.lines)
    (room : (store.atTime line.timestamp).length ≤ limit) : store.Fits limit line := by
  rw [Fits, List.take_of_length_le room]
  exact mem_atTime.mpr ⟨present, rfl⟩

theorem length_page_le (store : Store) (window : Window) (limit : Nat) :
    (store.page window limit).length ≤ limit :=
  List.length_take_le _ _

theorem nodup_page (store : Store) (window : Window) (limit : Nat) :
    (store.page window limit).Nodup :=
  (store.nodup_byTime.filter _).sublist (List.take_sublist _ _)

theorem mem_within_of_mem_page (present : line ∈ store.page window limit) :
    line ∈ store.within window :=
  List.mem_of_mem_take present

theorem mem_lines_of_mem_page (present : line ∈ store.page window limit) : line ∈ store.lines :=
  (mem_within.mp (mem_within_of_mem_page present)).1

theorem contains_of_mem_page (present : line ∈ store.page window limit) :
    window.contains line.timestamp = true :=
  (mem_within.mp (mem_within_of_mem_page present)).2

/-- A page that is not full holds all lines in its window. -/
theorem mem_page_of_not_full (room : (store.page window limit).length < limit)
    (inside : line ∈ store.within window) : line ∈ store.page window limit := by
  rw [page, List.length_take] at room
  rwa [page, List.take_of_length_le (by omega)]

/-- What a page leaves out comes no earlier than what is on it. -/
theorem timestamp_le_of_not_mem_page (onPage : other ∈ store.page window limit)
    (inside : line ∈ store.within window) (leftOut : line ∉ store.page window limit) :
    other.timestamp ≤ line.timestamp := by
  have sorted : (store.within window).Pairwise
      fun left right => left.timestamp ≤ right.timestamp :=
    store.pairwise_byTime.sublist List.filter_sublist
  rw [← List.take_append_drop limit (store.within window)] at sorted inside
  have later : line ∈ (store.within window).drop limit :=
    (List.mem_append.mp inside).resolve_left leftOut
  exact (List.pairwise_append.mp sorted).2.2 other onPage line later

/-- A window holds all lines at a time inside. -/
theorem filter_timestamp_within {time : Int} (inside : window.contains time = true) :
    ((store.within window).filter fun line => line.timestamp = time) = store.atTime time := by
  rw [within, List.filter_filter, atTime]
  apply List.filter_congr
  intro line _
  by_cases atOnce : line.timestamp = time <;> simp [atOnce, inside]

/-- The lines of a page at one time are the first ones at this time. -/
theorem filter_timestamp_page_isPrefix {time : Int} (inside : window.contains time = true) :
    ((store.page window limit).filter fun line => line.timestamp = time)
      <+: (store.atTime time).take limit := by
  refine List.prefix_take_iff.mpr ⟨?_, ?_⟩
  · rw [← filter_timestamp_within inside]
    exact (List.take_prefix _ _).filter _
  · exact Nat.le_trans (List.length_filter_le _ _) (length_page_le _ _ _)

/-- Every line on a page fits. -/
theorem fits_of_mem_page (present : line ∈ store.page window limit) : store.Fits limit line :=
  (filter_timestamp_page_isPrefix (contains_of_mem_page present)).subset
    (List.mem_filter.mpr ⟨present, by simp⟩)

/-- A line that fits and is left out of a page comes after an earlier one. -/
theorem exists_earlier_of_fits (fits : store.Fits limit line)
    (inside : window.contains line.timestamp = true) (leftOut : line ∉ store.page window limit) :
    ∃ earlier ∈ store.page window limit, earlier.timestamp < line.timestamp := by
  by_contra none
  have amongWithin : line ∈ store.within window := mem_within.mpr ⟨fits.mem_lines, inside⟩
  have full : (store.page window limit).length = limit := by
    refine Nat.le_antisymm (length_page_le _ _ _) (Nat.le_of_not_lt fun room => ?_)
    exact leftOut (mem_page_of_not_full room amongWithin)
  -- Then the whole page has the time of the line, and there is no room for it among the first.
  have atOnce : ∀ other ∈ store.page window limit, other.timestamp = line.timestamp := by
    intro other onPage
    apply Int.le_antisymm (timestamp_le_of_not_mem_page onPage amongWithin leftOut)
    exact Int.not_lt.mp fun earlier => none ⟨other, onPage, earlier⟩
  have whole : ((store.page window limit).filter fun other => other.timestamp = line.timestamp)
      = store.page window limit :=
    List.filter_eq_self.mpr fun other onPage => decide_eq_true (atOnce other onPage)
  have first : ((store.page window limit).filter fun other => other.timestamp = line.timestamp)
      <+: (store.atTime line.timestamp).take limit := filter_timestamp_page_isPrefix inside
  rw [whole] at first
  have same := first.eq_of_length
    (Nat.le_antisymm first.length_le (by rw [full]; exact List.length_take_le _ _))
  exact leftOut (same ▸ fits)

/-- Where all lines at a time are on one page, there are not more of them than fit. -/
theorem length_atTime_le_of_onPage {time : Int}
    (onPage : ∀ line, line ∈ store.lines → line.timestamp = time →
      line ∈ store.page window limit) : (store.atTime time).length ≤ limit := by
  have among : store.atTime time ⊆ store.page window limit := fun line present =>
    onPage line (mem_atTime.mp present).1 (mem_atTime.mp present).2
  exact Nat.le_trans (List.subperm_of_subset (store.nodup_byTime.filter _) among).length_le
    (length_page_le store window limit)

/-- A page of lines at one time holds no more than there are. -/
theorem length_page_le_atTime {time : Int}
    (atOnce : ∀ line ∈ store.page window limit, line.timestamp = time) :
    (store.page window limit).length ≤ (store.atTime time).length := by
  refine (List.subperm_of_subset (nodup_page store window limit) fun line onPage => ?_).length_le
  exact mem_atTime.mpr ⟨mem_lines_of_mem_page onPage, atOnce line onPage⟩

/-! ### The lines of a stream on a page -/

/-- What a page holds of a stream is the beginning of what the stream holds in the window. -/
theorem filter_labels_page_isPrefix {stream : StoredStream} (known : stream ∈ store.streams) :
    ((store.page window limit).filter fun line => line.labels = stream.labels)
      <+: stream.lines.filter fun line => window.contains line.timestamp := by
  have same : ((store.within window).filter fun line => line.labels = stream.labels)
      = stream.lines.filter fun line => window.contains line.timestamp := by
    rw [← filter_labels_byTime known, within, List.filter_filter, List.filter_filter]
    exact List.filter_congr fun line _ => Bool.and_comm _ _
  rw [← same]
  exact (List.take_prefix _ _).filter _

/-- The lines of a stream on a page have the occurrences that are counted on the page. -/
theorem ranked_filter_labels_page {stream : StoredStream} (known : stream ∈ store.streams) :
    StoredLine.Ranked []
      ((store.page window limit).filter fun line => line.labels = stream.labels) :=
  (stream.ranked_lines.filter window.contains).of_isPrefix (filter_labels_page_isPrefix known)

/-- Whatever comes in its stream before a line on a page is on it, if it is in the window. -/
theorem mem_page_of_before (onPage : line ∈ store.page window limit)
    (inside : other ∈ store.within window) (sameLabels : other.labels = line.labels)
    (before : other.sortKey.Before line.sortKey) : other ∈ store.page window limit := by
  obtain ⟨present, contained⟩ := mem_within.mp inside
  obtain ⟨stream, known, among⟩ := exists_stream_of_mem_lines present
  have labels := StoredStream.labels_of_mem_lines among
  have onPageOfStream : line ∈ (store.page window limit).filter
      fun line => line.labels = stream.labels :=
    List.mem_filter.mpr ⟨onPage, decide_eq_true (sameLabels.symm.trans labels)⟩
  have increasing := (StoredStream.pairwise_before_lines (store.inOrder stream known)).sublist
    (List.filter_sublist (p := fun line : StoredLine => window.contains line.timestamp))
  have amongStream : other ∈ stream.lines.filter fun line => window.contains line.timestamp :=
    List.mem_filter.mpr ⟨among, contained⟩
  have first : ((store.page window limit).filter fun line => line.labels = stream.labels)
      <+: stream.lines.filter fun line => window.contains line.timestamp :=
    filter_labels_page_isPrefix known
  obtain ⟨rest, whole⟩ := first
  rw [← whole] at increasing amongStream
  rcases List.mem_append.mp amongStream with first | later
  · exact (List.mem_filter.mp first).1
  · have after := (List.pairwise_append.mp increasing).2.2 line onPageOfStream other later
    exact absurd after (SortKey.not_before_of_before before)

end Store
end RunLog
