import RunLog.Proofs.Draining
import RunLog.Proofs.StableSorting
import RunLog.Proofs.Turning

/-!
# The order in which lines arrive

The lines at one time are answered stream by stream and read in the order of their occurrences, so
those of different streams mix.  A page can end among them.  Then the ones that it shows arrive
first and the others after them, each part in the order of occurrences: this is all that the order
of a log owes to its pages.  Where no page ends, the lines arrive at once.

A list in the order of some key is known from its parts with equal keys.  So what can be said about
the lines at one time is enough for the whole log.
-/

namespace RunLog

theorem SortKey.le_antisymm (first second : SortKey) (before : first.le second = true)
    (after : second.le first = true) : first = second := by
  cases first
  cases second
  simp only [le, decide_eq_true_eq, mk.injEq] at before after ⊢
  omega

namespace StoredLine

@[simp] theorem sorted_nil : sorted [] = [] := List.mergeSort_nil

theorem sorted_perm (lines : List StoredLine) : (sorted lines).Perm lines :=
  List.mergeSort_perm _ _

theorem filter_sortKey_sorted (lines : List StoredLine) (key : SortKey) :
    ((sorted lines).filter fun line => line.sortKey = key)
      = lines.filter fun line => line.sortKey = key :=
  filter_key_mergeSort SortKey.le sortKey SortKey.le_trans SortKey.le_total lines key

/-- To sort lines is to put them in order, where those at one position stay as they are. -/
theorem sorted_eq {lines ordered : List StoredLine}
    (inOrder : ordered.Pairwise fun left right => left.sortKey.le right.sortKey = true)
    (sameParts : ∀ key, (lines.filter fun line => line.sortKey = key)
      = ordered.filter fun line => line.sortKey = key) : sorted lines = ordered :=
  eq_of_filter_key_eq SortKey.le sortKey SortKey.le_antisymm SortKey.le_total
    (pairwise_sorted lines) inOrder fun key =>
      (filter_sortKey_sorted lines key).trans (sameParts key)

/-- What is chosen of sorted lines is sorted. -/
theorem filter_sorted (wanted : StoredLine → Bool) (lines : List StoredLine) :
    (sorted lines).filter wanted = sorted (lines.filter wanted) := by
  refine (sorted_eq ((pairwise_sorted lines).filter wanted) fun key => ?_).symm
  calc (lines.filter wanted).filter (fun line => line.sortKey = key)
      = (lines.filter fun line => line.sortKey = key).filter wanted := List.filter_comm _ _ _
    _ = ((sorted lines).filter fun line => line.sortKey = key).filter wanted := by
        rw [filter_sortKey_sorted]
    _ = ((sorted lines).filter wanted).filter (fun line => line.sortKey = key) :=
        List.filter_comm _ _ _

/-- Lines of which a page shows the first ones and a later page the others, as they arrive. -/
def inParts (shown : Nat) (lines : List StoredLine) : List StoredLine :=
  sorted (lines.take shown) ++ sorted (lines.drop shown)

theorem perm_inParts (shown : Nat) (lines : List StoredLine) :
    (inParts shown lines).Perm lines := by
  have perm : (inParts shown lines).Perm (lines.take shown ++ lines.drop shown) :=
    (sorted_perm _).append (sorted_perm _)
  rwa [List.take_append_drop] at perm

/-- Lines that are shown at once are in the order of occurrences. -/
theorem inParts_length (lines : List StoredLine) : inParts lines.length lines = sorted lines := by
  rw [inParts, List.take_length, List.drop_length, sorted_nil, List.append_nil]

/-- Where the occurrences do not decrease, it does not matter where a page ends. -/
theorem inParts_of_pairwise {lines : List StoredLine}
    (atOnce : ∀ first ∈ lines, ∀ second ∈ lines, first.timestamp = second.timestamp)
    (inOrder : lines.Pairwise fun left right => left.occurrence ≤ right.occurrence) (shown : Nat) :
    inParts shown lines = lines := by
  have increasing : lines.Pairwise fun left right => left.sortKey.le right.sortKey = true := by
    refine inOrder.imp_of_mem fun isLeft isRight notLater => decide_eq_true (Or.inr ⟨?_, notLater⟩)
    exact atOnce _ isLeft _ isRight
  have first : sorted (lines.take shown) = lines.take shown :=
    List.mergeSort_of_pairwise (increasing.sublist (List.take_sublist _ _))
  have others : sorted (lines.drop shown) = lines.drop shown :=
    List.mergeSort_of_pairwise (increasing.sublist (List.drop_sublist _ _))
  rw [inParts, first, others, List.take_append_drop]

end StoredLine

namespace Store

variable {store : Store} {window : Window} {limit : Nat}

theorem nodup_atTime (store : Store) (time : Int) : (store.atTime time).Nodup :=
  store.nodup_byTime.filter _

/-! ## Lines stream by stream -/

/-- The lines at one time come stream by stream. -/
theorem atTime_eq (store : Store) (time : Int) :
    store.atTime time = store.lines.filter fun line => line.timestamp = time :=
  filter_key_mergeSort (fun first second => decide (first ≤ second)) StoredLine.timestamp
    (fun _ _ _ before after => decide_eq_true
      (Int.le_trans (of_decide_eq_true before) (of_decide_eq_true after)))
    (fun first second => by simpa using Int.le_total first second) store.lines time

/-- Lines that come stream by stream are put together of those of the streams. -/
theorem flatMap_filter_labels_of_sublist {streams : List StoredStream}
    (apart : streams.Pairwise fun first second => first.labels ≠ second.labels)
    {lines : List StoredLine} (among : lines.Sublist (streams.flatMap StoredStream.lines)) :
    (streams.flatMap fun stream => lines.filter fun line => line.labels = stream.labels)
      = lines := by
  induction streams generalizing lines with
  | nil => exact (List.sublist_nil.mp among).symm
  | cons stream rest inductionHypothesis =>
    obtain ⟨differ, restApart⟩ := List.pairwise_cons.mp apart
    rw [List.flatMap_cons] at among
    obtain ⟨first, others, rfl, isFirst, areOthers⟩ := List.sublist_append_iff.mp among
    have ofFirst (line : StoredLine) (present : line ∈ first) : line.labels = stream.labels :=
      StoredStream.labels_of_mem_lines (isFirst.subset present)
    have ofOthers (line : StoredLine) (present : line ∈ others) : line.labels ≠ stream.labels := by
      obtain ⟨home, isHome, inHome⟩ := List.mem_flatMap.mp (areOthers.subset present)
      rw [StoredStream.labels_of_mem_lines inHome]
      exact (differ home isHome).symm
    have head : ((first ++ others).filter fun line => line.labels = stream.labels) = first := by
      rw [List.filter_append, List.filter_eq_self.mpr fun line present =>
          decide_eq_true (ofFirst line present),
        List.filter_eq_nil_iff.mpr fun line present => by simpa using ofOthers line present,
        List.append_nil]
    have tail : (rest.flatMap fun other =>
          (first ++ others).filter fun line => line.labels = other.labels)
        = rest.flatMap fun other => others.filter fun line => line.labels = other.labels := by
      refine List.flatMap_congr fun other known => ?_
      rw [List.filter_append, List.filter_eq_nil_iff.mpr fun line present => ?_, List.nil_append]
      rw [ofFirst line present]
      simpa using differ other known
    rw [List.flatMap_cons, head, tail, inductionHypothesis restApart areOthers]

theorem flatMap_filter_labels {lines : List StoredLine} (among : lines.Sublist store.lines) :
    (store.streams.flatMap fun stream => lines.filter fun line => line.labels = stream.labels)
      = lines := by
  refine flatMap_filter_labels_of_sublist ?_ among
  refine (List.pairwise_map.mp store.distinct).imp fun differ sameLabels => differ ?_
  rw [StoredStream.digest, StoredStream.digest, sameLabels]

/-- The lines at one time come in an answer as they come on the page. -/
theorem filter_timestamp_groups (time : Int) :
    (((store.groups window limit).flatMap Prod.snd).filter fun line => line.timestamp = time)
      = (store.page window limit).filter fun line => line.timestamp = time := by
  have withEmpty : (store.groups window limit).flatMap Prod.snd
      = store.streams.flatMap fun stream =>
        (store.page window limit).filter fun line => line.labels = stream.labels := by
    rw [groups]
    induction store.streams with
    | nil => rfl
    | cons stream rest inductionHypothesis =>
      simp only [List.map_cons, List.filter_cons, List.flatMap_cons, ← inductionHypothesis]
      cases (store.page window limit).filter fun line => line.labels = stream.labels <;> simp
  have among : ((store.page window limit).filter fun line => line.timestamp = time).Sublist
      store.lines := by
    have part : ((store.page window limit).filter fun line => line.timestamp = time).Sublist
        (store.atTime time) :=
      ((List.take_sublist _ _).trans List.filter_sublist).filter _
    rw [atTime_eq] at part
    exact part.trans List.filter_sublist
  rw [withEmpty, List.filter_flatMap, ← flatMap_filter_labels among]
  exact List.flatMap_congr fun stream _ => List.filter_comm _ _ _

/-- Where every line fits, all lines in a window are wanted. -/
theorem wanted_eq_within (room : ∀ time, (store.atTime time).length ≤ limit) :
    store.wanted window limit = store.within window :=
  List.filter_eq_self.mpr fun _ present =>
    decide_eq_true (fits_of_length_atTime_le (mem_within.mp present).1 (room _))

/-- Lines of a store with the same entries are the same. -/
theorem eq_of_map_entry_eq {first second : List StoredLine}
    (areFirst : ∀ line ∈ first, line ∈ store.lines)
    (areSecond : ∀ line ∈ second, line ∈ store.lines)
    (same : first.map StoredLine.entry = second.map StoredLine.entry) : first = second := by
  induction first generalizing second with
  | nil => exact (List.map_eq_nil_iff.mp same.symm).symm
  | cons line rest inductionHypothesis =>
    cases second with
    | nil => cases same
    | cons other others =>
      rw [List.map_cons, List.map_cons, List.cons.injEq] at same
      rw [List.forall_mem_cons] at areFirst areSecond
      rw [eq_of_entry_eq areFirst.1 areSecond.1 same.1,
        inductionHypothesis areFirst.2 areSecond.2 same.2]

/-- Lines of a window in the order in which they are handed out when it is asked for with pages of a
size. -/
structure Delivery (store : Store) (limit : Nat) (window : Window) (lines : List StoredLine) :
    Prop where
  /-- Every line of the window is handed out once. -/
  perm : lines.Perm (store.within window)
  /-- The lines come in the order of time. -/
  byTime : lines.Pairwise fun left right => left.timestamp ≤ right.timestamp
  /-- The lines of each stream come in its order. -/
  ofStream : ∀ stream ∈ store.streams, (lines.filter fun line => line.labels = stream.labels)
    = stream.lines.filter fun line => line ∈ store.within window
  /-- Where a page ends, the lines at the time come in two parts, those that the first such page
  shows and the others, and elsewhere in one, each in the order of occurrences. -/
  inParts : ∀ time, window.contains time = true →
    (lines.filter fun line => line.timestamp = time)
      = StoredLine.inParts (store.firstPart limit window time) (store.atTime time)

end Store

namespace Iterator

variable {ω δ : Type}

/-! ## Lines at one time -/

/-- The lines of a store at one time that have arrived after some pages: none, those that a page
showed which ended there, or all of them. -/
inductive Arrived (store : Store) (limit : Nat) (turns : List Window) (time : Int) :
    List StoredLine → Prop
  /-- No line has arrived, and no page has ended there. -/
  | none (noEnd : ∀ turn ∈ turns, store.endOf? limit turn ≠ some time) :
      Arrived store limit turns time []
  /-- A page has ended there. -/
  | partly (ended : ∃ turn ∈ turns, store.endOf? limit turn = some time) :
      Arrived store limit turns time
        (StoredLine.sorted ((store.atTime time).take (store.shownFirst limit turns time)))
  /-- All lines have arrived. -/
  | wholly :
      Arrived store limit turns time
        (StoredLine.inParts (store.shownFirst limit turns time) (store.atTime time))

/-- Surroundings that answer with pages list the lines of a page as they are read. -/
def Lists (env : Surroundings ω δ) (store : Store) (limit : Nat) (Asked : ω → Nat → Prop) : Prop :=
  ∀ {window world count batch closes later}, Asked world count →
    env.query window world = ((.ok batch, closes), later) →
    Entry.sorted batch.entries
      = (StoredLine.sorted ((store.groups window limit).flatMap Prod.snd)).map StoredLine.entry

/-- The accepted entries are those of lines of a store, as they arrive with the pages of a window;
the pages that were asked for are the first ones of the window, and all of them in the end. -/
structure Arrives (store : Store) (limit : Nat) (window : Window) (lines : List StoredLine)
    (stage : Stage) (run : Run ω δ) : Prop where
  known : ∀ line ∈ lines, line ∈ store.lines
  entries : acceptedEntries run.events = lines.map StoredLine.entry
  arrived : ∀ time, Arrived store limit (windowsAsked run.events) time
    (lines.filter fun line => line.timestamp = time)
  toCome : stage = .resting → run.iterator.exhausted = false →
    windowsAsked run.events ++ store.turns limit ⟨run.iterator.cursor, window.stop⟩
      = store.turns limit window
  asked : stage = .usedUp ∨ run.iterator.exhausted = true →
    windowsAsked run.events = store.turns limit window

/-- What is taken of some entries comes in their order. -/
theorem sublist_acceptAll (stop : Option Int) (entries : List Entry) (iterator : Iterator δ) :
    (acceptAll stop entries iterator).2.1.Sublist entries := by
  induction entries generalizing iterator with
  | nil => exact List.Sublist.refl []
  | cons entry rest inductionHypothesis =>
    rw [acceptAll]
    cases iterator.accept stop entry with
    | error failure => exact List.nil_sublist _
    | ok result =>
      obtain ⟨next, wasAccepted⟩ := result
      cases wasAccepted with
      | true => exact (inductionHypothesis next).cons_cons entry
      | false => exact (inductionHypothesis next).cons entry

/-- What is taken of a page comes in the order in which it is listed. -/
theorem Lists.sublist {env : Surroundings ω δ} {store : Store} {limit : Nat}
    {Asked : ω → Nat → Prop} (lists : Lists env store limit Asked) {window : Window}
    {world later : ω} {count : Nat} {batch : Batch} {closes : Bool} (counted : Asked world count)
    (answer : env.query window world = ((.ok batch, closes), later)) {stop : Option Int}
    {iterator next : Iterator δ} {fresh : List StoredLine} {failure : Option Failure}
    (acceptance : acceptAll stop (Entry.sorted batch.entries) iterator
      = (next, fresh.map StoredLine.entry, failure))
    (known : ∀ line ∈ fresh, line ∈ store.lines) :
    fresh.Sublist (StoredLine.sorted ((store.groups window limit).flatMap Prod.snd)) := by
  have inOrder := sublist_acceptAll stop (Entry.sorted batch.entries) iterator
  rw [acceptance, lists counted answer] at inOrder
  obtain ⟨listed, isListed, sameEntries⟩ := List.sublist_map_iff.mp inOrder
  rwa [Store.eq_of_map_entry_eq known (fun line among => ?_) sameEntries]
  exact Store.mem_lines_of_mem_page (Store.mem_flatMap_groups.mp
    ((StoredLine.sorted_perm _).subset (isListed.subset among)))

section TakeIn

variable {store : Store} {window : Window} {limit : Nat} {time : Int}
variable {lines fresh : List StoredLine}

/-- Of the lines of a page at one time, those that were not accepted before are taken in. -/
theorem filter_timestamp_fresh (nodup : (lines ++ fresh).Nodup)
    (isFresh : fresh.Sublist (StoredLine.sorted ((store.groups window limit).flatMap Prod.snd)))
    (covers : ∀ line ∈ store.page window limit, line ∈ lines ++ fresh) :
    (fresh.filter fun line => line.timestamp = time)
      = StoredLine.sorted
          (((store.page window limit).filter fun line => line.timestamp = time).filter
            fun line => line ∉ lines) := by
  obtain ⟨-, -, apart⟩ := List.nodup_append.mp nodup
  have unaccepted : ((fresh.filter fun line => line.timestamp = time).filter
      fun line => line ∉ lines) = fresh.filter fun line => line.timestamp = time := by
    refine List.filter_eq_self.mpr fun line present => decide_eq_true fun among => ?_
    exact apart line among line (List.mem_of_mem_filter present) rfl
  have inside := (isFresh.filter fun line => line.timestamp = time).filter fun line => line ∉ lines
  rw [unaccepted, StoredLine.filter_sorted, Store.filter_timestamp_groups, StoredLine.filter_sorted]
    at inside
  refine inside.eq_of_length_le (List.Subperm.length_le (List.subperm_of_subset ?_ ?_))
  · refine (StoredLine.sorted_perm _).nodup_iff.mpr ?_
    exact ((store.nodup_page window limit).filter _).filter _
  · intro line present
    obtain ⟨onPageAtOnce, notAccepted⟩ :=
      List.mem_filter.mp ((StoredLine.sorted_perm _).subset present)
    obtain ⟨onPage, atOnce⟩ := List.mem_filter.mp onPageAtOnce
    refine List.mem_filter.mpr ⟨?_, atOnce⟩
    exact (List.mem_append.mp (covers line onPage)).resolve_left (of_decide_eq_true notAccepted)

/-- What comes after the first members of a list without repetitions is what is not among them. -/
theorem filter_not_mem_take {members : List StoredLine} (nodup : members.Nodup) (count : Nat) :
    (members.filter fun line => line ∉ members.take count) = members.drop count := by
  have whole := nodup
  rw [← List.take_append_drop count members] at whole
  obtain ⟨-, -, apart⟩ := List.nodup_append.mp whole
  conv_lhs => rw [← List.take_append_drop count members]
  rw [List.filter_append, List.filter_eq_nil_iff.mpr, List.nil_append, List.filter_eq_self.mpr]
  · intro line later
    simpa using fun first => apart line first line later rfl
  · intro line first
    simpa using first

/-- The lines at one time of which none was accepted before. -/
theorem filter_not_mem_of_none {members : List StoredLine}
    (none : (lines.filter fun line => line.timestamp = time) = []) :
    ((members.filter fun line => line.timestamp = time).filter fun line => line ∉ lines)
      = members.filter fun line => line.timestamp = time := by
  refine List.filter_eq_self.mpr fun line present => decide_eq_true fun among => ?_
  exact List.filter_eq_nil_iff.mp none line among (List.mem_filter.mp present).2

/-- What is missing at one time is what is not among the lines that have arrived. -/
theorem filter_not_mem_of_perm {part : List StoredLine}
    (isPart : (lines.filter fun line => line.timestamp = time).Perm part) :
    ((store.atTime time).filter fun line => line ∉ lines)
      = (store.atTime time).filter fun line => line ∉ part := by
  refine List.filter_congr fun line present => ?_
  have among_iff := isPart.mem_iff (a := line)
  rw [List.mem_filter, and_iff_left (decide_eq_true (Store.mem_atTime.mp present).2)] at among_iff
  simp only [among_iff]

namespace Arrived

variable {turns : List Window} {turn : Window} {part : List StoredLine}

/-- A page that shows nothing at a time does not end there either. -/
theorem concat (arrived : Arrived store limit turns time part)
    (elsewhere : store.endOf? limit turn ≠ some time) :
    Arrived store limit (turns ++ [turn]) time part := by
  cases arrived with
  | none noEnd =>
    exact .none (List.forall_mem_append.mpr ⟨noEnd, by simpa using elsewhere⟩)
  | partly ended =>
    rw [← Store.shownFirst_concat_of_ne elsewhere]
    obtain ⟨other, among, ends⟩ := ended
    exact .partly ⟨other, List.mem_append_left _ among, ends⟩
  | wholly =>
    rw [← Store.shownFirst_concat_of_ne elsewhere]
    exact .wholly

/-- The first page with lines at some time shows all of them, or the first ones if it ends there. -/
theorem begin (noEnd : ∀ turn ∈ turns, store.endOf? limit turn ≠ some time)
    (inside : window.contains time = true) :
    Arrived store limit (turns ++ [window]) time
      (StoredLine.sorted ((store.page window limit).filter fun line => line.timestamp = time)) := by
  by_cases ends : store.endOf? limit window = some time
  · have isPrefix : ((store.page window limit).filter fun line => line.timestamp = time)
        <+: store.atTime time :=
      (Store.filter_timestamp_page_isPrefix inside).trans (List.take_prefix _ _)
    rw [List.prefix_iff_eq_take.mp isPrefix, ← Store.shownFirst_concat noEnd ends]
    exact .partly ⟨window, by simp, ends⟩
  · have noEndYet : ∀ turn ∈ turns ++ [window], store.endOf? limit turn ≠ some time :=
      List.forall_mem_append.mpr ⟨noEnd, by simpa using ends⟩
    rcases Store.filter_timestamp_page_cases inside ends with all | nothing
    · rw [all, ← StoredLine.inParts_length, ← Store.shownFirst_of_none noEndYet]
      exact .wholly
    · rw [nothing, StoredLine.sorted_nil]
      exact .none noEndYet

/-- A page with all lines at some time completes those that have arrived. -/
theorem complete (ended : ∃ turn ∈ turns, store.endOf? limit turn = some time)
    (isPart : (lines.filter fun line => line.timestamp = time)
      = StoredLine.sorted ((store.atTime time).take (store.shownFirst limit turns time))) :
    Arrived store limit (turns ++ [window]) time
      ((lines.filter fun line => line.timestamp = time)
        ++ StoredLine.sorted ((store.atTime time).filter fun line => line ∉ lines)) := by
  have missing : ((store.atTime time).filter fun line => line ∉ lines)
      = (store.atTime time).drop (store.shownFirst limit turns time) := by
    rw [filter_not_mem_of_perm (isPart ▸ StoredLine.sorted_perm _),
      filter_not_mem_take (store.nodup_atTime time)]
  rw [isPart, missing, ← Store.shownFirst_append ended [window]]
  exact .wholly

/-- Where all lines have arrived, a page with all of them shows nothing new. -/
theorem again (isPart : (lines.filter fun line => line.timestamp = time)
      = StoredLine.inParts (store.shownFirst limit turns time) (store.atTime time))
    (onPage : ((store.page window limit).filter fun line => line.timestamp = time)
      = store.atTime time) :
    Arrived store limit (turns ++ [window]) time
      ((lines.filter fun line => line.timestamp = time)
        ++ StoredLine.sorted ((store.atTime time).filter fun line => line ∉ lines)) := by
  have nothing : ((store.atTime time).filter fun line => line ∉ lines) = [] := by
    rw [filter_not_mem_of_perm (isPart ▸ StoredLine.perm_inParts _ _)]
    exact List.filter_eq_nil_iff.mpr (by simp)
  have sameFirst : store.shownFirst limit (turns ++ [window]) time
      = store.shownFirst limit turns time := by
    by_cases ended : ∃ turn ∈ turns, store.endOf? limit turn = some time
    · exact Store.shownFirst_append ended [window]
    · have noEnd : ∀ turn ∈ turns, store.endOf? limit turn ≠ some time :=
        fun turn among ends => ended ⟨turn, among, ends⟩
      by_cases ends : store.endOf? limit window = some time
      · rw [Store.shownFirst_concat noEnd ends, onPage, Store.shownFirst_of_none noEnd]
      · exact Store.shownFirst_concat_of_ne ends
  rw [nothing, StoredLine.sorted_nil, List.append_nil, isPart, ← sameFirst]
  exact .wholly

/-- A page begins at a time inside its window if a line at that time was accepted before, so it
shows all lines at that time. -/
theorem page_of_accepted (room : (store.atTime time).length ≤ limit)
    (inTime : ∀ line ∈ lines, line.timestamp ≤ window.start)
    (inside : window.contains time = true)
    (some : (lines.filter fun line => line.timestamp = time) ≠ []) :
    ((store.page window limit).filter fun line => line.timestamp = time) = store.atTime time := by
  refine Store.filter_timestamp_page_of_begins inside ?_ room
  obtain ⟨line, present⟩ := List.exists_mem_of_ne_nil _ some
  obtain ⟨among, atOnce⟩ := List.mem_filter.mp present
  have notLater := inTime line among
  rw [of_decide_eq_true atOnce] at notLater
  exact Int.le_antisymm (of_decide_eq_true inside).1 notLater

/-- It does so too if all lines at that time were accepted, even if there are none. -/
theorem page_of_all_accepted (room : (store.atTime time).length ≤ limit)
    (inTime : ∀ line ∈ lines, line.timestamp ≤ window.start)
    (inside : window.contains time = true)
    (all : (lines.filter fun line => line.timestamp = time).Perm (store.atTime time)) :
    ((store.page window limit).filter fun line => line.timestamp = time) = store.atTime time := by
  by_cases some : (lines.filter fun line => line.timestamp = time) = []
  · have noneThere : store.atTime time = [] := List.nil_perm.mp (some ▸ all)
    have shown : ((store.page window limit).filter fun line => line.timestamp = time)
        <+: (store.atTime time).take limit := Store.filter_timestamp_page_isPrefix inside
    rw [noneThere, List.take_nil] at shown
    rw [noneThere, List.prefix_nil.mp shown]
  · exact page_of_accepted room inTime inside some

/-- The lines at one time after those of a page that were not accepted before. -/
theorem takeIn (room : (store.atTime time).length ≤ limit) (nodup : (lines ++ fresh).Nodup)
    (inTime : ∀ line ∈ lines, line.timestamp ≤ window.start)
    (isFresh : fresh.Sublist (StoredLine.sorted ((store.groups window limit).flatMap Prod.snd)))
    (covers : ∀ line ∈ store.page window limit, line ∈ lines ++ fresh)
    (arrived : Arrived store limit turns time (lines.filter fun line => line.timestamp = time)) :
    Arrived store limit (turns ++ [window]) time
      ((lines ++ fresh).filter fun line => line.timestamp = time) := by
  rw [List.filter_append, filter_timestamp_fresh nodup isFresh covers]
  by_cases inside : window.contains time = true
  case neg =>
    have nothing : ((store.page window limit).filter fun line => line.timestamp = time) = [] := by
      refine List.filter_eq_nil_iff.mpr fun line onPage atOnce => inside ?_
      exact of_decide_eq_true atOnce ▸ Store.contains_of_mem_page onPage
    rw [nothing, List.filter_nil, StoredLine.sorted_nil, List.append_nil]
    exact arrived.concat fun ends => inside (Store.contains_of_endOf? ends)
  case pos =>
    generalize isPart : (lines.filter fun line => line.timestamp = time) = part at arrived
    cases arrived with
    | none noEnd =>
      rw [filter_not_mem_of_none isPart, List.nil_append]
      exact begin noEnd inside
    | partly ended =>
      obtain ⟨someShown, someThere⟩ := Store.shownFirst_pos ended
      have some : (lines.filter fun line => line.timestamp = time) ≠ [] := by
        rw [isPart, ← List.length_pos_iff, (StoredLine.sorted_perm _).length_eq, List.length_take]
        exact Nat.lt_min.mpr ⟨someShown, List.length_pos_iff.mpr someThere⟩
      rw [page_of_accepted room inTime inside some, ← isPart]
      exact complete ended isPart
    | wholly =>
      have onPage := page_of_all_accepted room inTime inside (isPart ▸ StoredLine.perm_inParts _ _)
      rw [onPage, ← isPart]
      exact again isPart onPage

end Arrived

end TakeIn

/-! ## On the way -/

section Steps

variable [WaitTime δ] {env : Surroundings ω δ} {store : Store} {start stop : Int} {limit : Nat}
  {Asked : ω → Nat → Prop} {stage stage' : Stage} {run run' : Run ω δ} {lines : List StoredLine}

namespace Arrives

omit [WaitTime δ] in
theorem begin (store : Store) (limit : Nat) (iterator : Iterator δ) (world : ω) (stop : Int)
    (notExhausted : iterator.exhausted = false) :
    Arrives store limit ⟨iterator.cursor, stop⟩ [] .resting (Run.start iterator world) where
  known := by simp
  entries := rfl
  arrived _ := .none (by simp [Run.start])
  toCome _ _ := rfl
  asked := by simp [Run.start, notExhausted]

omit [WaitTime δ] in
/-- No page was asked for. -/
theorem quiet {window : Window} (arrives : Arrives store limit window lines stage run)
    (entries : acceptedEntries run'.events = acceptedEntries run.events)
    (windows : windowsAsked run'.events = windowsAsked run.events)
    (toCome : stage' = .resting → run'.iterator.exhausted = false →
      stage = .resting ∧ run.iterator.exhausted = false
        ∧ run'.iterator.cursor = run.iterator.cursor)
    (asked : stage' = .usedUp ∨ run'.iterator.exhausted = true →
      windowsAsked run.events = store.turns limit window) :
    Arrives store limit window lines stage' run' where
  known := arrives.known
  entries := entries.trans arrives.entries
  arrived time := by
    rw [windows]
    exact arrives.arrived time
  toCome resting notExhausted := by
    obtain ⟨wasResting, wasNotExhausted, sameCursor⟩ := toCome resting notExhausted
    rw [windows, sameCursor]
    exact arrives.toCome wasResting wasNotExhausted
  asked isOver := windows.trans (asked isOver)

omit [WaitTime δ] in
/-- A page is taken in without a failure, and what is new on it in the order in which it is
listed. -/
theorem exists_fresh (pages : Pages env (fun _ => store) limit Asked)
    (lists : Lists env store limit Asked) (positive : 0 < limit)
    (underway : Underway store start stop limit Asked .resting run)
    (arrives : Arrives store limit ⟨start, stop⟩ lines .resting run) {known : Option Int}
    {windowStop : Int} (hungry : Hungry run.iterator known)
    (opened : run.iterator.windowStop = some windowStop)
    (inside : run.iterator.cursor < windowStop) {batch : Batch} {world : ω}
    (answer : env.query ⟨run.iterator.cursor, windowStop⟩ run.world = ((.ok batch, false), world))
    {next : Iterator δ} {taken : List Entry} {failure : Option Failure}
    (acceptance : acceptAll known (Entry.sorted batch.entries) run.iterator
      = (next, taken, failure)) :
    failure = none ∧ ∃ fresh : List StoredLine, taken = fresh.map StoredLine.entry
      ∧ (∀ line ∈ lines, line.timestamp ≤ run.iterator.cursor)
      ∧ (∀ line ∈ fresh, line ∈ store.lines) ∧ (lines ++ fresh).Nodup
      ∧ fresh.Sublist (StoredLine.sorted
          ((store.groups ⟨run.iterator.cursor, windowStop⟩ limit).flatMap Prod.snd))
      ∧ (∀ line ∈ store.page ⟨run.iterator.cursor, windowStop⟩ limit, line ∈ lines ++ fresh)
      ∧ store.endOf? limit ⟨run.iterator.cursor, windowStop⟩ = batch.next := by
  obtain ⟨accepted, paged⟩ := underway.paged
  obtain rfl : lines = accepted := Store.eq_of_map_entry_eq arrives.known
    (fun line among => Underway.mem_lines_of_paged paged among)
    (arrives.entries.symm.trans paged.entries)
  have inTime := paged.inTime (Or.inl ⟨by simp, hungry.notClosed, hungry.notExhausted⟩)
  obtain ⟨rfl, fresh, rfl, rfl, takenIn⟩ := paged.taken pages
    (Store.evolves_constant positive store) positive underway.tally hungry opened inside answer
    acceptance
  have freshKnown (line : StoredLine) (isFresh : line ∈ fresh) : line ∈ store.lines :=
    Store.mem_lines_of_mem_page (takenIn.onPage line isFresh)
  have listed := lists.sublist paged.count answer acceptance freshKnown
  exact ⟨rfl, fresh, rfl, inTime, freshKnown, takenIn.books.ledger.nodup, listed, takenIn.covers,
    Store.endOf?_of_isPage (pages.page paged.count answer)⟩

omit [WaitTime δ] in
/-- A page is taken in.  If it is full, the pages from its end on are to come; if it is not, there
is no other one. -/
theorem takeIn (pages : Pages env (fun _ => store) limit Asked)
    (lists : Lists env store limit Asked) (positive : 0 < limit)
    (room : ∀ time, (store.atTime time).length ≤ limit)
    (underway : Underway store start stop limit Asked .resting run)
    (arrives : Arrives store limit ⟨start, stop⟩ lines .resting run) {known : Option Int}
    {windowStop : Int} (hungry : Hungry run.iterator known)
    (opened : run.iterator.windowStop = some windowStop)
    (inside : run.iterator.cursor < windowStop) {batch : Batch} {world : ω}
    (answer : env.query ⟨run.iterator.cursor, windowStop⟩ run.world = ((.ok batch, false), world))
    {next : Iterator δ} {taken : List Entry} {failure : Option Failure}
    (acceptance : acceptAll known (Entry.sorted batch.entries) run.iterator
      = (next, taken, failure))
    (entries : acceptedEntries run'.events = acceptedEntries run.events ++ taken)
    (windows : windowsAsked run'.events
      = windowsAsked run.events ++ [⟨run.iterator.cursor, windowStop⟩])
    (goesOn : ∀ cursor, batch.next = some cursor → stage' = .resting
      ∧ run'.iterator.exhausted = false
      ∧ run'.iterator.cursor = max cursor (run.iterator.cursor + 1))
    (isOver : batch.next = none → stage' = .usedUp) :
    ∃ lines, Arrives store limit ⟨start, stop⟩ lines stage' run' := by
  obtain ⟨-, fresh, rfl, inTime, freshKnown, nodup, listed, covers, ends⟩ :=
    exists_fresh pages lists positive underway arrives hungry opened inside answer acceptance
  obtain rfl : windowStop = stop := underway.windowStop _ opened
  have toCome := arrives.toCome rfl hungry.notExhausted
  refine ⟨lines ++ fresh, List.forall_mem_append.mpr ⟨arrives.known, freshKnown⟩, ?_,
    fun time => ?_, fun resting _ => ?_, fun ended => ?_⟩
  · rw [entries, arrives.entries, List.map_append]
  · rw [windows]
    exact (arrives.arrived time).takeIn (room time) nodup inTime listed covers
  · cases full : batch.next with
    | none => cases resting.symm.trans (isOver full)
    | some cursor =>
      rw [Store.turns_of_some inside (ends.trans full)] at toCome
      rw [windows, (goesOn cursor full).2.2, List.append_assoc]
      exact toCome
  · cases full : batch.next with
    | none =>
      rw [Store.turns_of_none inside (ends.trans full)] at toCome
      rw [windows]
      exact toCome
    | some cursor =>
      obtain ⟨resting, notExhausted, -⟩ := goesOn cursor full
      rcases ended with usedUp | exhausted
      · cases resting.symm.trans usedUp
      · exact absurd exhausted (ne_true_of_eq_false notExhausted)

/-- Every move keeps the order in which lines arrive. -/
theorem move (pages : Pages env (fun _ => store) limit Asked)
    (lists : Lists env store limit Asked) (positive : 0 < limit)
    (answers : Answers env Asked start stop) (room : ∀ time, (store.atTime time).length ≤ limit)
    (move : Move env (stage, run) (stage', run'))
    (underway : Underway store start stop limit Asked stage run)
    (arrives : Arrives store limit ⟨start, stop⟩ lines stage run) :
    ∃ lines, Arrives store limit ⟨start, stop⟩ lines stage' run' := by
  have answered {windowStop : Int} (opened : run.iterator.windowStop = some windowStop) :
      ∃ batch later, env.query ⟨run.iterator.cursor, windowStop⟩ run.world
        = ((.ok batch, false), later) := by
    obtain ⟨accepted, paged⟩ := underway.paged
    exact answers _ run.world _ paged.count paged.ledger.ahead
      (Int.le_of_eq (underway.windowStop _ opened))
  cases move with
  | resume _ _ due => exact absurd due (ne_true_of_eq_false underway.notDue)
  | openFirst hungry unopened opening =>
    have notExhausted := hungry.notExhausted
    refine ⟨lines, arrives.quiet (by simp [Run.advance, acceptedEntries_of_opening opening])
      (by simp [Run.advance, (quiet_of_opening opening).1]) ?_
      (by simp [Run.advance, notExhausted])⟩
    exact fun _ _ => ⟨rfl, notExhausted, rfl⟩
  | useUp hungry opened past =>
    refine ⟨lines, arrives.quiet rfl rfl (by simp) fun _ => ?_⟩
    have empty : stop ≤ run.iterator.cursor := underway.windowStop _ opened ▸ past
    have toCome := arrives.toCome rfl hungry.notExhausted
    rwa [Store.turns_of_le empty, List.append_nil] at toCome
  | failQuery hungry opened inside answer =>
    obtain ⟨batch, later, isAnswered⟩ := answered opened
    cases isAnswered.symm.trans answer
  | dropPage hungry opened inside answer =>
    obtain ⟨batch, later, isAnswered⟩ := answered opened
    cases isAnswered.symm.trans answer
  | breakOff hungry opened inside answer acceptance =>
    cases (exists_fresh pages lists positive underway arrives hungry opened inside answer
      acceptance).1
  | @turnPage _ _ windowStop batch world next taken cursor hungry opened inside answer acceptance
      full =>
    have same := sameBut_of_acceptance acceptance
    refine arrives.takeIn pages lists positive room underway hungry opened inside answer acceptance
      ?_ ?_ (fun known isKnown => ?_) fun none => by cases full.symm.trans none
    · simp [Run.after, Run.advance, pageEvent, Event.entry?]
    · simp only [Run.after, Run.advance, windowsAsked_append, windowsAsked_page,
        windowsAsked_follow, List.append_nil]
    · cases full.symm.trans isKnown
      refine ⟨rfl, ?_, ?_⟩
      · simpa [Run.after, Run.advance, follow_eq, countTaken] using
          same.exhausted.trans hungry.notExhausted
      · simp only [Run.after, Run.advance, follow_eq, cursor_advance, countTaken, same.cursor]
        omega
  | @lastPage _ _ windowStop batch world next taken hungry opened inside answer acceptance
      notFull =>
    refine arrives.takeIn pages lists positive room underway hungry opened inside answer acceptance
      ?_ ?_ (fun known isKnown => by cases notFull.symm.trans isKnown) fun _ => rfl
    · simp [Run.advance, pageEvent, Event.entry?]
    · rw [Run.advance, windowsAsked_append, windowsAsked_page]
  | finish => exact ⟨lines, arrives.quiet rfl rfl (by simp) fun _ => arrives.asked (Or.inl rfl)⟩
  | renew _ _ notLast | giveUp _ _ notLast | postpone _ _ notLast | beginWait _ _ notLast =>
    exact absurd (underway.isLastWindow _ _) (ne_true_of_eq_false notLast)
  | failWait | breakWait | endWait => exact absurd rfl underway.notWaiting
  | handOut | close =>
    exact ⟨lines, arrives.quiet rfl rfl (fun _ notExhausted => ⟨rfl, notExhausted, rfl⟩)
      arrives.asked⟩

end Arrives

/-- Whatever moves a run is made of, its accepted entries are those of lines as they arrive. -/
theorem Underway.arrives_along (pages : Pages env (fun _ => store) limit Asked)
    (lists : Lists env store limit Asked) (positive : 0 < limit)
    (answers : Answers env Asked start stop) (room : ∀ time, (store.atTime time).length ≤ limit)
    (underway : Underway store start stop limit Asked stage run)
    (arrives : ∃ lines, Arrives store limit ⟨start, stop⟩ lines stage run)
    (path : Path env (stage, run) (stage', run')) :
    ∃ lines, Arrives store limit ⟨start, stop⟩ lines stage' run' := by
  let Invariant (stage : Stage) (run : Run ω δ) : Prop :=
    Underway store start stop limit Asked stage run
      ∧ ∃ lines, Arrives store limit ⟨start, stop⟩ lines stage run
  refine (path.invariant Invariant ?_ ⟨underway, arrives⟩).2
  rintro stage run stage' run' move ⟨underway, lines, arrives⟩
  exact ⟨underway.along pages positive (Path.single move),
    arrives.move pages lists positive answers room move underway⟩

/-! ## At the end -/

omit [WaitTime δ]

/-- Lines of which all have arrived came in at most two parts. -/
theorem Arrived.eq_inParts {turns : List Window} {time : Int} {lines : List StoredLine}
    (arrived : Arrived store limit turns time lines) (perm : lines.Perm (store.atTime time)) :
    lines = StoredLine.inParts (store.shownFirst limit turns time) (store.atTime time) := by
  cases arrived with
  | wholly => rfl
  | none =>
    rw [List.nil_perm.mp perm, StoredLine.inParts, List.take_nil, List.drop_nil,
      StoredLine.sorted_nil, List.append_nil]
  | partly =>
    have enough : (store.atTime time).length ≤ store.shownFirst limit turns time := by
      have shown := perm.length_eq
      rw [(StoredLine.sorted_perm _).length_eq, List.length_take] at shown
      omega
    rw [StoredLine.inParts, List.drop_of_length_le enough, StoredLine.sorted_nil, List.append_nil]

/-- Once an iterator is exhausted and has nothing ready, the lines of the scope were delivered. -/
theorem Underway.delivered_of_arrives (positive : 0 < limit)
    (room : ∀ time, (store.atTime time).length ≤ limit)
    (underway : Underway store start stop limit Asked stage run)
    (arrives : ∃ lines, Arrives store limit ⟨start, stop⟩ lines stage run)
    (notClosed : run.iterator.closed = false) (exhausted : run.iterator.exhausted = true)
    (nothingReady : run.iterator.ready = []) :
    ∃ lines : List StoredLine, run.delivered = Entry.numbered (lines.map StoredLine.entry)
      ∧ store.Delivery limit ⟨start, stop⟩ lines := by
  obtain ⟨lines, arrives⟩ := arrives
  obtain ⟨accepted, paged⟩ := underway.paged
  obtain rfl : lines = accepted := Store.eq_of_map_entry_eq arrives.known
    (fun line among => Underway.mem_lines_of_paged paged among)
    (arrives.entries.symm.trans paged.entries)
  have finishing := underway.toFinishing
  have perm := Underway.perm_wanted positive finishing paged exhausted
  have ofStream {stream : StoredStream} (known : stream ∈ store.streams) :=
    Underway.filter_labels_accepted positive finishing paged exhausted known
  rw [Store.wanted_eq_within room] at perm ofStream
  refine ⟨lines, underway.delivered_eq arrives.entries notClosed nothingReady, perm, ?_,
    fun stream known => ofStream known, fun time inside => ?_⟩
  · have inOrder := underway.tally.inOrder
    rw [arrives.entries, List.pairwise_map] at inOrder
    exact inOrder
  · rw [Store.firstPart, ← arrives.asked (Or.inr exhausted)]
    refine (arrives.arrived time).eq_inParts ?_
    have atOnce := perm.filter fun line => line.timestamp = time
    rwa [Store.filter_timestamp_within inside] at atOnce

end Steps

end Iterator
end RunLog
