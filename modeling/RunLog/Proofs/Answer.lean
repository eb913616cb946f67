import Mathlib.Logic.Basic
import RunLog.Proofs.Decimals
import RunLog.Proofs.Page
import RunLog.Proofs.Reading

/-!
# The answer with a page

A backend answers with a page stream by stream: the labels of each stream, and the times and the
texts of its lines on the page.  What is read of such an answer are the entries of the page.  The
numbers that the reader gives them are the occurrences of the lines, because a page holds the
beginning of what a stream holds in the window.

Times are written as decimal texts.  An answer is refused as a whole if one of them has too many
digits to be read.
-/

namespace RunLog

/-! ## Writing an answer -/

/-- A line as an answer gives it. -/
def StoredLine.value (line : StoredLine) : Json :=
  .list [.text (Text.ofInt line.timestamp), .text line.text]

namespace Store

/-- A stream as an answer gives it, with some of its lines. -/
def streamAnswer (labels : List (Text × Text)) (lines : List StoredLine) : Json :=
  .object [("stream", .object (labels.map fun (name, value) => (name, .text value))),
    ("values", .list (lines.map StoredLine.value))]

/-- The lines on a page, stream by stream. -/
def groups (store : Store) (window : Window) (limit : Nat) :
    List (List (Text × Text) × List StoredLine) :=
  let group (stream : StoredStream) :=
    (stream.labels, (store.page window limit).filter fun line => line.labels = stream.labels)
  (store.streams.map group).filter fun group => !group.2.isEmpty

/-- The answer to a query for a page. -/
def answer (store : Store) (window : Window) (limit : Nat) : Json :=
  let result := (store.groups window limit).map fun group => streamAnswer group.1 group.2
  .object [("status", .text "success"),
    ("data", .object [("resultType", .text "streams"), ("result", .list result)])]

variable {store : Store} {window : Window} {limit : Nat}

/-- A group holds what a page holds of a stream. -/
theorem exists_stream_of_mem_groups {group : List (Text × Text) × List StoredLine}
    (present : group ∈ store.groups window limit) :
    ∃ stream ∈ store.streams, group = (stream.labels,
      (store.page window limit).filter fun line => line.labels = stream.labels) := by
  obtain ⟨stream, known, same⟩ := List.mem_map.mp (List.mem_of_mem_filter present)
  exact ⟨stream, known, same.symm⟩

theorem mem_flatMap_groups {line : StoredLine} :
    line ∈ (store.groups window limit).flatMap Prod.snd ↔ line ∈ store.page window limit := by
  constructor
  · intro present
    obtain ⟨group, known, among⟩ := List.mem_flatMap.mp present
    obtain ⟨stream, -, rfl⟩ := exists_stream_of_mem_groups known
    exact List.mem_of_mem_filter among
  · intro onPage
    obtain ⟨stream, known, among⟩ := exists_stream_of_mem_lines (mem_lines_of_mem_page onPage)
    have labels := StoredStream.labels_of_mem_lines among
    have inGroup : line ∈ (store.page window limit).filter
        fun line => line.labels = stream.labels :=
      List.mem_filter.mpr ⟨onPage, decide_eq_true labels⟩
    refine List.mem_flatMap.mpr ⟨(stream.labels, _), List.mem_filter.mpr ⟨?_, ?_⟩, inGroup⟩
    · exact List.mem_map_of_mem known
    · simpa using List.ne_nil_of_mem inGroup

theorem nodup_flatMap_groups (store : Store) (window : Window) (limit : Nat) :
    ((store.groups window limit).flatMap Prod.snd).Nodup := by
  refine List.nodup_flatMap.mpr ⟨fun group known => ?_, ?_⟩
  · obtain ⟨stream, -, rfl⟩ := exists_stream_of_mem_groups known
    exact (nodup_page store window limit).filter _
  · refine List.Pairwise.filter _ (List.pairwise_map.mpr ?_)
    refine (List.pairwise_map.mp store.distinct).imp fun differ => ?_
    apply List.disjoint_left.mpr
    intro line inFirst inSecond
    have first := of_decide_eq_true (List.mem_filter.mp inFirst).2
    have second := of_decide_eq_true (List.mem_filter.mp inSecond).2
    exact differ (by rw [StoredStream.digest, StoredStream.digest, ← first, ← second])

/-- Stream by stream, the lines on a page are the same. -/
theorem perm_flatMap_groups (store : Store) (window : Window) (limit : Nat) :
    ((store.groups window limit).flatMap Prod.snd).Perm (store.page window limit) :=
  (List.perm_ext_iff_of_nodup (nodup_flatMap_groups store window limit)
    (nodup_page store window limit)).mpr fun _ => mem_flatMap_groups

theorem ranked_of_mem_groups {group : List (Text × Text) × List StoredLine}
    (present : group ∈ store.groups window limit) : StoredLine.Ranked [] group.2 := by
  obtain ⟨stream, known, rfl⟩ := exists_stream_of_mem_groups present
  exact ranked_filter_labels_page known

end Store

/-! ## Reading an answer -/

namespace Batch

open Numeral (Legible)

variable {room : Int} {window : Window}

/-- The time of a line is read as it is, unless it has too many digits. -/
theorem timestamp_ofInt (number : Int) :
    timestamp (.text (Text.ofInt number))
      = if Legible number then .ok number else wrong .wrongValue := by
  rw [timestamp, Numeral.int?_ofInt]
  split <;> split <;> simp_all

/-- What is known about the lines of a group before they are read. -/
structure Readable (window : Window) (labels : Labels) (lines : List StoredLine) : Prop where
  contained : ∀ line ∈ lines, window.contains line.timestamp = true
  plain : ∀ line ∈ lines, line.text.hasSurrogate = false
  labels : ∀ line ∈ lines, Labels.ofTexts line.labels = labels

theorem readable_of_mem_groups {store : Store} {limit : Nat}
    {group : List (Text × Text) × List StoredLine} (present : group ∈ store.groups window limit) :
    Readable window (Labels.ofTexts group.1) group.2 := by
  obtain ⟨stream, known, rfl⟩ := Store.exists_stream_of_mem_groups present
  refine ⟨fun line among => ?_, fun line among => ?_, fun line among => ?_⟩
  · exact Store.contains_of_mem_page (List.mem_of_mem_filter among)
  · exact Store.plain_of_mem_lines (Store.mem_lines_of_mem_page (List.mem_of_mem_filter among))
  · rw [of_decide_eq_true (List.mem_filter.mp among).2]

theorem Readable.sublist {labels : Labels} {some lines : List StoredLine}
    (readable : Readable window labels lines) (among : some.Sublist lines) :
    Readable window labels some :=
  ⟨fun line present => readable.contained line (among.subset present),
    fun line present => readable.plain line (among.subset present),
    fun line present => readable.labels line (among.subset present)⟩

/-- What was read, after some more lines. -/
def Reading.add (reading : Reading) (lines : List StoredLine) : Reading :=
  ⟨(lines.map StoredLine.entry).reverse ++ reading.entries,
    (lines.map StoredLine.timestamp).reverse ++ reading.timestamps⟩

/-- The result of reading lines of which every one has to be legible. -/
def whenLegible (lines : List StoredLine) (reading : Reading) : Except Failure Reading :=
  if ∀ line ∈ lines, Legible line.timestamp then .ok (reading.add lines) else wrong .wrongValue

@[simp] theorem Reading.add_nil (reading : Reading) : reading.add [] = reading := rfl

theorem Reading.add_append (reading : Reading) (first second : List StoredLine) :
    reading.add (first ++ second) = (reading.add first).add second := by
  simp [add]

@[simp] theorem whenLegible_nil (reading : Reading) : whenLegible [] reading = .ok reading := by
  simp [whenLegible]

/-- Lines are read in two parts. -/
theorem whenLegible_append (first second : List StoredLine) (reading : Reading) :
    whenLegible (first ++ second) reading
      = (whenLegible first reading >>= fun reading => whenLegible second reading) := by
  unfold whenLegible
  by_cases firstLegible : ∀ line ∈ first, Legible line.timestamp
  · by_cases secondLegible : ∀ line ∈ second, Legible line.timestamp
    · have both : ∀ line ∈ first ++ second, Legible line.timestamp := fun line present =>
        (List.mem_append.mp present).elim (firstLegible line) (secondLegible line)
      rw [if_pos both, if_pos firstLegible, Reading.add_append]
      exact (if_pos secondLegible).symm
    · have neither : ¬∀ line ∈ first ++ second, Legible line.timestamp := fun both =>
        secondLegible fun line present => both line (List.mem_append_right first present)
      rw [if_neg neither, if_pos firstLegible]
      exact (if_neg secondLegible).symm
  · have neither : ¬∀ line ∈ first ++ second, Legible line.timestamp := fun both =>
      firstLegible fun line present => both line (List.mem_append_left second present)
    rw [if_neg neither, if_neg firstLegible]
    rfl

theorem readValue_value {labels : Labels} {earlier : List Int} {line : StoredLine}
    (readable : Readable window labels [line])
    (occurrence : line.occurrence = earlier.count line.timestamp) :
    readValue room window labels earlier line.value
      = if Legible line.timestamp then .ok (line.timestamp, some line.entry)
        else wrong .wrongValue := by
  have contained := readable.contained line (by simp)
  have bytes := Text.utf8?_of_plain (readable.plain line (by simp))
  by_cases legible : Legible line.timestamp
  · simp [readValue, StoredLine.value, item, timestamp_ofInt, legible, contained, Batch.line, bytes,
      StoredLine.entry, occurrence, readable.labels line (by simp), bind, Except.bind, pure,
      Except.pure]
  · simp [readValue, StoredLine.value, item, timestamp_ofInt, legible, wrong, bind, Except.bind]

/-- The values of a stream are read as its lines. -/
theorem readValues_values {labels : Labels} {lines : List StoredLine} :
    ∀ {earlier : List Int} (reading : Reading), StoredLine.Ranked earlier lines →
      Readable window labels lines →
      readValues room window labels earlier (lines.map StoredLine.value) reading
        = whenLegible lines reading := by
  induction lines with
  | nil =>
    intro earlier reading _ _
    rw [whenLegible_nil]
    rfl
  | cons line rest inductionHypothesis =>
    intro earlier reading ranked readable
    obtain ⟨occurrence, others⟩ := StoredLine.ranked_cons.mp ranked
    have first : Readable window labels [line] := readable.sublist (by simp)
    have onward := inductionHypothesis (reading.add [line]) others
      (readable.sublist (List.sublist_cons_self _ _))
    rw [← List.singleton_append, whenLegible_append, List.map_append, List.map_singleton,
      List.singleton_append, readValues, readValue_value first occurrence]
    by_cases legible : Legible line.timestamp
    · rw [if_pos legible]
      have single : whenLegible [line] reading = .ok (reading.add [line]) :=
        if_pos (by simpa using legible)
      rw [single]
      exact onward
    · rw [if_neg legible]
      have single : whenLegible [line] reading = wrong .wrongValue :=
        if_neg (by simpa using legible)
      rw [single]
      rfl

theorem labels_streamAnswer (labels : List (Text × Text)) (lines : List StoredLine) :
    (member "stream" (Store.streamAnswer labels lines) >>= Batch.labels)
      = .ok (Labels.ofTexts labels) := by
  cases labels <;> rfl

theorem values_streamAnswer (labels : List (Text × Text)) (lines : List StoredLine) :
    (member "values" (Store.streamAnswer labels lines) >>= optionalItems)
      = .ok (lines.map StoredLine.value) := by
  cases lines <;> rfl

theorem readStream_streamAnswer {labels : List (Text × Text)} {lines : List StoredLine}
    (reading : Reading) (ranked : StoredLine.Ranked [] lines)
    (readable : Readable window (Labels.ofTexts labels) lines) :
    readStream room window reading (Store.streamAnswer labels lines)
      = whenLegible lines reading := by
  have parts : readStream room window reading (Store.streamAnswer labels lines)
      = (member "stream" (Store.streamAnswer labels lines) >>= Batch.labels) >>= fun found =>
        (member "values" (Store.streamAnswer labels lines) >>= optionalItems) >>= fun values =>
        readValues room window found [] values reading := by
    simp only [readStream, bind_assoc]
  rw [parts, labels_streamAnswer, values_streamAnswer]
  exact readValues_values reading ranked readable

/-- The streams of an answer are read one after the other. -/
theorem foldlM_readStream {groups : List (List (Text × Text) × List StoredLine)}
    (reading : Reading)
    (ranked : ∀ group ∈ groups, StoredLine.Ranked [] group.2)
    (readable : ∀ group ∈ groups, Readable window (Labels.ofTexts group.1) group.2) :
    (groups.map fun group => Store.streamAnswer group.1 group.2).foldlM (readStream room window)
        reading
      = whenLegible (groups.flatMap Prod.snd) reading := by
  induction groups generalizing reading with
  | nil => exact (whenLegible_nil reading).symm
  | cons group rest inductionHypothesis =>
    rw [List.map_cons, List.foldlM_cons, List.flatMap_cons, whenLegible_append,
      readStream_streamAnswer reading (ranked group List.mem_cons_self)
        (readable group List.mem_cons_self)]
    refine bind_congr fun middle => inductionHypothesis middle ?_ ?_
    · exact fun other present => ranked other (List.mem_cons_of_mem _ present)
    · exact fun other present => readable other (List.mem_cons_of_mem _ present)

/-- An answer is read stream by stream. -/
theorem ofResponse_answer (store : Store) (limit : Nat) (room pageSize : Int) :
    ofResponse room pageSize window (store.answer window limit)
      = (whenLegible ((store.groups window limit).flatMap Prod.snd) ⟨[], []⟩).map
          (ofReading pageSize) := by
  have found : streams (store.answer window limit)
      = .ok ((store.groups window limit).map fun group => Store.streamAnswer group.1 group.2) := by
    cases groups : store.groups window limit <;> simp only [Store.answer, groups] <;> rfl
  have reads : ofResponse room pageSize window (store.answer window limit)
      = (streams (store.answer window limit) >>= fun found =>
          found.foldlM (readStream room window) ⟨[], []⟩) >>= fun reading =>
        pure (ofReading pageSize reading) := by
    rw [bind_assoc]
    rfl
  rw [reads, found]
  change ((store.groups window limit).map fun group =>
    Store.streamAnswer group.1 group.2).foldlM (readStream room window) ⟨[], []⟩ >>= _ = _
  rw [foldlM_readStream _ (fun _ present => Store.ranked_of_mem_groups present)
    (fun _ present => readable_of_mem_groups present)]
  cases whenLegible ((store.groups window limit).flatMap Prod.snd) ⟨[], []⟩ <;> rfl

/-! ## The entries of a page -/

/-- A batch is the page of a store in a window, as it was read. -/
structure IsPage (store : Store) (window : Window) (limit : Nat) (batch : Batch) : Prop where
  /-- Its entries are those of the lines on the page, in the order of their positions. -/
  entries : ∃ lines : List StoredLine, lines.Perm (store.page window limit)
    ∧ (lines.Pairwise fun left right => left.sortKey.le right.sortKey = true)
    ∧ Entry.sorted batch.entries = lines.map StoredLine.entry
  /-- A full page says its last time. -/
  turned : ∀ next, batch.next = some next → (store.page window limit).length = limit
    ∧ (∃ line ∈ store.page window limit, line.timestamp = next)
    ∧ ∀ line ∈ store.page window limit, line.timestamp ≤ next
  /-- A page that is not full says nothing. -/
  ended : batch.next = none → (store.page window limit).length < limit

variable {store : Store} {limit : Nat}

/-- Of an answer that can be read, the lines of the page are read stream by stream. -/
theorem eq_of_ofResponse {batch : Batch} {pageSize : Int}
    (read : ofResponse room pageSize window (store.answer window limit) = .ok batch) :
    batch = ofReading pageSize
      (Reading.add ⟨[], []⟩ ((store.groups window limit).flatMap Prod.snd)) := by
  rw [ofResponse_answer, whenLegible] at read
  split at read
  · exact (Except.ok.inj read).symm
  · cases read

/-- The entries of lines that were read come in the order of their positions. -/
theorem sorted_entries_ofReading (pageSize : Int) (lines : List StoredLine) :
    Entry.sorted (ofReading pageSize (Reading.add ⟨[], []⟩ lines)).entries
      = (StoredLine.sorted lines).map StoredLine.entry := by
  simp [StoredLine.map_entry_sorted, ofReading, Reading.add]

/-- Of an answer that can be read, the page is read. -/
theorem isPage_of_ofResponse {batch : Batch} (positive : 0 < limit)
    (read : ofResponse room limit window (store.answer window limit) = .ok batch) :
    IsPage store window limit batch := by
  let lines := (store.groups window limit).flatMap Prod.snd
  have perm : lines.Perm (store.page window limit) := store.perm_flatMap_groups window limit
  have batch_eq : batch = ofReading limit (Reading.add ⟨[], []⟩ lines) := eq_of_ofResponse read
  have times : (Reading.add ⟨[], []⟩ lines).timestamps = (lines.map StoredLine.timestamp).reverse :=
    List.append_nil _
  have length : (Reading.add ⟨[], []⟩ lines).timestamps.length
      = (store.page window limit).length := by
    rw [times, List.length_reverse, List.length_map, perm.length_eq]
  have next : batch.next = if limit ≤ (store.page window limit).length then
      ((lines.map StoredLine.timestamp).reverse).max? else none := by
    rw [batch_eq]
    simp only [ofReading, latest?, Int.ofNat_le]
    rw [length, times]
  refine ⟨⟨StoredLine.sorted lines, ?_, ?_, ?_⟩, ?_, ?_⟩
  · exact (List.mergeSort_perm _ _).trans perm
  · exact StoredLine.pairwise_sorted lines
  · rw [batch_eq, sorted_entries_ofReading]
  · intro last isLast
    rw [next] at isLast
    split at isLast
    · rename_i full
      obtain ⟨among, bound⟩ := List.max?_eq_some_iff.mp isLast
      obtain ⟨line, present, rfl⟩ := List.mem_map.mp (List.mem_reverse.mp among)
      refine ⟨Nat.le_antisymm (store.length_page_le window limit) full,
        ⟨line, perm.mem_iff.mp present, rfl⟩, fun other onPage => ?_⟩
      exact bound _ (List.mem_reverse.mpr (List.mem_map_of_mem (perm.mem_iff.mpr onPage)))
    · cases isLast
  · intro isNone
    apply Nat.lt_of_not_le
    intro full
    rw [next, if_pos full, List.max?_eq_none_iff, List.reverse_eq_nil_iff, List.map_eq_nil_iff]
      at isNone
    rw [isNone] at perm
    rw [List.nil_perm.mp perm] at full
    exact absurd full (Nat.not_le.mpr positive)

/-- An answer in which every time is short enough can be read. -/
theorem exists_ofResponse_answer
    (legible : ∀ line ∈ store.page window limit, Legible line.timestamp) :
    ∃ batch, ofResponse room limit window (store.answer window limit) = .ok batch := by
  rw [ofResponse_answer, whenLegible, if_pos fun line present =>
    legible line (Store.mem_flatMap_groups.mp present)]
  exact ⟨_, rfl⟩

end Batch
end RunLog
