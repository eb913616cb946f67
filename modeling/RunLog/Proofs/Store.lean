import Mathlib.Data.List.Nodup
import Mathlib.Data.List.Pairwise
import RunLog.Proofs.Numbering
import RunLog.Proofs.Texts

/-!
# Stores

A backend keeps lines in streams.  The lines of a stream are in the order of time, and a line is
known by its stream, its time and how many lines of the stream at that time come before it.
-/

namespace RunLog

namespace SortKey

variable {left right : SortKey}

theorem timestamp_le_of_before (before : left.Before right) : left.timestamp ≤ right.timestamp := by
  rcases before with earlier | ⟨atOnce, -⟩
  · exact Int.le_of_lt earlier
  · exact Int.le_of_eq atOnce

theorem not_before_of_before (before : left.Before right) : ¬right.Before left := by
  unfold Before at before ⊢
  omega

theorem not_before_self (key : SortKey) : ¬key.Before key := by
  simp [Before]

theorem le_trans (first second third : SortKey) (before : first.le second = true)
    (after : second.le third = true) : first.le third = true := by
  simp only [le, decide_eq_true_eq] at before after ⊢
  omega

theorem le_total (first second : SortKey) : (first.le second || second.le first) = true := by
  simp only [le, Bool.or_eq_true, decide_eq_true_eq]
  omega

theorem before_of_le (inOrder : left.le right = true) (differ : left ≠ right) :
    left.Before right := by
  obtain earlier | ⟨atOnce, number⟩ := of_decide_eq_true inOrder
  · exact Or.inl earlier
  · refine Or.inr ⟨atOnce, Int.lt_iff_le_and_ne.mpr ⟨number, fun same => differ ?_⟩⟩
    cases left
    cases right
    simp_all

theorem timestamp_le_of_le (inOrder : left.le right = true) : left.timestamp ≤ right.timestamp := by
  obtain earlier | ⟨atOnce, -⟩ := of_decide_eq_true inOrder
  · exact Int.le_of_lt earlier
  · exact Int.le_of_eq atOnce

end SortKey

namespace Entry

theorem pairwise_sorted (entries : List Entry) :
    (sorted entries).Pairwise fun left right => left.sortKey.le right.sortKey = true :=
  List.pairwise_mergeSort
    (fun first second third => SortKey.le_trans first.sortKey second.sortKey third.sortKey)
    (fun first second => SortKey.le_total first.sortKey second.sortKey) entries

/-- Entries in order stay as they are when they are sorted. -/
@[simp] theorem sorted_sorted (entries : List Entry) : sorted (sorted entries) = sorted entries :=
  List.mergeSort_of_pairwise (pairwise_sorted entries)

end Entry

/-! ## Lines and streams -/

/-- The labels of a stream as a response gives them. -/
def Labels.ofTexts (labels : List (Text × Text)) : Labels :=
  Labels.ofMembers (labels.map fun (name, value) => (name, .text value))

/-- Labels that can be written as bytes have a digest. -/
theorem Labels.encoded?_ofTexts {labels : List (Text × Text)}
    (plain : ∀ label ∈ labels, label.1.hasSurrogate = false ∧ label.2.hasSurrogate = false) :
    (Labels.ofTexts labels).encoded? = .ok (Labels.ofTexts labels).text.utf8 := by
  have comparable : (Labels.ofTexts labels).comparable = true := by
    simp [Labels.comparable, Labels.ofTexts, Labels.ofMembers, Label.named]
  have whole : (Labels.ofTexts labels).text.hasSurrogate = false := by
    apply Text.hasSurrogate_join (by decide)
    intro part present
    obtain ⟨label, among, rfl⟩ := List.mem_map.mp present
    have known : label ∈ Labels.ofTexts labels := (List.mergeSort_perm _ _).mem_iff.mp among
    simp only [Labels.ofTexts, Labels.ofMembers, List.map_map, List.mem_map] at known
    obtain ⟨⟨name, value⟩, isLabel, rfl⟩ := known
    obtain ⟨plainName, plainValue⟩ := plain _ isLabel
    simp only [Function.comp, Label.text, Label.named, Json.display, Text.hasSurrogate_append,
      plainName, plainValue]
    decide
  rw [Labels.encoded?, if_pos comparable, Text.utf8?_of_plain whole]

/-- A line of a store. -/
structure StoredLine where
  /-- The labels of its stream. -/
  labels : List (Text × Text)
  /-- The nanoseconds since the epoch. -/
  timestamp : Int
  /-- How many lines of its stream at its time come before it. -/
  occurrence : Int
  /-- The text of the line. -/
  text : Text
  deriving DecidableEq, Repr

namespace StoredLine

/-- The position of a line in its stream. -/
def sortKey (line : StoredLine) : SortKey :=
  ⟨line.timestamp, line.occurrence⟩

/-- The entry that a line is read as. -/
def entry (line : StoredLine) : Entry :=
  ⟨line.timestamp, line.occurrence, line.text.utf8, Labels.ofTexts line.labels⟩

/-- What tells a line from others. -/
def fingerprint (line : StoredLine) : Fingerprint :=
  ⟨line.timestamp, line.occurrence, Sha1.digest (Labels.ofTexts line.labels).text.utf8,
    Sha1.digest line.text.utf8⟩

@[simp] theorem timestamp_entry (line : StoredLine) : line.entry.timestamp = line.timestamp := rfl

@[simp] theorem sortKey_entry (line : StoredLine) : line.entry.sortKey = line.sortKey := rfl

/-- Lines in the order of their positions. -/
def sorted (lines : List StoredLine) : List StoredLine :=
  lines.mergeSort fun left right => left.sortKey.le right.sortKey

theorem pairwise_sorted (lines : List StoredLine) :
    (sorted lines).Pairwise fun left right => left.sortKey.le right.sortKey = true :=
  List.pairwise_mergeSort
    (fun first second third => SortKey.le_trans first.sortKey second.sortKey third.sortKey)
    (fun first second => SortKey.le_total first.sortKey second.sortKey) lines

theorem map_entry_sorted (lines : List StoredLine) :
    (sorted lines).map entry = Entry.sorted (lines.map entry) :=
  List.map_mergeSort fun _ _ _ _ => rfl

/-- The occurrences of some lines are what is to be counted, after the times of the lines before
them; those come in reverse. -/
def Ranked (earlier : List Int) (lines : List StoredLine) : Prop :=
  lines.map occurrence = ranks earlier (lines.map timestamp)

theorem ranked_cons {earlier : List Int} {line : StoredLine} {rest : List StoredLine} :
    Ranked earlier (line :: rest) ↔
      line.occurrence = earlier.count line.timestamp
        ∧ Ranked (line.timestamp :: earlier) rest := by
  simp [Ranked, ranks]

theorem Ranked.of_isPrefix {earlier : List Int} {first lines : List StoredLine}
    (ranked : Ranked earlier lines) (isPrefix : first <+: lines) : Ranked earlier first := by
  obtain ⟨rest, rfl⟩ := isPrefix
  unfold Ranked at ranked ⊢
  rw [List.map_append, List.map_append, ranks_append] at ranked
  exact (List.append_inj ranked (by simp)).1

/-- All lines at some times are counted as before. -/
theorem Ranked.filter {earlier : List Int} {lines : List StoredLine} (ranked : Ranked earlier lines)
    (wanted : Int → Bool) :
    Ranked (earlier.filter wanted) (lines.filter fun line => wanted line.timestamp) := by
  induction lines generalizing earlier with
  | nil => exact ranked
  | cons line rest inductionHypothesis =>
    obtain ⟨occurrence, others⟩ := ranked_cons.mp ranked
    have onward := inductionHypothesis others
    cases isWanted : wanted line.timestamp with
    | false => simpa [List.filter_cons, isWanted] using onward
    | true =>
      simp only [List.filter_cons, isWanted, if_true] at onward ⊢
      refine ranked_cons.mpr ⟨?_, onward⟩
      rw [List.count_filter isWanted]
      exact occurrence

/-- Lines whose occurrences are counted are read as numbered entries. -/
theorem Ranked.numbered_map_entry {lines : List StoredLine} (ranked : Ranked [] lines) :
    Entry.numbered (lines.map entry) = lines.map entry := by
  have times : (lines.map entry).map Entry.timestamp = lines.map timestamp := by simp
  rw [Entry.numbered, times, ← ranked, List.zipWith_map, List.zipWith_self]
  rfl

end StoredLine

/-- Some labels, and times with texts. -/
structure StoredStream where
  /-- The labels, each a name and a value. -/
  labels : List (Text × Text)
  /-- The nanoseconds since the epoch and the texts of the lines. -/
  values : List (Int × Text)
  deriving DecidableEq, Repr

namespace StoredStream

/-- The lines with given labels, after the times of the lines before them. -/
def linesAfter (labels : List (Text × Text)) : List Int → List (Int × Text) → List StoredLine
  | _, [] => []
  | earlier, (time, text) :: rest =>
    ⟨labels, time, earlier.count time, text⟩ :: linesAfter labels (time :: earlier) rest

/-- The lines of a stream. -/
def lines (stream : StoredStream) : List StoredLine :=
  linesAfter stream.labels [] stream.values

/-- The digest of the labels. -/
def digest (stream : StoredStream) : Bytes :=
  Sha1.digest (Labels.ofTexts stream.labels).text.utf8

/-- The values of a stream come in the order of time. -/
def InOrder (stream : StoredStream) : Prop :=
  stream.values.Pairwise fun left right => left.1 ≤ right.1

/-- Every text of a stream can be written as bytes. -/
def Encodable (stream : StoredStream) : Prop :=
  (∀ label ∈ stream.labels, label.1.hasSurrogate = false ∧ label.2.hasSurrogate = false)
    ∧ ∀ value ∈ stream.values, value.2.hasSurrogate = false

instance (stream : StoredStream) : Decidable stream.InOrder :=
  inferInstanceAs (Decidable (List.Pairwise _ _))

instance (stream : StoredStream) : Decidable stream.Encodable :=
  inferInstanceAs (Decidable (_ ∧ _))

variable {stream : StoredStream}

theorem linesAfter_append (labels : List (Text × Text)) (earlier : List Int)
    (first second : List (Int × Text)) :
    linesAfter labels earlier (first ++ second)
      = linesAfter labels earlier first
        ++ linesAfter labels ((first.map Prod.fst).reverse ++ earlier) second := by
  induction first generalizing earlier with
  | nil => rfl
  | cons value rest inductionHypothesis => simp [linesAfter, inductionHypothesis]

theorem ranked_linesAfter (labels : List (Text × Text)) (earlier : List Int)
    (values : List (Int × Text)) :
    StoredLine.Ranked earlier (linesAfter labels earlier values) := by
  induction values generalizing earlier with
  | nil => rfl
  | cons value rest inductionHypothesis =>
    exact StoredLine.ranked_cons.mpr ⟨rfl, inductionHypothesis _⟩

theorem map_value_linesAfter (labels : List (Text × Text)) (earlier : List Int)
    (values : List (Int × Text)) :
    (linesAfter labels earlier values).map (fun line => (line.timestamp, line.text)) = values := by
  induction values generalizing earlier with
  | nil => rfl
  | cons value rest inductionHypothesis => simp [linesAfter, inductionHypothesis]

theorem labels_of_mem_linesAfter {labels : List (Text × Text)} {earlier : List Int}
    {values : List (Int × Text)} {line : StoredLine}
    (present : line ∈ linesAfter labels earlier values) : line.labels = labels := by
  induction values generalizing earlier with
  | nil => cases present
  | cons value rest inductionHypothesis =>
    rcases List.mem_cons.mp present with rfl | later
    · rfl
    · exact inductionHypothesis later

theorem labels_of_mem_lines {line : StoredLine} (present : line ∈ stream.lines) :
    line.labels = stream.labels :=
  labels_of_mem_linesAfter present

theorem ranked_lines (stream : StoredStream) : StoredLine.Ranked [] stream.lines :=
  ranked_linesAfter _ _ _

theorem mem_values_of_mem_lines {line : StoredLine} (present : line ∈ stream.lines) :
    (line.timestamp, line.text) ∈ stream.values := by
  have among := List.mem_map_of_mem (f := fun line : StoredLine => (line.timestamp, line.text))
    present
  rw [lines, map_value_linesAfter] at among
  exact among

/-- The lines of a stream in order have increasing positions. -/
theorem pairwise_before_lines (inOrder : stream.InOrder) :
    stream.lines.Pairwise fun left right => left.sortKey.Before right.sortKey := by
  have byTime : stream.lines.Pairwise fun left right => left.timestamp ≤ right.timestamp := by
    unfold InOrder at inOrder
    rw [← map_value_linesAfter stream.labels [] stream.values, List.pairwise_map] at inOrder
    exact inOrder
  have entriesByTime : (stream.lines.map StoredLine.entry).Pairwise
      fun left right => left.timestamp ≤ right.timestamp := List.pairwise_map.mpr byTime
  have increasing := Entry.pairwise_before_numbered entriesByTime
  rw [stream.ranked_lines.numbered_map_entry, List.pairwise_map] at increasing
  exact increasing

end StoredStream

/-! ## Stores -/

/-- What a backend keeps: streams with pairwise different digests, each in the order of time, in
which every text can be written as bytes. -/
structure Store where
  /-- The streams. -/
  streams : List StoredStream
  /-- No two streams have one digest. -/
  distinct : (streams.map StoredStream.digest).Nodup
  /-- The values of every stream come in the order of time. -/
  inOrder : ∀ stream ∈ streams, stream.InOrder
  /-- Every text can be written as bytes. -/
  encodable : ∀ stream ∈ streams, stream.Encodable

namespace Store

/-- A store that holds nothing. -/
def empty : Store :=
  ⟨[], List.nodup_nil, by simp, by simp⟩

/-- The lines of a store, stream by stream. -/
def lines (store : Store) : List StoredLine :=
  store.streams.flatMap StoredStream.lines

/-- The lines of a store in the order of time. -/
def byTime (store : Store) : List StoredLine :=
  store.lines.mergeSort fun left right => decide (left.timestamp ≤ right.timestamp)

variable {store : Store} {line other : StoredLine}

@[simp] theorem lines_empty : empty.lines = [] := rfl

@[simp] theorem mem_byTime : line ∈ store.byTime ↔ line ∈ store.lines := by
  simp [byTime]

theorem exists_stream_of_mem_lines (present : line ∈ store.lines) :
    ∃ stream ∈ store.streams, line ∈ stream.lines :=
  List.mem_flatMap.mp present

theorem plain_of_mem_lines (present : line ∈ store.lines) : line.text.hasSurrogate = false := by
  obtain ⟨stream, known, among⟩ := exists_stream_of_mem_lines present
  exact (store.encodable stream known).2 _ (StoredStream.mem_values_of_mem_lines among)

/-- Streams with the same labels are the same. -/
theorem eq_of_labels_eq {first second : StoredStream} (isFirst : first ∈ store.streams)
    (isSecond : second ∈ store.streams) (same : first.labels = second.labels) : first = second :=
  List.inj_on_of_nodup_map store.distinct isFirst isSecond
    (by rw [StoredStream.digest, StoredStream.digest, same])

/-- The line with given labels is one of the stream with these labels. -/
theorem mem_lines_of_labels_eq {stream : StoredStream} (known : stream ∈ store.streams)
    (present : line ∈ store.lines) (same : line.labels = stream.labels) : line ∈ stream.lines := by
  obtain ⟨home, isHome, among⟩ := exists_stream_of_mem_lines present
  have labels : home.labels = stream.labels :=
    (StoredStream.labels_of_mem_lines among).symm.trans same
  exact eq_of_labels_eq isHome known labels ▸ among

/-! ### Positions -/

/-- Two lines of one stream are the same, or one comes before the other. -/
theorem before_or_eq (first : line ∈ store.lines) (second : other ∈ store.lines)
    (same : line.labels = other.labels) :
    line = other ∨ line.sortKey.Before other.sortKey ∨ other.sortKey.Before line.sortKey := by
  obtain ⟨stream, known, among⟩ := exists_stream_of_mem_lines second
  have labels := StoredStream.labels_of_mem_lines among
  have increasing := StoredStream.pairwise_before_lines (store.inOrder stream known)
  let Related (left right : StoredLine) : Prop :=
    left = right ∨ left.sortKey.Before right.sortKey ∨ right.sortKey.Before left.sortKey
  have forward : stream.lines.Pairwise Related :=
    increasing.imp fun before => Or.inr (Or.inl before)
  have backward : stream.lines.Pairwise (flip Related) :=
    increasing.imp fun before => Or.inr (Or.inr before)
  have itself : ∀ line ∈ stream.lines, Related line line := fun _ _ => Or.inl rfl
  exact forward.forall_of_forall_of_flip itself backward
    (mem_lines_of_labels_eq known first (same.trans labels)) among

/-- The labels and the position of a line tell it from all others. -/
theorem eq_of_sortKey_eq (first : line ∈ store.lines) (second : other ∈ store.lines)
    (sameLabels : line.labels = other.labels) (sameKey : line.sortKey = other.sortKey) :
    line = other := by
  rcases before_or_eq first second sameLabels with same | before | after
  · exact same
  · exact absurd (sameKey ▸ before) (SortKey.not_before_self _)
  · exact absurd (sameKey ▸ after) (SortKey.not_before_self _)

/-- No line is in a store twice. -/
theorem nodup_lines (store : Store) : store.lines.Nodup := by
  refine List.nodup_flatMap.mpr ⟨fun stream known => ?_, ?_⟩
  · apply (StoredStream.pairwise_before_lines (store.inOrder stream known)).imp
    rintro left _ before rfl
    exact SortKey.not_before_self _ before
  · have apart : store.streams.Pairwise fun first second => first.digest ≠ second.digest :=
      List.pairwise_map.mp store.distinct
    refine apart.imp fun differ => List.disjoint_left.mpr fun line inFirst inSecond => differ ?_
    rw [StoredStream.digest, StoredStream.digest, ← StoredStream.labels_of_mem_lines inFirst,
      ← StoredStream.labels_of_mem_lines inSecond]

theorem nodup_byTime (store : Store) : store.byTime.Nodup :=
  (List.mergeSort_perm _ _).nodup_iff.mpr store.nodup_lines

/-! ### The order of time -/

theorem timestamp_le_trans (first second third : StoredLine)
    (before : decide (first.timestamp ≤ second.timestamp) = true)
    (after : decide (second.timestamp ≤ third.timestamp) = true) :
    decide (first.timestamp ≤ third.timestamp) = true :=
  decide_eq_true (Int.le_trans (of_decide_eq_true before) (of_decide_eq_true after))

theorem timestamp_le_total (first second : StoredLine) :
    (decide (first.timestamp ≤ second.timestamp) || decide (second.timestamp ≤ first.timestamp))
      = true := by
  simpa using Int.le_total first.timestamp second.timestamp

theorem pairwise_byTime (store : Store) :
    store.byTime.Pairwise fun left right => left.timestamp ≤ right.timestamp :=
  (List.pairwise_mergeSort timestamp_le_trans timestamp_le_total store.lines).imp of_decide_eq_true

/-- The lines of a stream keep their order. -/
theorem sublist_byTime {stream : StoredStream} (known : stream ∈ store.streams) :
    stream.lines.Sublist store.byTime := by
  have among : stream.lines.Sublist store.lines := by
    rw [lines, List.flatMap_def]
    exact List.sublist_flatten_of_mem (List.mem_map_of_mem known)
  refine List.sublist_mergeSort timestamp_le_trans timestamp_le_total ?_ among
  apply (StoredStream.pairwise_before_lines (store.inOrder stream known)).imp
  exact fun before => decide_eq_true (SortKey.timestamp_le_of_before before)

/-- A stream is what a store holds with its labels. -/
theorem filter_labels_byTime {stream : StoredStream} (known : stream ∈ store.streams) :
    (store.byTime.filter fun line => line.labels = stream.labels) = stream.lines := by
  have whole : (stream.lines.filter fun line => line.labels = stream.labels) = stream.lines :=
    List.filter_eq_self.mpr fun line present =>
      decide_eq_true (StoredStream.labels_of_mem_lines present)
  have inside : stream.lines.Sublist
      (store.byTime.filter fun line => line.labels = stream.labels) := by
    have filtered := (sublist_byTime known).filter fun line => line.labels = stream.labels
    rw [whole] at filtered
    exact filtered
  -- Both hold the same lines, none of them twice, so the sublist is the list.
  have same : ∀ line, line ∈ stream.lines ↔
      line ∈ store.byTime.filter fun line => line.labels = stream.labels := by
    refine fun line => ⟨fun present => inside.subset present, fun present => ?_⟩
    obtain ⟨among, labels⟩ := List.mem_filter.mp present
    exact mem_lines_of_labels_eq known (mem_byTime.mp among) (of_decide_eq_true labels)
  have perm := (List.perm_ext_iff_of_nodup (store.nodup_byTime.sublist (sublist_byTime known))
    (store.nodup_byTime.filter _)).mpr same
  exact (inside.eq_of_length perm.length_eq).symm

/-! ### Fingerprints -/

theorem fingerprint_entry (present : line ∈ store.lines) :
    line.entry.fingerprint = .ok line.fingerprint := by
  obtain ⟨stream, known, among⟩ := exists_stream_of_mem_lines present
  have plain := (store.encodable stream known).1
  rw [← StoredStream.labels_of_mem_lines among] at plain
  rw [Entry.fingerprint, StoredLine.entry, Labels.encoded?_ofTexts plain]
  rfl

/-- Lines with one fingerprint are the same. -/
theorem eq_of_fingerprint_eq (first : line ∈ store.lines) (second : other ∈ store.lines)
    (same : line.fingerprint = other.fingerprint) : line = other := by
  obtain ⟨home, isHome, among⟩ := exists_stream_of_mem_lines first
  obtain ⟨stream, isStream, amongOther⟩ := exists_stream_of_mem_lines second
  have labels := StoredStream.labels_of_mem_lines among
  have otherLabels := StoredStream.labels_of_mem_lines amongOther
  have sameDigest : home.digest = stream.digest := by
    rw [StoredStream.digest, StoredStream.digest, ← labels, ← otherLabels]
    exact congrArg Fingerprint.stream same
  have sameStream := List.inj_on_of_nodup_map store.distinct isHome isStream sameDigest
  have sameKey : line.sortKey = other.sortKey :=
    congrArg (fun fingerprint => SortKey.mk fingerprint.timestamp fingerprint.sequence) same
  exact eq_of_sortKey_eq first second (by rw [labels, otherLabels, sameStream]) sameKey

/-- Lines with one entry are the same. -/
theorem eq_of_entry_eq (first : line ∈ store.lines) (second : other ∈ store.lines)
    (same : line.entry = other.entry) : line = other := by
  have fingerprints := congrArg Entry.fingerprint same
  rw [fingerprint_entry first, fingerprint_entry second] at fingerprints
  exact eq_of_fingerprint_eq first second (Except.ok.inj fingerprints)

end Store
end RunLog
