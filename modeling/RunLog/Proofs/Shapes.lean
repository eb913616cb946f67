import RunLog.Proofs.Reading
import RunLog.Proofs.Texts
import RunLog.Proofs.WholeNumbers

/-!
# What can be read

The reader of a response takes values of many shapes where it wants a list, labels or a line.  Each
of these shapes is described on its own, and so a response can be read exactly if all of its parts
have such a shape.  What the reader fails with is a malformation, unless the response itself reports
that the query failed.
-/

namespace RunLog

/-! ## Shapes -/

namespace Json

/-- What a value is gone through by: the items of a list, the characters of a text or the names of
an object. -/
inductive HasItems : Json → List Json → Prop
  | list (items : List Json) : HasItems (.list items) items
  | text (value : Text) : HasItems (.text value) (value.map fun point => .text [point])
  | object (members : List (Text × Json)) :
    HasItems (.object members) (members.map fun (name, _) => .text name)

/-- What stands at a place of a list or a text. -/
inductive HasItem : Json → Nat → Json → Prop
  | list {items : List Json} {place : Nat} {item : Json} (stands : items[place]? = some item) :
    HasItem (.list items) place item
  | text {value : Text} {place : Nat} {point : CodePoint} (stands : value[place]? = some point) :
    HasItem (.text value) place (.text [point])

/-- A member of an object that is not empty. -/
def HasMember (members : List (Text × Json)) (name : Text) (value : Json) : Prop :=
  lookup? name members = some value ∧ value.isEmpty = false

/-- A value that stands for a byte. -/
inductive IsByte : Json → Prop
  | int {value : Int} (notNegative : 0 ≤ value) (small : value < 256) : IsByte (.int value)
  | bool (value : Bool) : IsByte (.bool value)

/-- There is room for a number of zeros, and they can be addressed with what is stored beside
them. -/
structure HasRoom (room count : Int) : Prop where
  notNegative : 0 ≤ count
  fits : count < room
  addressable : count < 0x8000000000000000 - 33

/-- A value that stands for the bytes of a line, where there is room for less than a given number of
zeros. -/
inductive IsLine (room : Int) : Json → Prop
  /-- A text that can be written as bytes. -/
  | text {value : Text} (plain : value.hasSurrogate = false) : IsLine room (.text value)
  /-- As many zeros as there is room for. -/
  | count {value : Int} (hasRoom : HasRoom room value) : IsLine room (.int value)
  /-- One zero or none. -/
  | bool {value : Bool} (hasRoom : HasRoom room (if value then 1 else 0)) :
    IsLine room (.bool value)
  /-- The bytes in a list. -/
  | bytes {items : List Json} (each : ∀ item ∈ items, IsByte item) : IsLine room (.list items)
  /-- No bytes. -/
  | nothing : IsLine room (.object [])

/-- A value that stands for a label: the name, which is a scalar, and the value are all that it is
gone through by. -/
inductive IsLabel : Json → Prop
  | pair {item name value : Json} (pair : item.HasItems [name, value])
      (scalar : Label.isName name = true) : IsLabel item

/-- A value that stands for labels: any object, or what is gone through by labels. -/
inductive IsLabels : Json → Prop
  | object (members : List (Text × Json)) : IsLabels (.object members)
  | pairs {value : Json} {items : List Json} (made : value.HasItems items)
      (each : ∀ item ∈ items, IsLabel item) : IsLabels value

end Json

namespace Batch

open Json (HasMember)

/-- A value that stands for a time and, if the time is in the window, for a line. -/
inductive ReadableValue (room : Int) (window : Window) : Json → Prop
  | pair {value stamp written : Json} {time : Int} (stamped : value.HasItem 0 stamp)
      (counts : stamp.CountsAs time) (filled : value.HasItem 1 written)
      (line : window.contains time = true → written.IsLine room) : ReadableValue room window value

/-- An object whose labels and lines can be read. -/
inductive ReadableStream (room : Int) (window : Window) : Json → Prop
  | object {members : List (Text × Json)}
      (labels : ∀ labels, HasMember members "stream" labels → labels.IsLabels)
      (values : ∀ values, HasMember members "values" values →
        ∃ items, values.HasItems items ∧ ∀ item ∈ items, ReadableValue room window item) :
    ReadableStream room window (.object members)

/-- An object with streams that can be read, or with none. -/
inductive ReadableStreams (room : Int) (window : Window) : Json → Prop
  | object {members : List (Text × Json)}
      (streams : ∀ result, HasMember members "result" result →
        ∃ items, result.HasItems items ∧ ∀ item ∈ items, ReadableStream room window item) :
    ReadableStreams room window (.object members)

/-- A response that can be read. -/
inductive ReadableResponse (room : Int) (window : Window) : Json → Prop
  | object {members : List (Text × Json)}
      (data : ∀ data, HasMember members "data" data → ReadableStreams room window data) :
    ReadableResponse room window (.object members)

/-- A response that reports something else than success. -/
inductive ReportsFailure : Json → Prop
  | object {members : List (Text × Json)} {status : Json}
      (reports : Json.lookup? "status" members = some status) (differs : status ≠ .text success) :
    ReportsFailure (.object members)

/-! ## What has a shape is read -/

section Values

variable {room : Int} {value : Json}

theorem items_eq_ok {found : List Json} : items value = .ok found ↔ value.HasItems found := by
  constructor
  · intro read
    unfold items at read
    split at read
    case h_4 => cases read
    all_goals
      cases read
      constructor
  · rintro ⟨⟩ <;> rfl

theorem item_eq_ok {place : Nat} {found : Json} :
    item value place = .ok found ↔ value.HasItem place found := by
  constructor
  · intro read
    unfold item at read
    split at read
    · split at read
      · rename_i stands
        cases read
        exact .list stands
      · cases read
    · split at read
      · rename_i stands
        cases read
        exact .text stands
      · cases read
    all_goals cases read
  · rintro (stands | stands) <;> simp [item, stands]

theorem exists_byte_iff : (∃ found, byte value = .ok found) ↔ value.IsByte := by
  constructor
  · rintro ⟨found, read⟩
    unfold byte at read
    split at read
    case h_2 => cases read
    case h_1 number isNumber =>
      split at read
      case isFalse => cases read
      case isTrue small =>
        cases value with
        | int => cases isNumber; exact .int small.1 small.2
        | bool => exact .bool _
        | null | float | text | list | object => cases isNumber
  · rintro (⟨notNegative, small⟩ | value)
    · exact ⟨_, if_pos ⟨notNegative, small⟩⟩
    · cases value <;> exact ⟨_, rfl⟩

theorem not_exists_wrong {α : Type} (fault : Malformation) :
    ¬∃ found : α, wrong fault = .ok found := by
  simp [wrong]

theorem exists_zeros_iff {count : Int} :
    (∃ found, zeros room count = .ok found) ↔ Json.HasRoom room count := by
  unfold zeros
  split
  · exact iff_of_false (not_exists_wrong _) fun ⟨_, _, _⟩ => by omega
  · split
    · exact iff_of_false (not_exists_wrong _) fun ⟨_, _, _⟩ => by omega
    · split
      · exact iff_of_false (not_exists_wrong _) fun ⟨_, _, _⟩ => by omega
      · exact iff_of_true ⟨_, rfl⟩ ⟨by omega, by omega, by omega⟩

theorem exists_line_iff : (∃ found, line room value = .ok found) ↔ value.IsLine room := by
  constructor
  · rintro ⟨found, read⟩
    unfold line at read
    split at read
    · split at read
      · rename_i text _ bytes isBytes
        refine .text (Bool.eq_false_iff.mpr fun surrogate => ?_)
        simp [Text.utf8?, surrogate] at isBytes
      · cases read
    · exact .count (exists_zeros_iff.mp ⟨found, read⟩)
    · exact .bool (exists_zeros_iff.mp ⟨found, read⟩)
    · refine .bytes fun item among => exists_byte_iff.mp ?_
      exact exists_mapM_eq_ok.mp ⟨found, read⟩ item among
    · exact .nothing
    · cases read
  · rintro (plain | hasRoom | hasRoom | each | _)
    · exact ⟨_, by rw [line, Text.utf8?_of_plain plain]⟩
    · exact exists_zeros_iff.mpr hasRoom
    · exact exists_zeros_iff.mpr hasRoom
    · exact exists_mapM_eq_ok.mpr fun item among => exists_byte_iff.mpr (each item among)
    · exact ⟨_, rfl⟩

theorem exists_label_iff : (∃ found, label value = .ok found) ↔ value.IsLabel := by
  simp only [label, bind_eq_ok, items_eq_ok]
  constructor
  · rintro ⟨found, items, made, read⟩
    split at read
    · unfold labelOfPair at read
      split at read
      · rename_i scalar
        exact .pair made scalar
      · cases read
    · cases read
  · rintro ⟨pair, scalar⟩
    exact ⟨_, _, pair, if_pos scalar⟩

theorem exists_labels_iff : (∃ found, labels (some value) = .ok found) ↔ value.IsLabels := by
  have passes (before : Labels) (item : Json) :
      (∃ after, (do return Labels.insert (← label item) before) = Except.ok (ε := Failure) after)
        ↔ item.IsLabel := by
    rw [← exists_label_iff]
    simp [bind_eq_ok, pure, Except.pure]
  -- Only an object is not gone through, and it stands for labels whatever its names are.
  cases value with
  | object members => exact iff_of_true ⟨_, rfl⟩ (.object members)
  | null | bool | int | float | text | list =>
    simp only [labels, bind_eq_ok, items_eq_ok]
    constructor
    · rintro ⟨found, items, made, folded⟩
      exact .pairs made ((exists_foldlM_eq_ok passes []).mp ⟨found, folded⟩)
    · rintro (_ | ⟨made, each⟩)
      obtain ⟨found, folded⟩ := (exists_foldlM_eq_ok passes []).mpr each
      exact ⟨found, _, made, folded⟩

end Values

section Streams

variable {room : Int} {window : Window} {value : Json}

theorem exists_readValue_iff (labels : Labels) (earlier : List Int) :
    (∃ found, readValue room window labels earlier value = .ok found)
      ↔ ReadableValue room window value := by
  simp only [readValue, bind_eq_ok, item_eq_ok, timestamp_eq_ok]
  constructor
  · rintro ⟨found, stamp, stamped, time, counts, written, filled, read⟩
    refine .pair stamped counts filled fun inside => exists_line_iff.mp ?_
    rw [if_pos inside] at read
    obtain ⟨bytes, isLine, -⟩ := bind_eq_ok.mp read
    exact ⟨bytes, isLine⟩
  · rintro @⟨stamp, written, time, stamped, counts, filled, readable⟩
    by_cases inside : window.contains time = true
    · obtain ⟨bytes, isLine⟩ := exists_line_iff.mpr (readable inside)
      exact ⟨(time, some ⟨time, earlier.count time, bytes, labels⟩), stamp, stamped, time, counts,
        written, filled, (if_pos inside).trans (bind_eq_ok.mpr ⟨bytes, isLine, rfl⟩)⟩
    · exact ⟨(time, none), stamp, stamped, time, counts, written, filled, if_neg inside⟩

theorem exists_readValues_iff {values : List Json} (labels : Labels) (earlier : List Int)
    (reading : Reading) :
    (∃ after, readValues room window labels earlier values reading = .ok after)
      ↔ ∀ value ∈ values, ReadableValue room window value := by
  induction values generalizing earlier reading with
  | nil => exact iff_of_true ⟨_, rfl⟩ (List.forall_mem_nil _)
  | cons value rest inductionHypothesis =>
    rw [List.forall_mem_cons, ← exists_readValue_iff labels earlier]
    simp only [readValues, bind_eq_ok]
    constructor
    · rintro ⟨after, found, read, onward⟩
      exact ⟨⟨found, read⟩, (inductionHypothesis _ _).mp ⟨after, onward⟩⟩
    · rintro ⟨⟨found, read⟩, others⟩
      obtain ⟨after, onward⟩ := (inductionHypothesis (found.1 :: earlier) _).mpr others
      exact ⟨after, found, read, onward⟩

/-- A member of an object is found unless it is empty. -/
theorem exists_member_eq (members : List (Text × Json)) (name : Text) :
    ∃ found, member name (.object members) = .ok found
      ∧ ∀ value, found = some value ↔ HasMember members name value :=
  ⟨_, rfl, fun value => by simp [HasMember, Option.filter_eq_some_iff]⟩

/-- The labels that may be missing are read if they are there and have the shape of labels. -/
theorem exists_labelsOf_iff {found : Option Json} :
    (∃ read, Batch.labels found = .ok read) ↔ ∀ value, found = some value → value.IsLabels := by
  cases found with
  | none => exact iff_of_true ⟨_, rfl⟩ (by rintro _ ⟨⟩)
  | some value => simpa using exists_labels_iff

theorem exists_optionalItems_iff {found : Option Json} {Passes : Json → Prop} :
    (∃ items, optionalItems found = .ok items ∧ ∀ item ∈ items, Passes item)
      ↔ ∀ value, found = some value →
        ∃ items, value.HasItems items ∧ ∀ item ∈ items, Passes item := by
  cases found with
  | none => exact iff_of_true ⟨[], rfl, List.forall_mem_nil _⟩ (by rintro _ ⟨⟩)
  | some value => simp [optionalItems, items_eq_ok]

theorem exists_readStream_iff {reading : Reading} :
    (∃ after, readStream room window reading value = .ok after)
      ↔ ReadableStream room window value := by
  cases value with
  | object members =>
    obtain ⟨foundLabels, isLabels, labels_iff⟩ := exists_member_eq members "stream"
    obtain ⟨foundValues, isValues, values_iff⟩ := exists_member_eq members "values"
    simp only [readStream, bind_eq_ok, isLabels, isValues, Except.ok.injEq, exists_eq_left']
    constructor
    · rintro ⟨after, labels, readLabels, values, readItems, read⟩
      refine .object (fun labels isMember => ?_) fun values isMember => ?_
      · exact exists_labelsOf_iff.mp ⟨_, readLabels⟩ labels ((labels_iff labels).mpr isMember)
      · have readable := (exists_readValues_iff _ [] reading).mp ⟨after, read⟩
        exact exists_optionalItems_iff.mp ⟨_, readItems, readable⟩ values
          ((values_iff values).mpr isMember)
    · rintro ⟨readableLabels, readableValues⟩
      obtain ⟨labels, readLabels⟩ := exists_labelsOf_iff.mpr fun value isMember =>
        readableLabels value ((labels_iff value).mp isMember)
      obtain ⟨values, readItems, readable⟩ := exists_optionalItems_iff.mpr fun value isMember =>
        readableValues value ((values_iff value).mp isMember)
      obtain ⟨after, read⟩ := (exists_readValues_iff labels [] reading).mpr readable
      exact ⟨after, labels, readLabels, values, readItems, read⟩
  | null | bool | int | float | text | list =>
    exact iff_of_false (not_exists_wrong _) (by rintro ⟨⟩)

/-- The streams that an object gives are read one after another. -/
theorem exists_result_iff {reading : Reading} :
    (∃ last, (member "result" value >>= optionalItems >>= fun streams =>
        streams.foldlM (readStream room window) reading) = .ok last)
      ↔ ReadableStreams room window value := by
  have passes (before : Reading) (stream : Json) :
      (∃ after, readStream room window before stream = .ok after)
        ↔ ReadableStream room window stream :=
    exists_readStream_iff
  cases value with
  | object members =>
    obtain ⟨found, isResult, result_iff⟩ := exists_member_eq members "result"
    simp only [bind_eq_ok, isResult, Except.ok.injEq, exists_eq_left']
    constructor
    · rintro ⟨last, streams, readItems, folded⟩
      have readable := (exists_foldlM_eq_ok passes reading).mp ⟨last, folded⟩
      exact .object fun result isMember =>
        exists_optionalItems_iff.mp ⟨_, readItems, readable⟩ result
          ((result_iff result).mpr isMember)
    · rintro ⟨readableStreams⟩
      obtain ⟨streams, readItems, readable⟩ := exists_optionalItems_iff.mpr fun value isMember =>
        readableStreams value ((result_iff value).mp isMember)
      obtain ⟨last, folded⟩ := (exists_foldlM_eq_ok passes reading).mpr readable
      exact ⟨last, streams, readItems, folded⟩
  | null | bool | int | float | text | list =>
    exact iff_of_false (not_exists_wrong _) (by rintro ⟨⟩)

theorem exists_reading_iff {reading : Reading} :
    (∃ last, (streams value >>= fun streams =>
        streams.foldlM (readStream room window) reading) = .ok last)
      ↔ ReadableResponse room window value := by
  cases value with
  | object members =>
    obtain ⟨found, isData, data_iff⟩ := exists_member_eq members "data"
    simp only [streams, isData]
    cases found with
    | none =>
      refine iff_of_true ⟨reading, rfl⟩ (.object fun data isMember => ?_)
      cases (data_iff data).mpr isMember
    | some data =>
      refine exists_result_iff.trans ⟨fun readable => ?_, fun readable => ?_⟩
      · refine .object fun other isMember => ?_
        cases (data_iff other).mpr isMember
        exact readable
      · obtain ⟨readable⟩ := readable
        exact readable data ((data_iff data).mp rfl)
  | null | bool | int | float | text | list =>
    exact iff_of_false (not_exists_wrong _) (by rintro ⟨⟩)

theorem reportsSuccess_eq_false {members : List (Text × Json)} :
    reportsSuccess members = false ↔ ReportsFailure (.object members) := by
  unfold reportsSuccess
  split
  · rename_i missing
    refine iff_of_false (by rintro ⟨⟩) ?_
    rintro ⟨reports, -⟩
    cases missing.symm.trans reports
  · rename_i word reported
    constructor
    · intro differs
      refine .object reported fun same => ?_
      cases same
      exact Bool.eq_false_iff.mp differs (beq_self_eq_true success)
    · rintro ⟨reports, differs⟩
      cases reported.symm.trans reports
      exact beq_eq_false_iff_ne.mpr fun same => differs (congrArg Json.text same)
  · rename_i status notText reported
    refine iff_of_true rfl (.object reported fun same => ?_)
    exact notText success same

end Streams

/-! ## What else comes of a response -/

/-- If there is no result, something is not what it has to be. -/
def FailsMalformed {α : Type} (result : Except Failure α) : Prop :=
  ∀ failure, result = .error failure → ∃ fault, failure = .malformed fault

namespace FailsMalformed

variable {α β : Type}

theorem ok (value : α) : FailsMalformed (.ok value) := by
  rintro _ ⟨⟩

theorem wrong (fault : Malformation) : FailsMalformed (Batch.wrong (α := α) fault) := by
  rintro _ ⟨⟩
  exact ⟨fault, rfl⟩

theorem bind {first : Except Failure α} {next : α → Except Failure β}
    (ofFirst : FailsMalformed first) (ofNext : ∀ value, FailsMalformed (next value)) :
    FailsMalformed (first >>= next) := by
  intro failure failed
  rcases bind_eq_error.mp failed with failedFirst | ⟨value, -, failedNext⟩
  · exact ofFirst failure failedFirst
  · exact ofNext value failure failedNext

theorem mapM {compute : α → Except Failure β} (ofEach : ∀ item, FailsMalformed (compute item))
    (items : List α) : FailsMalformed (items.mapM compute) := by
  intro failure failed
  obtain ⟨-, item, -, -, -, failedItem⟩ := mapM_eq_error.mp failed
  exact ofEach item failure failedItem

theorem foldlM {step : β → α → Except Failure β}
    (ofStep : ∀ before item, FailsMalformed (step before item)) (items : List α) (first : β) :
    FailsMalformed (items.foldlM step first) := by
  induction items generalizing first with
  | nil => exact ok first
  | cons item rest inductionHypothesis =>
    rw [List.foldlM_cons]
    exact (ofStep first item).bind inductionHypothesis

theorem items (value : Json) : FailsMalformed (Batch.items value) := by
  unfold Batch.items
  split
  all_goals first | exact ok _ | exact wrong _

theorem optionalItems : ∀ found, FailsMalformed (Batch.optionalItems found)
  | none => ok _
  | some value => items value

theorem member (name : Text) (value : Json) : FailsMalformed (Batch.member name value) := by
  unfold Batch.member
  split
  · exact ok _
  · exact wrong _

theorem label (value : Json) : FailsMalformed (Batch.label value) := by
  refine (items value).bind fun found => ?_
  split
  · unfold labelOfPair
    split
    · exact ok _
    · exact wrong _
  · exact wrong _

theorem labels (found : Option Json) : FailsMalformed (Batch.labels found) := by
  unfold Batch.labels
  split
  · exact ok _
  · exact ok _
  · exact (items _).bind fun found =>
      foldlM (fun _ item => (label item).bind fun _ => ok _) found []

theorem item (value : Json) (place : Nat) : FailsMalformed (Batch.item value place) := by
  unfold Batch.item
  repeat' split
  all_goals first | exact ok _ | exact wrong _

theorem timestamp (value : Json) : FailsMalformed (Batch.timestamp value) := by
  unfold Batch.timestamp
  repeat' split
  all_goals first | exact ok _ | exact wrong _

theorem byte (value : Json) : FailsMalformed (Batch.byte value) := by
  unfold Batch.byte
  repeat' split
  all_goals first | exact ok _ | exact wrong _

theorem zeros (room count : Int) : FailsMalformed (Batch.zeros room count) := by
  unfold Batch.zeros
  repeat' split
  all_goals first | exact ok _ | exact wrong _

theorem line (room : Int) (value : Json) : FailsMalformed (Batch.line room value) := by
  unfold Batch.line
  split
  · split
    · exact ok _
    · exact wrong _
  · exact zeros _ _
  · exact zeros _ _
  · exact mapM byte _
  · exact ok _
  · exact wrong _

variable (room : Int) (window : Window)

theorem readValue (labels : Labels) (earlier : List Int) (value : Json) :
    FailsMalformed (Batch.readValue room window labels earlier value) := by
  refine (item value 0).bind fun stamp => (timestamp stamp).bind fun time =>
    (item value 1).bind fun written => ?_
  split
  · exact (line room written).bind fun _ => ok _
  · exact ok _

theorem readValues (labels : Labels) (earlier : List Int) (values : List Json) (reading : Reading) :
    FailsMalformed (Batch.readValues room window labels earlier values reading) := by
  induction values generalizing earlier reading with
  | nil => exact ok _
  | cons value rest inductionHypothesis =>
    exact (readValue room window labels earlier value).bind fun _ => inductionHypothesis _ _

theorem readStream (reading : Reading) (stream : Json) :
    FailsMalformed (Batch.readStream room window reading stream) :=
  (member "stream" stream).bind fun found => (labels found).bind fun labels =>
    (member "values" stream).bind fun found => (optionalItems found).bind fun values =>
      readValues room window labels [] values reading

theorem streams (value : Json) : FailsMalformed (Batch.streams value) := by
  refine (member "data" value).bind fun found => ?_
  cases found with
  | none => exact optionalItems none
  | some data => exact (member "result" data).bind optionalItems

end FailsMalformed

/-- A response reports a failure, or is read, or is malformed. -/
theorem ofResponse_cases (room pageSize : Int) (window : Window) (response : Json) :
    (ReportsFailure response ∧ ∃ detail body,
        ofResponse room pageSize window response
          = .error (.queryFailed (.unsuccessful detail body)))
      ∨ (ReadableResponse room window response
        ∧ ∃ batch, ofResponse room pageSize window response = .ok batch)
      ∨ (¬ReportsFailure response ∧ ¬ReadableResponse room window response ∧ ∃ fault,
        ofResponse room pageSize window response = .error (.malformed fault)) := by
  cases response with
  | object members =>
    cases reports : reportsSuccess members with
    | false =>
      refine Or.inl ⟨reportsSuccess_eq_false.mp reports,
        ((Json.lookup? "error" members).getD (.object members)).display,
        (Json.object members).display, ?_⟩
      simp only [ofResponse, reports]
      rfl
    | true =>
      let computed := streams (.object members) >>= fun streams =>
        streams.foldlM (readStream room window) ⟨[], []⟩
      have reads : ofResponse room pageSize window (.object members)
          = computed >>= fun reading => pure (ofReading pageSize reading) := by
        simp only [ofResponse, reports, computed, bind_assoc]
        rfl
      have strict : FailsMalformed computed := (FailsMalformed.streams _).bind fun found =>
        FailsMalformed.foldlM (FailsMalformed.readStream room window) found _
      have readable_iff : (∃ reading, computed = .ok reading)
          ↔ ReadableResponse room window (.object members) := exists_reading_iff
      rw [reads, ← readable_iff, ← reportsSuccess_eq_false, reports]
      cases isComputed : computed with
      | ok reading => exact Or.inr (Or.inl ⟨⟨reading, rfl⟩, _, rfl⟩)
      | error failure =>
        obtain ⟨fault, rfl⟩ := strict failure isComputed
        exact Or.inr (Or.inr ⟨by simp, by simp, fault, rfl⟩)
  | null | bool | int | float | text | list =>
    exact Or.inr (Or.inr ⟨by rintro ⟨⟩, by rintro ⟨⟩, .noObject, rfl⟩)

end Batch
end RunLog
