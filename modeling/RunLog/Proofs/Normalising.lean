import RunLog.Proofs.Backend
import RunLog.Proofs.Numbering
import RunLog.Proofs.Reading
import RunLog.Proofs.StableSorting
import RunLog.Proofs.Store
import RunLog.Proofs.WholeNumbers

/-!
# Making a page of a response

A response to a query that succeeded gives streams, each with its labels and with lines in any
order.  The lines of a stream are numbered among those at their time, the lines in the window are
put in order, and where to go on is known from all lines, in the window or not.
-/

namespace RunLog

/-! ## What is given -/

/-- A stream as a response gives it. -/
structure GivenStream where
  /-- The names and values of its labels. -/
  labels : List (Text × Json)
  /-- The times and texts of its lines. -/
  values : List (Int × Text)

namespace Batch

/-- A line as a response gives it: what counts as a time, and a text that can be written as
bytes. -/
inductive IsValue : Json → Int × Text → Prop
  | pair {stamp : Json} {time : Int} {text : Text} (counts : stamp.CountsAs time)
      (plain : text.hasSurrogate = false) :
    IsValue (.list [stamp, .text text]) (time, text)

/-- A stream with its labels and lines. -/
inductive IsStream : Json → GivenStream → Prop
  | object {members labels : List (Text × Json)} {items : List Json} {values : List (Int × Text)}
      (labelled : Json.lookup? "stream" members = some (.object labels))
      (filled : Json.lookup? "values" members = some (.list items))
      (valued : List.Forall₂ IsValue items values) :
    IsStream (.object members) ⟨labels, values⟩

/-- A response that reports success and gives streams. -/
inductive IsSuccess : Json → List GivenStream → Prop
  | object {members data : List (Text × Json)} {items : List Json} {streams : List GivenStream}
      (succeeds : ∀ status ∈ Json.lookup? "status" members, status = .text success)
      (holds : Json.lookup? "data" members = some (.object data))
      (listed : Json.lookup? "result" data = some (.list items))
      (given : List.Forall₂ IsStream items streams) :
    IsSuccess (.object members) streams

end Batch

/-! ## What is made of it -/

namespace Entry

/-- Some entries, each with the number of those before it that have the same time; the times before
the first one come in reverse. -/
def numberedAfter (earlier : List Int) (entries : List Entry) : List Entry :=
  List.zipWith (fun entry sequence => { entry with sequence }) entries
    (ranks earlier (entries.map Entry.timestamp))

@[simp] theorem numberedAfter_nil (entries : List Entry) :
    numberedAfter [] entries = numbered entries := rfl

@[simp] theorem numberedAfter_cons (earlier : List Int) (entry : Entry) (rest : List Entry) :
    numberedAfter earlier (entry :: rest)
      = { entry with sequence := earlier.count entry.timestamp }
        :: numberedAfter (entry.timestamp :: earlier) rest := rfl

/-- Nothing but the numbers is changed. -/
theorem map_numberedAfter {β : Type} {view : Entry → β}
    (ignores : ∀ entry (sequence : Int), view { entry with sequence } = view entry)
    (earlier : List Int) (entries : List Entry) :
    (numberedAfter earlier entries).map view = entries.map view := by
  induction entries generalizing earlier with
  | nil => rfl
  | cons entry rest inductionHypothesis =>
    rw [numberedAfter_cons, List.map_cons, List.map_cons, ignores, inductionHypothesis]

end Entry

namespace GivenStream

/-- The entry for a line, without a number. -/
def entry (stream : GivenStream) (value : Int × Text) : Entry :=
  ⟨value.1, 0, value.2.utf8, Labels.ofMembers stream.labels⟩

/-- The times of the lines. -/
def times (stream : GivenStream) : List Int :=
  stream.values.map Prod.fst

/-- The entries for the lines. -/
def entries (stream : GivenStream) : List Entry :=
  Entry.numbered (stream.values.map stream.entry)

/-- The lines of a stream are made into entries. -/
structure MadeInto (stream : GivenStream) (entries : List Entry) : Prop where
  /-- Each line has its time, its bytes and the labels of the stream. -/
  lines : (entries.map fun entry => (entry.timestamp, entry.line, entry.labels))
    = stream.values.map fun value =>
        (value.1, value.2.utf8, Labels.ofMembers stream.labels)
  /-- The lines at one time are numbered from zero, in the order in which they are given. -/
  numbers : ∀ time, (entries.filter fun entry => entry.timestamp = time).map Entry.sequence
    = (List.range (stream.times.count time)).map Int.ofNat

variable {stream : GivenStream}

@[simp] theorem map_timestamp_entries (stream : GivenStream) :
    stream.entries.map Entry.timestamp = stream.times := by
  rw [entries, Entry.map_timestamp_numbered, List.map_map]
  rfl

theorem madeInto_entries (stream : GivenStream) : stream.MadeInto stream.entries where
  lines := by
    rw [entries, ← Entry.numberedAfter_nil, Entry.map_numberedAfter fun _ _ => rfl, List.map_map]
    rfl
  numbers time := by
    rw [entries, Entry.sequences_numbered, Entry.countAt, List.map_map]
    rfl

end GivenStream

/-! ## Reading -/

namespace Batch

variable {room : Int} {window : Window} {labels : Labels} {item : Json} {items : List Json}

/-- What was read, after some more entries, of which those outside the window are not kept. -/
def Reading.keep (reading : Reading) (window : Window) (entries : List Entry) : Reading where
  entries := (entries.filter fun entry => window.contains entry.timestamp).reverse
    ++ reading.entries
  timestamps := (entries.map Entry.timestamp).reverse ++ reading.timestamps

@[simp] theorem Reading.keep_nil (reading : Reading) (window : Window) :
    reading.keep window [] = reading := rfl

theorem Reading.keep_append (reading : Reading) (window : Window) (first second : List Entry) :
    reading.keep window (first ++ second) = (reading.keep window first).keep window second := by
  simp [keep]

theorem Reading.keep_cons (reading : Reading) (window : Window) (entry : Entry)
    (rest : List Entry) :
    reading.keep window (entry :: rest) = (reading.keep window [entry]).keep window rest :=
  reading.keep_append window [entry] rest

theorem readValue_of_isValue {value : Int × Text} (given : IsValue item value)
    (earlier : List Int) :
    readValue room window labels earlier item
      = .ok (value.1, if window.contains value.1 then
          some ⟨value.1, earlier.count value.1, value.2.utf8, labels⟩ else none) := by
  obtain ⟨counts, plain⟩ := given
  simp only [readValue, Batch.item, List.getElem?_cons_zero, List.getElem?_cons_succ,
    timestamp_eq_ok.mpr counts, line, Text.utf8?_of_plain plain, bind, Except.bind]
  split <;> rfl

/-- The lines of a stream are read one after another, each with the number of those before it that
have the same time. -/
theorem readValues_of_isValue {values : List (Int × Text)}
    (given : List.Forall₂ IsValue items values) (stream : GivenStream) (earlier : List Int)
    (reading : Reading) :
    readValues room window (Labels.ofMembers stream.labels) earlier items reading
      = .ok (reading.keep window (Entry.numberedAfter earlier (values.map stream.entry))) := by
  induction given generalizing earlier reading with
  | nil => rfl
  | @cons item value items values isValue _ inductionHypothesis =>
    rw [readValues, readValue_of_isValue isValue]
    refine (inductionHypothesis (value.1 :: earlier) _).trans (congrArg Except.ok ?_)
    -- A line outside the window is not kept, but its time counts for the lines after it.
    rw [List.map_cons, Entry.numberedAfter_cons, Reading.keep_cons]
    congr 1
    by_cases inside : window.contains value.1 <;>
      simp [Reading.keep, GivenStream.entry, inside]

theorem member_eq_ok {name : Text} {members : List (Text × Json)} {value : Json}
    (found : Json.lookup? name members = some value) :
    member name (.object members) = .ok (if value.isEmpty then none else some value) := by
  cases isEmpty : value.isEmpty <;> simp [member, found, isEmpty]

theorem readStream_of_isStream {stream : GivenStream} (given : IsStream item stream)
    (reading : Reading) :
    readStream room window reading item = .ok (reading.keep window stream.entries) := by
  obtain @⟨members, labels, items, values, labelled, filled, valued⟩ := given
  have isLabels : Batch.labels
      (if (Json.object labels).isEmpty then none else some (.object labels))
        = .ok (Labels.ofMembers labels) := by
    cases labels <;> rfl
  have isItems : optionalItems (if (Json.list items).isEmpty then none else some (.list items))
      = .ok items := by
    cases items <;> rfl
  rw [readStream, member_eq_ok labelled]
  change (Batch.labels _ >>= fun labels => _) = _
  rw [isLabels, member_eq_ok filled]
  change (optionalItems _ >>= fun values => _) = _
  rw [isItems]
  exact readValues_of_isValue valued ⟨labels, values⟩ [] reading

theorem foldlM_of_isStream {streams : List GivenStream}
    (given : List.Forall₂ IsStream items streams) (reading : Reading) :
    items.foldlM (readStream room window) reading
      = .ok (reading.keep window (streams.flatMap GivenStream.entries)) := by
  induction given generalizing reading with
  | nil => rfl
  | cons isStream _ inductionHypothesis =>
    rw [List.foldlM_cons, readStream_of_isStream isStream, List.flatMap_cons, Reading.keep_append]
    exact inductionHypothesis _

/-- A response that gives streams is read as what it gives. -/
theorem ofResponse_of_isSuccess {response : Json} {streams : List GivenStream}
    (given : IsSuccess response streams) (pageSize : Int) :
    ofResponse room pageSize window response
      = .ok (ofReading pageSize
          (Reading.keep ⟨[], []⟩ window (streams.flatMap GivenStream.entries))) := by
  obtain @⟨members, data, items, _, succeeds, holds, listed, given⟩ := given
  have reports : reportsSuccess members = true := by
    unfold reportsSuccess
    cases status : Json.lookup? "status" members with
    | none => rfl
    | some word => rw [succeeds word status]; exact beq_self_eq_true success
  have found : Batch.streams (.object members) = .ok items := by
    have nonempty : (Json.object data).isEmpty = false := by
      cases data with
      | nil => cases listed
      | cons => rfl
    rw [Batch.streams, member_eq_ok holds, nonempty]
    change (member "result" (.object data) >>= optionalItems) = _
    rw [member_eq_ok listed]
    cases items <;> rfl
  simp only [ofResponse, reports, Bool.not_true, found, bind, Except.bind]
  exact congrArg (· >>= fun reading => pure (ofReading pageSize reading))
    (foldlM_of_isStream given ⟨[], []⟩)

/-- A batch says the largest of all times that were read if there are enough of them. -/
theorem next_ofReading_eq_some {pageSize : Int} {reading : Reading} {time : Int} :
    (ofReading pageSize reading).next = some time
      ↔ pageSize ≤ reading.timestamps.length ∧ time ∈ reading.timestamps
        ∧ ∀ other ∈ reading.timestamps, other ≤ time := by
  simp only [ofReading, latest?]
  split
  · rename_i full
    simp only [List.max?_eq_some_iff, full, true_and]
  · rename_i notFull
    simp only [notFull, false_and, reduceCtorEq]

theorem next_ofReading_eq_none {pageSize : Int} {reading : Reading} (positive : 1 ≤ pageSize) :
    (ofReading pageSize reading).next = none ↔ (reading.timestamps.length : Int) < pageSize := by
  simp only [ofReading, latest?]
  split
  · rename_i full
    have nonempty : reading.timestamps ≠ [] := by
      rintro isEmpty
      rw [isEmpty, List.length_nil] at full
      omega
    simp only [List.max?_eq_none_iff, nonempty, false_iff]
    omega
  · rename_i notFull
    simp only [true_iff]
    omega

end Batch

/-! ## Asking -/

namespace Client

variable {ω : Type} {sender : Sender ω} {client : Client} {scope : Scope} {window : Window}
  {world : ω} {response : Response} {payload : Json} {streams : List GivenStream}

/-- What is closed meanwhile does not matter for what is made of an answer. -/
theorem batch_query (sender : Sender ω) (client : Client) (scope : Scope) (window : Window)
    (world : ω) :
    (client.query sender scope window world).batch
      = client.readAnswer sender (client.queryParameters scope window) window
          (client.connection.execute sender queryPath (client.queryParameters scope window)
            world).answer := by
  simp only [query, Connection.execute]
  split
  · rfl
  · split <;> rfl

/-- A query that is answered with a response of success is answered with the batch in it. -/
theorem batch_query_of_response
    (answered : (client.connection.execute sender queryPath (client.queryParameters scope window)
      world).answer = .ok response)
    (succeeds : response.isSuccess = true) (read : response.json = .ok payload) :
    (client.query sender scope window world).batch
      = Batch.ofResponse sender.room client.pageSize window payload := by
  rw [batch_query, answered]
  simp only [readAnswer, succeeds, if_true, read]

/-- The batch for a response that gives streams holds the entries of all its streams that lie in the
window, with those at one position in the order in which they are given.  If the response gives as
many lines as make a page, wherever they lie, the batch says the largest of their times. -/
theorem page_of_success
    (answered : (client.connection.execute sender queryPath (client.queryParameters scope window)
      world).answer = .ok response)
    (succeeds : response.isSuccess = true) (read : response.json = .ok payload)
    (given : Batch.IsSuccess payload streams) (positive : 1 ≤ client.pageSize) :
    ∃ parts batch, List.Forall₂ GivenStream.MadeInto streams parts
      ∧ (client.query sender scope window world).batch = .ok batch
      ∧ StablySorted SortKey.le Entry.sortKey
          (parts.flatten.filter fun entry => window.contains entry.timestamp) batch.entries
      ∧ (let times := streams.flatMap GivenStream.times
        (∀ time, batch.next = some time
            ↔ client.pageSize ≤ times.length ∧ time ∈ times ∧ ∀ other ∈ times, other ≤ time)
          ∧ (batch.next = none ↔ (times.length : Int) < client.pageSize)) := by
  let entries := streams.flatMap GivenStream.entries
  let reading := Batch.Reading.keep ⟨[], []⟩ window entries
  have times : reading.timestamps = (streams.flatMap GivenStream.times).reverse := by
    simp [reading, entries, Batch.Reading.keep, List.map_flatMap]
  refine ⟨streams.map GivenStream.entries, Batch.ofReading client.pageSize reading, ?_, ?_, ?_, ?_⟩
  · rw [List.forall₂_map_right_iff, List.forall₂_same]
    exact fun stream _ => stream.madeInto_entries
  · rw [batch_query_of_response answered succeeds read, Batch.ofResponse_of_isSuccess given]
  · have kept : reading.entries.reverse
        = entries.filter fun entry => window.contains entry.timestamp := by
      simp [reading, Batch.Reading.keep]
    rw [← List.flatMap_def, ← kept]
    exact stablySorted_mergeSort SortKey.le_trans SortKey.le_total _
  · intro
    refine ⟨fun time => ?_, ?_⟩
    · rw [Batch.next_ofReading_eq_some, times]
      simp only [List.length_reverse, List.mem_reverse]
      rfl
    · rw [Batch.next_ofReading_eq_none positive, times, List.length_reverse]

/-- Lines of two streams in no order, two of them at one time and one after the first eight
nanoseconds. -/
def unorderedText : Text :=
  Store.answerText (Store.streamText "a" "[\"7\",\"x\"],[\"5\",\"y\"],[\"7\",\"z\"]" ++ ","
    ++ Store.streamText "b" "[\"9\",\"u\"],[\"5\",\"v\"]")

/-- The streams that they are lines of. -/
def unordered : List GivenStream :=
  [⟨[("job", .text "a")], [(7, "x"), (5, "y"), (7, "z")]⟩,
    ⟨[("job", .text "b")], [(9, "u"), (5, "v")]⟩]

/-- The value that a response gives for these streams. -/
def unorderedPayload : Json :=
  let value (stamp text : Text) : Json := .list [.text stamp, .text text]
  let stream (job : Text) (values : List Json) : Json :=
    .object [("stream", .object [("job", .text job)]), ("values", .list values)]
  .object [("status", .text "success"), ("data", .object [("resultType", .text "streams"),
    ("result", .list [stream "a" [value "7" "x", value "5" "y", value "7" "z"],
      stream "b" [value "9" "u", value "5" "v"]])])]

theorem read_unorderedText :
    (Response.ofBody Host.answerDepth 200 unorderedText.utf8).json = .ok unorderedPayload := by
  cbv

theorem isSuccess_unordered : Batch.IsSuccess unorderedPayload unordered := by
  have value {stamp : Text} {time : Int} (text : Text) (written : Numeral.int? stamp = .ok time)
      (plain : text.hasSurrogate = false) :
      Batch.IsValue (.list [.text stamp, .text text]) (time, text) :=
    .pair (.text written) plain
  have five : Numeral.int? "5" = .ok 5 := by decide +kernel
  have seven : Numeral.int? "7" = .ok 7 := by decide +kernel
  have nine : Numeral.int? "9" = .ok 9 := by decide +kernel
  refine .object (fun status isStatus => ?_) rfl rfl (.cons (.object rfl rfl ?_)
    (.cons (.object rfl rfl ?_) .nil))
  · cases isStatus
    rfl
  · exact .cons (value "x" seven rfl) (.cons (value "y" five rfl)
      (.cons (value "z" seven rfl) .nil))
  · exact .cons (value "u" nine rfl) (.cons (value "v" five rfl) .nil)

/-- The lines make a page of five, and the last time is that of a line outside the window. -/
theorem page_of_unordered :
    let client : Client := ⟨⟨"http://loki:3100", none, none, true, 10, false⟩, ⟨"ci", none⟩, 5⟩
    let host := Host.answering (fun _ => 0) fun _ _ => unorderedText
    let window : Window := ⟨0, 8⟩
    (Response.ofBody Host.answerDepth 200 unorderedText.utf8).json = .ok unorderedPayload
      ∧ Batch.IsSuccess unorderedPayload unordered
      ∧ ∃ batch,
        (client.query host.sender (Scope.firstMicrosecond true) window 0).batch = .ok batch
          ∧ batch.next = some 9 := by
  intro client host window
  have answered : (client.connection.execute host.sender queryPath
      (client.queryParameters (Scope.firstMicrosecond true) window) 0).answer
        = .ok (.ofBody Host.answerDepth 200 unorderedText.utf8) :=
    answer_of_answering rfl rfl rfl rfl rfl _ _ _ _
  obtain ⟨_, batch, -, answer, -, next, -⟩ :=
    page_of_success answered rfl read_unorderedText isSuccess_unordered (by decide)
  exact ⟨read_unorderedText, isSuccess_unordered, batch, answer, (next 9).mpr (by decide)⟩

end Client
end RunLog
