import RunLog.Batch
import RunLog.Proofs.Sequencing

/-!
# Reading a response

What comes of a response is followed through the reader: over the values of a stream and over the
streams of a response.  Whatever the backend answers, only lines inside the window that was asked
for are kept, with the labels of their stream.
-/

namespace RunLog

namespace Batch

variable {room : Int} {window : Window}

/-- What is known of an entry that was read from a stream. -/
structure FromStream (window : Window) (stream : Json) (entry : Entry) : Prop where
  /-- It lies inside the window. -/
  inside : window.contains entry.timestamp = true
  /-- It has the labels of the stream. -/
  labels : (member "stream" stream >>= labels) = .ok entry.labels

/-- A line that is kept lies inside the window, and has the labels that it was read with. -/
theorem contains_of_readValue {labels : Labels} {earlier : List Int} {value : Json} {time : Int}
    {found : Option Entry} (read : readValue room window labels earlier value = .ok (time, found)) :
    ∀ entry ∈ found, window.contains entry.timestamp = true ∧ entry.labels = labels := by
  simp only [readValue, bind_eq_ok] at read
  obtain ⟨written, -, stamp, -, text, -, read⟩ := read
  split at read
  · rename_i inside
    obtain ⟨line, -, read⟩ := bind_eq_ok.mp read
    cases Except.ok.inj read
    intro entry present
    cases Option.mem_some_iff.mp present
    exact ⟨inside, rfl⟩
  · cases Except.ok.inj read
    simp

theorem contains_of_readValues {labels : Labels} {values : List Json} :
    ∀ {earlier : List Int} {before after : Reading},
      readValues room window labels earlier values before = .ok after →
      ∀ entry ∈ after.entries, entry ∈ before.entries
        ∨ window.contains entry.timestamp = true ∧ entry.labels = labels := by
  induction values with
  | nil =>
    intro earlier before after read entry present
    cases Except.ok.inj read
    exact Or.inl present
  | cons value rest inductionHypothesis =>
    intro earlier before after read entry present
    rw [readValues, bind_eq_ok] at read
    obtain ⟨⟨time, found⟩, readFirst, readRest⟩ := read
    rcases inductionHypothesis readRest entry present with first | later
    · rcases List.mem_append.mp first with new | old
      · exact Or.inr (contains_of_readValue readFirst entry (Option.mem_toList.mp new))
      · exact Or.inl old
    · exact Or.inr later

theorem fromStream_of_readStream {before after : Reading} {stream : Json}
    (read : readStream room window before stream = .ok after) :
    ∀ entry ∈ after.entries, entry ∈ before.entries ∨ FromStream window stream entry := by
  simp only [readStream, bind_eq_ok] at read
  obtain ⟨found, isMember, labels, areLabels, -, -, values, -, read⟩ := read
  intro entry present
  refine (contains_of_readValues read entry present).imp_right
    fun ⟨inside, sameLabels⟩ => ⟨inside, ?_⟩
  exact bind_eq_ok.mpr ⟨found, isMember, areLabels.trans (congrArg _ sameLabels.symm)⟩

/-- The entries of a batch are those that were read. -/
theorem mem_ofReading {pageSize : Int} {reading : Reading} {entry : Entry} :
    entry ∈ (ofReading pageSize reading).entries ↔ entry ∈ reading.entries :=
  (Entry.sorted_perm _).mem_iff.trans List.mem_reverse

/-- A response that can be read is an object with streams that can be read one after the other. -/
theorem reading_of_ofResponse {pageSize : Int} {response : Json} {batch : Batch}
    (read : ofResponse room pageSize window response = .ok batch) :
    ∃ found reading, streams response = .ok found
      ∧ found.foldlM (readStream room window) ⟨[], []⟩ = .ok reading
      ∧ batch = ofReading pageSize reading := by
  unfold ofResponse at read
  split at read
  case h_2 => cases read
  case h_1 members =>
    split at read
    · cases read
    · obtain ⟨-, -, read⟩ := bind_eq_ok.mp read
      obtain ⟨found, foundStreams, read⟩ := bind_eq_ok.mp read
      obtain ⟨reading, folded, read⟩ := bind_eq_ok.mp read
      exact ⟨found, reading, foundStreams, folded, (Except.ok.inj read).symm⟩

/-- Every entry of a batch was read from a stream of the response. -/
theorem fromStream_of_ofResponse {pageSize : Int} {response : Json} {batch : Batch}
    (read : ofResponse room pageSize window response = .ok batch) :
    ∀ entry ∈ batch.entries, ∃ found, streams response = .ok found
      ∧ ∃ stream ∈ found, FromStream window stream entry := by
  obtain ⟨found, reading, isFound, folded, rfl⟩ := reading_of_ofResponse read
  intro entry present
  refine ⟨found, isFound, ?_⟩
  refine foldlM_invariant
    (fun reading => ∀ entry ∈ reading.entries, ∃ stream ∈ found, FromStream window stream entry)
    (fun before stream after among read holds entry present => ?_) folded (by simp) entry
    (mem_ofReading.mp present)
  exact (fromStream_of_readStream read entry present).elim (holds entry)
    fun fromStream => ⟨stream, among, fromStream⟩

/-- Whatever the backend answers, the entries of a batch lie inside the window that was asked
for. -/
theorem contains_of_ofResponse {pageSize : Int} {response : Json} {batch : Batch}
    (read : ofResponse room pageSize window response = .ok batch) :
    ∀ entry ∈ batch.entries, window.contains entry.timestamp = true := by
  intro entry present
  obtain ⟨found, -, stream, -, fromStream⟩ := fromStream_of_ofResponse read entry present
  exact fromStream.inside

end Batch
end RunLog
