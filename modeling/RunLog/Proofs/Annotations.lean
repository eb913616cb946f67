import RunLog.Proofs.Sequencing
import RunLog.Proofs.WholeNumbers

/-!
# Labels with notes

The label with the notes of a line may hold any text.  If the text is a list of notes, they are put
back into the line, and if it is anything else, the line stays as it is.  Two kinds of texts are not
ignored: one whose brackets stand inside each other too deeply, and a list in which the first item
that is no note has an infinite position.
-/

namespace RunLog
namespace Note

/-! ## Items -/

/-- An item of a list is a note: an object with a position that counts as a whole number and with a
content whose text can be written as bytes. -/
inductive IsWritten : Json → Note → Prop
  | object {members : List (Text × Json)} {place content : Json} {position : Int}
      (placed : Json.lookup? "position" members = some place) (counts : place.CountsAs position)
      (filled : Json.lookup? "note" members = some content)
      (plain : content.display.hasSurrogate = false) :
    IsWritten (.object members) ⟨position, content.display.utf8⟩

/-- An item of a list has an infinite position. -/
inductive IsUnbounded : Json → Prop
  | object {members : List (Text × Json)} {place : Json}
      (placed : Json.lookup? "position" members = some place) (infinite : place.IsInfinite) :
    IsUnbounded (.object members)

variable {item : Json} {note : Note} {failure : Failure}

theorem contentOf_eq_ok {content : Json} {bytes : Bytes} :
    contentOf content = .ok bytes
      ↔ content.display.hasSurrogate = false ∧ bytes = content.display.utf8 := by
  unfold contentOf Text.utf8?
  cases content.display.hasSurrogate <;> simp [eq_comm]

theorem contentOf_ne_failure (content : Json) (failure : Failure) :
    contentOf content ≠ .error (.failure failure) := by
  unfold contentOf
  split <;> simp

/-- Items are read as the notes that they are. -/
theorem ofItem_eq_ok : ofItem item = .ok note ↔ IsWritten item note := by
  constructor
  · intro read
    unfold ofItem at read
    split at read
    case h_2 => cases read
    case h_1 members =>
      unfold ofObject at read
      split at read
      case h_2 => cases read
      case h_1 place placed =>
        obtain ⟨position, counts, read⟩ := bind_eq_ok.mp read
        split at read
        case h_2 => cases read
        case h_1 content filled =>
          obtain ⟨bytes, isContent, same⟩ := bind_eq_ok.mp read
          obtain ⟨plain, rfl⟩ := contentOf_eq_ok.mp isContent
          cases Except.ok.inj same
          exact .object placed (positionOf_eq_ok.mp counts) filled plain
  · rintro ⟨placed, counts, filled, plain⟩
    simp only [ofItem, ofObject, placed, positionOf_eq_ok.mpr counts, filled,
      contentOf_eq_ok.mpr ⟨plain, rfl⟩]
    rfl

/-- An item that is not ignored although it is no note has an infinite position. -/
theorem ofItem_eq_failure :
    ofItem item = .error (.failure failure)
      ↔ IsUnbounded item ∧ failure = .malformed .outOfRange := by
  constructor
  · intro read
    unfold ofItem at read
    split at read
    case h_2 => cases read
    case h_1 members =>
      unfold ofObject at read
      split at read
      case h_2 => cases read
      case h_1 place placed =>
        rcases bind_eq_error.mp read with failed | ⟨position, -, read⟩
        · obtain ⟨infinite, same⟩ := positionOf_eq_failure.mp failed
          exact ⟨.object placed infinite, same⟩
        · split at read
          case h_2 => cases read
          case h_1 content filled =>
            rcases bind_eq_error.mp read with failed | ⟨bytes, -, nothing⟩
            · exact absurd failed (contentOf_ne_failure content failure)
            · cases nothing
  · rintro ⟨⟨placed, infinite⟩, rfl⟩
    simp only [ofItem, ofObject, placed, positionOf_eq_failure.mpr ⟨infinite, rfl⟩]
    rfl

/-! ## Texts -/

/-- A text in which brackets stand inside each other to a given depth at most is a list of notes. -/
def Describes (depth : Nat) (text : Text) (notes : List Note) : Prop :=
  ∃ items, Json.readWithin depth text = .ok (.list items) ∧ List.Forall₂ IsWritten items notes

/-- The reading of a text for notes breaks off with a failure. -/
inductive BreaksOff (depth : Nat) (text : Text) : Failure → Prop
  /-- Brackets stand inside each other too deeply. -/
  | tooDeep (read : Json.readWithin depth text = .error .tooDeep) :
    BreaksOff depth text (.malformed .tooDeep)
  /-- The first item of a list that is no note has an infinite position. -/
  | unbounded {before after : List Json} {item : Json}
      (read : Json.readWithin depth text = .ok (.list (before ++ item :: after)))
      (written : ∀ other ∈ before, ∃ note, IsWritten other note) (unbounded : IsUnbounded item) :
    BreaksOff depth text (.malformed .outOfRange)

variable {depth : Nat} {text : Text} {notes : List Note}

/-- The notes of a text that is a list of notes are read. -/
theorem ofLabel_of_describes (describes : Describes depth text notes) :
    ofLabel depth (.text text) = .ok notes := by
  obtain ⟨items, read, written⟩ := describes
  simp only [ofLabel, read, ofValue]
  exact mapM_eq_ok.mpr (written.imp fun item note isNote => ofItem_eq_ok.mpr isNote)

/-- Where notes are read, the text is a list of them, or there are none. -/
theorem describes_of_ofLabel (read : ofLabel depth (.text text) = .ok notes) :
    Describes depth text notes ∨ notes = [] := by
  simp only [ofLabel] at read
  split at read
  case h_2 | h_3 => cases read
  case h_1 value isValue =>
    unfold ofValue at read
    split at read
    · refine Or.inl ⟨_, isValue, (mapM_eq_ok.mp read).imp fun item note isNote => ?_⟩
      exact ofItem_eq_ok.mp isNote
    · split at read
      · exact Or.inr (Except.ok.inj read).symm
      · cases read
    · split at read
      · exact Or.inr (Except.ok.inj read).symm
      · cases read
    · cases read

theorem ofLabel_eq_failure :
    ofLabel depth (.text text) = .error (.failure failure) ↔ BreaksOff depth text failure := by
  constructor
  · intro read
    simp only [ofLabel] at read
    split at read
    case h_2 => cases read
    case h_3 isTooDeep =>
      cases read
      exact .tooDeep isTooDeep
    case h_1 value isValue =>
      unfold ofValue at read
      split at read
      · obtain ⟨before, item, after, rfl, readBefore, failed⟩ := mapM_eq_error.mp read
        obtain ⟨unbounded, rfl⟩ := ofItem_eq_failure.mp failed
        refine .unbounded isValue (fun other among => ?_) unbounded
        exact (readBefore other among).imp fun note isNote => ofItem_eq_ok.mp isNote
      · split at read <;> cases read
      · split at read <;> cases read
      · cases read
  · rintro (isTooDeep | ⟨isValue, written, unbounded⟩)
    · simp only [ofLabel, isTooDeep]
    · simp only [ofLabel, isValue, ofValue]
      refine mapM_eq_error.mpr ⟨_, _, _, rfl, fun other among => ?_,
        ofItem_eq_failure.mpr ⟨unbounded, rfl⟩⟩
      exact (written other among).imp fun note isNote => ofItem_eq_ok.mpr isNote

end Note

/-! ## Entries -/

/-- The text with the notes of an entry. -/
def Entry.HasNotes (entry : Entry) (text : Text) : Prop :=
  entry.labels.get? Note.labelName = some (.text text)

namespace Extractor

variable {entry : Entry} {text : Text} (depth : Nat)

/-- An empty label is read as no notes. -/
theorem renderNoted_of_hasNotes (has : entry.HasNotes text) :
    renderNoted depth entry =
      match Note.ofLabel depth (.text text) with
      | .ok notes => .ok (Note.splice entry.line notes)
      | .error .ignored => .ok entry.line
      | .error (.failure failure) => .error failure := by
  unfold Entry.HasNotes at has
  unfold renderNoted
  rw [has]
  cases text with
  | nil => rfl
  | cons point rest => rfl

theorem renderNoted_of_none (none : entry.labels.get? Note.labelName = none) :
    renderNoted depth entry = .ok entry.line := by
  rw [renderNoted, none]

/-- An entry whose labels are texts has a text with notes or no label for them. -/
theorem hasNotes_or_none (textual : ∀ label ∈ entry.labels, ∃ value, label.value = .text value) :
    (∃ text, entry.HasNotes text) ∨ entry.labels.get? Note.labelName = none := by
  let isTheirs (label : Label) : Bool := Label.sameName label.name (.text Note.labelName)
  cases found : entry.labels.find? isTheirs with
  | none => exact Or.inr (congrArg (Option.map _) found)
  | some label =>
    obtain ⟨text, isText⟩ := textual label (List.mem_of_find?_eq_some found)
    exact Or.inl ⟨text, (congrArg (Option.map _) found).trans (congrArg some isText)⟩

/-- An entry whose labels are texts fails to be made into bytes exactly if the text with its notes
breaks off.  Otherwise it is made into its line with the notes put back, if the text is a list of
notes, and into its line as it is, if the text is anything else. -/
theorem notes_put_back_or_ignored
    (textual : ∀ label ∈ entry.labels, ∃ value, label.value = .text value) :
    (∀ failure, (noted depth).render entry = .error failure
        ↔ ∃ text, entry.HasNotes text ∧ Note.BreaksOff depth text failure)
      ∧ ((∀ text failure, entry.HasNotes text → ¬Note.BreaksOff depth text failure) →
        ∃ bytes, (noted depth).render entry = .ok bytes
          ∧ (∀ text notes, entry.HasNotes text → Note.Describes depth text notes →
            bytes = Note.splice entry.line notes)
          ∧ ((∀ text notes, entry.HasNotes text → ¬Note.Describes depth text notes) →
            bytes = entry.line)) := by
  change (∀ failure, renderNoted depth entry = .error failure ↔ _)
    ∧ (_ → ∃ bytes, renderNoted depth entry = .ok bytes ∧ _)
  rcases hasNotes_or_none textual with ⟨text, has⟩ | none
  case inl =>
    have only {other : Text} : entry.HasNotes other ↔ other = text := by
      unfold Entry.HasNotes at has ⊢
      rw [has, Option.some.injEq, Json.text.injEq, eq_comm]
    rw [renderNoted_of_hasNotes depth has]
    simp only [only, exists_eq_left, ← Note.ofLabel_eq_failure]
    cases read : Note.ofLabel depth (.text text) with
    | ok notes =>
      refine ⟨by simp, fun _ => ⟨_, rfl, ?_, fun notDescribed => ?_⟩⟩
      · rintro _ others rfl describes
        cases read.symm.trans (Note.ofLabel_of_describes describes)
        rfl
      · obtain rfl := (Note.describes_of_ofLabel read).resolve_left (notDescribed text notes rfl)
        exact Note.splice_nil entry.line
    | error trouble =>
      cases trouble with
      | ignored =>
        refine ⟨by simp, fun _ => ⟨_, rfl, ?_, fun _ => rfl⟩⟩
        rintro _ notes rfl describes
        cases read.symm.trans (Note.ofLabel_of_describes describes)
      | failure found =>
        refine ⟨fun failure => by simp, fun unbroken => ?_⟩
        exact absurd read (unbroken text found rfl)
  case inr =>
    have hasNone (text : Text) : ¬entry.HasNotes text := by simp [Entry.HasNotes, none]
    rw [renderNoted_of_none depth none]
    refine ⟨fun failure => by simp [hasNone], fun _ => ⟨_, rfl, fun text notes has => ?_,
      fun _ => rfl⟩⟩
    exact absurd has (hasNone text)

/-- An entry of a stream with the given text for its notes. -/
def abcd (notes : Text) : Entry :=
  ⟨5, 0, Text.utf8 "abcd", Labels.ofMembers [("job", .text "a"), (Note.labelName, .text notes)]⟩

theorem textual_abcd (notes : Text) :
    ∀ label ∈ (abcd notes).labels, ∃ value, label.value = .text value := by
  simp [abcd, Labels.ofMembers, Label.named]

/-- The notes of a line, of which the second one has no whole number as its position. -/
def halfPlaced : Text :=
  "[\x7b\"position\":\"1\",\"note\":\"x\"\x7d,\x7b\"position\":\"y\",\"note\":\"z\"\x7d]"

theorem read_halfPlaced :
    Json.readWithin 2 halfPlaced
      = .ok (.list [.object [("position", .text "1"), ("note", .text "x")],
      .object [("position", .text "y"), ("note", .text "z")]]) := by
  cbv

/-- If one of the notes has no place, all of them are ignored. -/
theorem halfPlaced_ignored :
    (∀ label ∈ (abcd halfPlaced).labels, ∃ value, label.value = .text value)
      ∧ (noted 2).render (abcd halfPlaced) = .ok (Text.utf8 "abcd") := by
  have notDescribed (notes : List Note) : ¬Note.Describes 2 halfPlaced notes := by
    rintro ⟨items, isRead, written⟩
    cases read_halfPlaced.symm.trans isRead
    cases written with
    | cons _ others =>
      cases others with
      | cons isNote _ =>
        obtain ⟨placed, counts, -, -⟩ := isNote
        cases placed
        cases counts with
        | text numeral => cases numeral
  have unbroken (failure : Failure) : ¬Note.BreaksOff 2 halfPlaced failure := by
    rintro (isTooDeep | @⟨before, after, item, isRead, -, unbounded⟩)
    · cases read_halfPlaced.symm.trans isTooDeep
    · have split := Json.list.inj (Except.ok.inj (read_halfPlaced.symm.trans isRead))
      have among : item ∈ before ++ item :: after := by simp
      rw [← split] at among
      obtain ⟨placed, infinite⟩ := unbounded
      rcases List.mem_pair.mp among with same | same
      all_goals
        cases same
        cases placed
        cases infinite
  obtain ⟨bytes, rendered, -, unlessDescribed⟩ :=
    (notes_put_back_or_ignored 2 (textual_abcd halfPlaced)).2 fun text failure has => by
      cases has
      exact unbroken failure
  refine ⟨textual_abcd halfPlaced, ?_⟩
  rw [rendered, unlessDescribed]
  · rfl
  · intro text notes has
    cases has
    exact notDescribed notes

/-- A position beyond every double is infinite, and then there are no bytes at all. -/
theorem no_bytes_with_infinite_position :
    let entry := abcd "[\x7b\"position\":1e999,\"note\":\"x\"\x7d]"
    (∀ label ∈ entry.labels, ∃ value, label.value = .text value)
      ∧ (noted 2).render entry = .error (.malformed .outOfRange) :=
  ⟨textual_abcd _, by decide +kernel⟩

end Extractor
end RunLog
