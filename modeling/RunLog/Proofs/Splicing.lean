import Mathlib.Data.List.Nodup
import Mathlib.Data.List.Perm.Basic
import RunLog.Proofs.Annotations
import RunLog.Proofs.StableSorting

/-!
# Putting notes into a line

The places of its notes cut a line into pieces.  A line with notes is made of these pieces and of
the contents of the notes in turn, so without the notes it is the line again.  Only notes at one
position depend on the order in which they were written.
-/

namespace RunLog
namespace Note

/-! ## Pieces -/

/-- Where a note goes in a line: at its position, but not before the line and not after it. -/
def placeIn (line : Bytes) (note : Note) : Nat :=
  (min (max note.position 0) line.length).toNat

/-- What stands in a line between two places. -/
def between (line : Bytes) (first last : Nat) : Bytes :=
  (line.take last).drop first

/-- The pieces into which places cut what stands in a line after the first place. -/
def pieces (line : Bytes) (first : Nat) (places : List Nat) : List Bytes :=
  List.zipWith (between line) (first :: places) (places ++ [line.length])

/-- Pieces and contents in turn, where there is one more piece than there are contents. -/
def alternate (pieces contents : List Bytes) : Bytes :=
  (List.zipWith (· ++ ·) pieces (contents ++ [[]])).flatten

section Pieces

variable {line : Bytes} {first place : Nat} {places : List Nat}

@[simp] theorem between_length (line : Bytes) (first : Nat) :
    between line first line.length = line.drop first := by
  rw [between, List.take_length]

/-- What stands before a place and what stands after it is everything. -/
theorem between_append (inOrder : first ≤ place) (inside : place ≤ line.length) :
    between line first place ++ line.drop place = line.drop first := by
  have long : first ≤ (line.take place).length := by
    rwa [List.length_take, Nat.min_eq_left inside]
  rw [between, ← List.drop_append_of_le_length long, List.take_append_drop]

@[simp] theorem pieces_nil (line : Bytes) (first : Nat) :
    pieces line first [] = [line.drop first] := by
  simp [pieces]

@[simp] theorem pieces_cons (line : Bytes) (first place : Nat) (places : List Nat) :
    pieces line first (place :: places) = between line first place :: pieces line place places :=
  rfl

@[simp] theorem length_pieces (line : Bytes) (first : Nat) (places : List Nat) :
    (pieces line first places).length = places.length + 1 := by
  simp [pieces]

/-- The pieces of a line are the line. -/
theorem flatten_pieces (inOrder : (first :: places).Pairwise (· ≤ ·))
    (inside : ∀ place ∈ places, place ≤ line.length) :
    (pieces line first places).flatten = line.drop first := by
  induction places generalizing first with
  | nil => simp
  | cons place places inductionHypothesis =>
    obtain ⟨placeInside, othersInside⟩ := List.forall_mem_cons.mp inside
    rw [pieces_cons, List.flatten_cons, inductionHypothesis inOrder.of_cons othersInside]
    exact between_append (List.rel_of_pairwise_cons inOrder List.mem_cons_self) placeInside

@[simp] theorem alternate_singleton (piece : Bytes) : alternate [piece] [] = piece := by
  simp [alternate]

@[simp] theorem alternate_cons (piece content : Bytes) (pieces contents : List Bytes) :
    alternate (piece :: pieces) (content :: contents)
      = piece ++ content ++ alternate pieces contents :=
  rfl

/-- Pieces and contents in turn hold the bytes of all of them. -/
theorem perm_alternate {pieces contents : List Bytes}
    (oneMore : pieces.length = contents.length + 1) :
    (alternate pieces contents).Perm (pieces.flatten ++ contents.flatten) := by
  induction contents generalizing pieces with
  | nil =>
    obtain ⟨piece, rfl⟩ := List.length_eq_one_iff.mp oneMore
    simp
  | cons content contents inductionHypothesis =>
    cases pieces with
    | nil => cases oneMore
    | cons piece pieces =>
      have onward := inductionHypothesis (Nat.succ.inj oneMore)
      rw [alternate_cons, List.flatten_cons, List.flatten_cons, List.append_assoc,
        List.append_assoc]
      refine List.Perm.append_left piece ?_
      exact (onward.append_left content).trans (List.perm_append_comm_assoc _ _ _)

end Pieces

/-! ## Places -/

section Places

variable {line : Bytes} {notes : List Note} {note : Note}

theorem placeIn_eq (line : Bytes) (note : Note) :
    placeIn line note = min note.position.toNat line.length := by
  unfold placeIn
  omega

theorem placeIn_le (line : Bytes) (note : Note) : placeIn line note ≤ line.length := by
  rw [placeIn_eq]
  exact Nat.min_le_right _ _

theorem placeIn_mono {later : Note} (inOrder : note.position ≤ later.position) :
    placeIn line note ≤ placeIn line later := by
  unfold placeIn
  omega

/-- The rest of a line is spliced from pieces and contents.  The notes come in order, and so each of
them is put at its own place although it is not to go before what was written. -/
theorem spliceFrom_eq {first : Nat}
    (inOrder : notes.Pairwise fun left right => left.position ≤ right.position)
    (after : ∀ note ∈ notes, first ≤ placeIn line note) :
    spliceFrom line first notes
      = alternate (pieces line first (notes.map (placeIn line))) (notes.map content) := by
  induction notes generalizing first with
  | nil => simp [spliceFrom]
  | cons note rest inductionHypothesis =>
    obtain ⟨noteAfter, -⟩ := List.forall_mem_cons.mp after
    -- What was written ends before the note's own place, so the two ways to clamp it agree.
    have next : min (max note.position.toNat first) line.length = placeIn line note := by
      rw [placeIn_eq] at noteAfter ⊢
      omega
    have onward : spliceFrom line (placeIn line note) rest = _ :=
      inductionHypothesis inOrder.of_cons fun later among =>
        placeIn_mono (List.rel_of_pairwise_cons inOrder among)
    rw [spliceFrom, next, onward]
    rfl

end Places

/-! ## Orders -/

section Orders

variable {line : Bytes} {notes others : List Note}

/-- Notes are stably sorted by their positions. -/
theorem stablySorted_sorted (notes : List Note) :
    StablySorted (fun left right : Int => decide (left ≤ right)) position notes (sorted notes) :=
  stablySorted_mergeSort
    (fun first second third before after => by
      simp only [decide_eq_true_eq] at before after ⊢
      exact Int.le_trans before after)
    (fun first second => by simpa using Int.le_total first second) notes

theorem pairwise_sorted (notes : List Note) :
    (sorted notes).Pairwise fun left right => left.position ≤ right.position :=
  (stablySorted_sorted notes).inOrder.imp fun inOrder => of_decide_eq_true inOrder

/-- Notes at different positions are in the same order however they were written. -/
theorem sorted_eq_of_perm (different : (notes.map position).Nodup) (same : others.Perm notes) :
    sorted others = sorted notes := by
  have isPerm (members : List Note) : (sorted members).Perm members :=
    (stablySorted_sorted members).perm
  have reordered : (sorted others).Perm (sorted notes) :=
    (isPerm others).trans (same.trans (isPerm notes).symm)
  refine List.Perm.eq_of_pairwise (fun left right isLeft isRight before after => ?_)
    (pairwise_sorted others) (pairwise_sorted notes) reordered
  exact List.inj_on_of_nodup_map different (same.mem_iff.mp ((isPerm others).mem_iff.mp isLeft))
    ((isPerm notes).mem_iff.mp isRight) (Int.le_antisymm before after)

/-- A line is spliced from its pieces and the contents of the sorted notes. -/
theorem splice_eq (line : Bytes) (notes : List Note) :
    splice line notes
      = alternate (pieces line 0 ((sorted notes).map (placeIn line)))
        ((sorted notes).map content) :=
  spliceFrom_eq (pairwise_sorted notes) fun _ _ => Nat.zero_le _

/-- The places of notes in order cut a line into pieces. -/
theorem flatten_pieces_map_placeIn (line : Bytes)
    (inOrder : notes.Pairwise fun left right => left.position ≤ right.position) :
    (pieces line 0 (notes.map (placeIn line))).flatten = line := by
  rw [flatten_pieces, List.drop_zero]
  · refine List.pairwise_cons.mpr ⟨fun place _ => Nat.zero_le place, ?_⟩
    exact List.pairwise_map.mpr (inOrder.imp placeIn_mono)
  · rintro place isPlace
    obtain ⟨note, -, rfl⟩ := List.mem_map.mp isPlace
    exact placeIn_le line note

end Orders

end Note

namespace Extractor

variable {depth : Nat} {entry : Entry} {text : Text} {items : List Json} {notes : List Note}

theorem render_of_written (has : entry.HasNotes text)
    (read : Json.readWithin depth text = .ok (.list items))
    (written : List.Forall₂ Note.IsWritten items notes) :
    (noted depth).render entry = .ok (Note.splice entry.line notes) := by
  change renderNoted depth entry = _
  rw [renderNoted_of_hasNotes depth has, Note.ofLabel_of_describes ⟨items, read, written⟩]

/-- An entry whose notes are written in a text is made into the pieces of its line with the contents
of its notes between them, where the notes are stably sorted by their positions and cut the line at
their places.  Without the notes the pieces are the line, and no byte is lost or repeated.  If the
positions of the notes are all different, it does not matter in which order they are written. -/
theorem notes_spliced (has : entry.HasNotes text)
    (read : Json.readWithin depth text = .ok (.list items))
    (written : List.Forall₂ Note.IsWritten items notes) :
    ∃ order,
      StablySorted (fun left right : Int => decide (left ≤ right)) Note.position notes order
        ∧ (let pieces := Note.pieces entry.line 0 (order.map (Note.placeIn entry.line))
          let rendered := Note.alternate pieces (order.map Note.content)
          (noted depth).render entry = .ok rendered
            ∧ pieces.flatten = entry.line
            ∧ rendered.Perm (entry.line ++ (notes.map Note.content).flatten)
            ∧ ((notes.map Note.position).Nodup →
              ∀ (other : Entry) (otherText : Text) (otherItems : List Json),
                other.line = entry.line → other.HasNotes otherText →
                Json.readWithin depth otherText = .ok (.list otherItems) → otherItems.Perm items →
                (noted depth).render other = .ok rendered)) := by
  have tiled := Note.flatten_pieces_map_placeIn entry.line (Note.pairwise_sorted notes)
  refine ⟨Note.sorted notes, Note.stablySorted_sorted notes, ?_, tiled, ?_, ?_⟩
  · rw [render_of_written has read written, Note.splice_eq]
  · refine (Note.perm_alternate (by simp)).trans ?_
    rw [tiled]
    exact (((Note.stablySorted_sorted notes).perm.map Note.content).flatten).append_left entry.line
  · intro different other otherText otherItems sameLine otherHas otherRead reordered
    obtain ⟨otherNotes, otherWritten, samePerm⟩ := List.perm_comp_forall₂ reordered written
    rw [render_of_written otherHas otherRead otherWritten, Note.splice_eq, sameLine,
      Note.sorted_eq_of_perm different samePerm]

/-- Notes that are not in order: one past the end of a line, two before its start and one inside. -/
def scattered : List Note :=
  [⟨9, Text.utf8 "z"⟩, ⟨-3, Text.utf8 "x"⟩, ⟨2, Text.utf8 "y"⟩, ⟨-3, Text.utf8 "w"⟩]

/-- The notes as they are written, with numerals for their positions. -/
def scatteredText : Text :=
  let written (position note : Text) : Text :=
    "\x7b\"position\":\"" ++ position ++ "\",\"note\":\"" ++ note ++ "\"\x7d"
  "[" ++ written "9" "z" ++ "," ++ written "-3" "x" ++ "," ++ written "2" "y" ++ ","
    ++ written "-3" "w" ++ "]"

/-- The values that the text holds. -/
def scatteredItems : List Json :=
  [.object [("position", .text "9"), ("note", .text "z")],
    .object [("position", .text "-3"), ("note", .text "x")],
    .object [("position", .text "2"), ("note", .text "y")],
    .object [("position", .text "-3"), ("note", .text "w")]]

theorem read_scattered : Json.readWithin 2 scatteredText = .ok (.list scatteredItems) := by
  cbv

theorem written_scattered : List.Forall₂ Note.IsWritten scatteredItems scattered := by
  have written {place : Json} {position : Int} (counts : place.CountsAs position) (content : Text)
      (plain : content.hasSurrogate = false) :
      Note.IsWritten (.object [("position", place), ("note", .text content)])
        ⟨position, content.utf8⟩ :=
    @Note.IsWritten.object _ _ (.text content) _ rfl counts rfl plain
  have nine : Numeral.int? "9" = .ok 9 := by decide +kernel
  have two : Numeral.int? "2" = .ok 2 := by decide +kernel
  have before : Numeral.int? "-3" = .ok (-3) := by decide +kernel
  exact .cons (written (.text nine) "z" rfl) (.cons (written (.text before) "x" rfl)
    (.cons (written (.text two) "y" rfl) (.cons (written (.text before) "w" rfl) .nil)))

/-- The notes in order. -/
def inTurn : List Note :=
  [⟨-3, Text.utf8 "x"⟩, ⟨-3, Text.utf8 "w"⟩, ⟨2, Text.utf8 "y"⟩, ⟨9, Text.utf8 "z"⟩]

theorem stablySorted_inTurn :
    StablySorted (fun left right : Int => decide (left ≤ right)) Note.position scattered
      inTurn where
  perm := by decide +kernel
  inOrder := by decide +kernel
  stable value := by
    by_cases atNine : 9 = value
    · simp [scattered, inTurn, ← atNine]
    · by_cases before : -3 = value
      · simp [scattered, inTurn, ← before]
      · simp [scattered, inTurn, List.filter_cons, atNine, before]

/-- Notes outside of a line go to its ends. -/
theorem scattered_spliced :
    (abcd scatteredText).HasNotes scatteredText
      ∧ Json.readWithin 2 scatteredText = .ok (.list scatteredItems)
      ∧ List.Forall₂ Note.IsWritten scatteredItems scattered
      ∧ (noted 2).render (abcd scatteredText) = .ok (Text.utf8 "xwabycdz") := by
  have has : (abcd scatteredText).HasNotes scatteredText := rfl
  obtain ⟨order, isSorted, rendered, -⟩ := notes_spliced has read_scattered written_scattered
  obtain rfl := isSorted.unique
    (fun first second before after =>
      Int.le_antisymm (of_decide_eq_true before) (of_decide_eq_true after))
    (fun first second => by simpa using Int.le_total first second) stablySorted_inTurn
  refine ⟨has, read_scattered, written_scattered, rendered.trans ?_⟩
  decide +kernel

end Extractor
end RunLog
