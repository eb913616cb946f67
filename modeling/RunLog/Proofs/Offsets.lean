import Mathlib.Data.List.Induction
import RunLog.Entry
import RunLog.Proofs.Lookup

/-!
# The offset map of some lines

The lines of a log, each with its end, make up the bytes of the log when they are put one after the
other.  The map of these lines has one start for each of them.  Looking up a number gives the place
where the line starts, and looking up a place gives the one line that the byte at this place belongs
to.

A line that is not empty can always be added.
-/

namespace RunLog
namespace OffsetMap

/-- Where a line starts when the lines are put one after the other. -/
def startOf (lines : List Bytes) (number : Nat) : Nat :=
  (lines.take number).flatten.length

/-- Where each of some lines starts. -/
def startsOf (lines : List Bytes) : List LineStart :=
  (List.range lines.length).map fun number => ⟨startOf lines number, number⟩

/-- The map of some lines. -/
def ofLines (lines : List Bytes) : OffsetMap :=
  ofStarts (startsOf lines)

variable {lines : List Bytes} {number other place : Nat}

@[simp] theorem startOf_length (lines : List Bytes) :
    startOf lines lines.length = lines.flatten.length := by
  simp [startOf]

theorem startOf_append (within : number ≤ lines.length) (more : List Bytes) :
    startOf (lines ++ more) number = startOf lines number := by
  rw [startOf, List.take_append_of_le_length within, startOf]

/-- A line ends where the next one starts. -/
theorem startOf_succ (within : number < lines.length) :
    startOf lines (number + 1) = startOf lines number + lines[number].length := by
  rw [startOf, ← List.take_append_getElem within, List.flatten_append, List.length_append,
    List.flatten_singleton, startOf]

theorem startOf_mono (lines : List Bytes) (order : number ≤ other) :
    startOf lines number ≤ startOf lines other := by
  have split : lines.take other = lines.take number ++ (lines.take other).drop number := by
    conv_lhs => rw [← List.take_append_drop number (lines.take other), List.take_take,
      Nat.min_eq_left order]
  rw [startOf, startOf, split, List.flatten_append, List.length_append]
  exact Nat.le_add_right _ _

/-- The bytes from the start of a line on begin with the line. -/
theorem take_drop_startOf (within : number < lines.length) :
    (lines.flatten.drop (startOf lines number)).take lines[number].length = lines[number] := by
  have whole : lines.flatten = (lines.take number).flatten ++ (lines.drop number).flatten := by
    rw [← List.flatten_append, List.take_append_drop]
  rw [whole, startOf, List.drop_left, List.drop_eq_getElem_cons within, List.flatten_cons,
    List.take_left]

/-! ## Adding a line -/

@[simp] theorem length_startsOf (lines : List Bytes) :
    (startsOf lines).length = lines.length := by
  simp [startsOf]

@[simp] theorem getElem_startsOf (within : number < (startsOf lines).length) :
    (startsOf lines)[number] = ⟨startOf lines number, number⟩ := by
  simp [startsOf]

theorem startsOf_append (lines : List Bytes) (line : Bytes) :
    startsOf (lines ++ [line]) = startsOf lines ++ [⟨lines.flatten.length, lines.length⟩] := by
  have earlier : ∀ number ∈ List.range lines.length,
      (⟨startOf (lines ++ [line]) number, number⟩ : LineStart)
        = ⟨startOf lines number, number⟩ := by
    intro number among
    rw [startOf_append (Nat.le_of_lt (List.mem_range.mp among))]
  have last : startOf (lines ++ [line]) lines.length = lines.flatten.length := by
    rw [startOf_append (Nat.le_refl _), startOf_length]
  simp only [startsOf, List.length_append, List.length_singleton, List.range_succ, List.map_append,
    List.map_cons, List.map_nil, List.map_congr_left earlier, last]

/-- Lines that have a byte at least are never refused. -/
theorem put_ofLines (nonempty : ∀ line ∈ lines, line ≠ []) (line : Bytes) :
    (ofLines lines).put ⟨lines.flatten.length, lines.length⟩ = .ok (ofLines (lines ++ [line])) := by
  cases lines using List.reverseRecOn with
  | nil => rfl
  | append_singleton earlier last =>
    have someByte : 0 < last.length := List.length_pos_iff.mpr (nonempty last (by simp))
    have after : ¬(((earlier ++ [last]).flatten.length : Int) ≤ earlier.flatten.length
        ∨ ((earlier ++ [last]).length : Int) ≤ earlier.length) := by
      simp only [List.flatten_append, List.length_append, List.flatten_singleton,
        List.length_singleton]
      omega
    simp only [ofLines, startsOf_append, put_ofStarts_append, if_neg after]

@[simp] theorem length_ofLines (lines : List Bytes) : (ofLines lines).length = lines.length := by
  simp [ofLines]

/-! ## Looking up -/

/-- A number that is looked up leads to the start of the line. -/
theorem offsetOf?_ofLines (within : number < lines.length) :
    (ofLines lines).offsetOf? number = some (startOf lines number : Int) := by
  have ascends : (startsOf lines).Pairwise (·.line < ·.line) := by
    simp only [startsOf, List.pairwise_map]
    exact List.pairwise_lt_range.imp Int.ofNat_lt.mpr
  have withinStarts : number < (startsOf lines).length := by rwa [length_startsOf]
  simpa [ofLines] using offsetOf?_ofStarts ascends withinStarts

/-- A place that is looked up leads to the line that starts at or before it and ends after it. -/
theorem lineAt?_ofLines (within : number < lines.length) (started : startOf lines number ≤ place)
    (notEnded : place < startOf lines (number + 1)) :
    (ofLines lines).lineAt? place = some (number : Int) := by
  have ascends : (startsOf lines).Pairwise (·.offset ≤ ·.offset) := by
    simp only [startsOf, List.pairwise_map]
    exact List.pairwise_lt_range.imp fun order =>
      Int.ofNat_le.mpr (startOf_mono lines (Nat.le_of_lt order))
  have withinStarts : number < (startsOf lines).length := by rwa [length_startsOf]
  have laterAfter : ∀ other (_ : other < (startsOf lines).length), number < other →
      (place : Int) < (startsOf lines)[other].offset := by
    intro other withinOther later
    rw [getElem_startsOf]
    exact Int.ofNat_lt.mpr (Nat.lt_of_lt_of_le notEnded (startOf_mono lines later))
  simpa [ofLines] using
    lineAt?_ofStarts ascends withinStarts (by simpa using started) laterAfter

/-- Every byte belongs to a line. -/
theorem exists_line (inside : place < lines.flatten.length) :
    ∃ number < lines.length,
      startOf lines number ≤ place ∧ place < startOf lines (number + 1) := by
  induction lines using List.reverseRecOn with
  | nil => simp at inside
  | append_singleton lines line inductionHypothesis =>
    by_cases earlier : place < lines.flatten.length
    · obtain ⟨number, within, started, notEnded⟩ := inductionHypothesis earlier
      refine ⟨number, by simp; omega, ?_, ?_⟩
      · rwa [startOf_append (Nat.le_of_lt within)]
      · rwa [startOf_append within]
    · refine ⟨lines.length, by simp, ?_, ?_⟩
      · rw [startOf_append (Nat.le_refl _), startOf_length]
        exact Nat.not_lt.mp earlier
      · have ends : startOf (lines ++ [line]) (lines.length + 1)
            = (lines ++ [line]).flatten.length := by
          rw [← startOf_length, List.length_append, List.length_singleton]
        rwa [ends]

/-- No byte belongs to two lines. -/
theorem eq_of_started (started : startOf lines number ≤ place)
    (notEnded : place < startOf lines (number + 1)) (otherStarted : startOf lines other ≤ place)
    (otherNotEnded : place < startOf lines (other + 1)) : number = other := by
  rcases Nat.lt_trichotomy number other with before | same | after
  · have := startOf_mono lines (show number + 1 ≤ other from before)
    omega
  · exact same
  · have := startOf_mono lines (show other + 1 ≤ number from after)
    omega

end OffsetMap
end RunLog
