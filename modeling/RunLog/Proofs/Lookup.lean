import RunLog.OffsetMap

/-!
# Looking up in an offset map

A column that ascends falls into the entries that are at most a value, which come first, and those
that are greater.  Halving finds the place where the first part ends, and with it the last entry of
this part, if there is one.

The map of some starts has their offsets in one column and their numbers in the other.  If both
ascend, a place is looked up as the line of the last start at or before it, and a number as the
offset of the start that has it.
-/

namespace RunLog
namespace OffsetMap

variable {column : Array Int} {value : Int} {place other low high : Nat}

/-! ## Halving a column -/

/-- Of two entries of an ascending column the later one is at least as great. -/
theorem getElem_le_getElem (ascends : column.toList.Pairwise (· ≤ ·)) (order : place ≤ other)
    (inside : other < column.size) : column[place] ≤ column[other] := by
  rcases Nat.lt_or_eq_of_le order with before | rfl
  · have insideBefore := Nat.lt_trans before inside
    exact List.pairwise_iff_getElem.mp ascends place other insideBefore inside before
  · exact Int.le_refl _

/-- What halving keeps: the entries before `low` are at most the value, those from `high` on are
greater. -/
structure Straddles (column : Array Int) (value : Int) (low high : Nat) : Prop where
  /-- The two places are in order. -/
  order : low ≤ high
  /-- Both are in the column, or at its end. -/
  within : high ≤ column.size
  /-- What comes before the first place. -/
  below : ∀ place (_ : place < column.size), place < low → column[place] ≤ value
  /-- What comes from the second place on. -/
  above : ∀ place (_ : place < column.size), high ≤ place → value < column[place]

theorem Straddles.left (straddles : Straddles column value low high)
    (ascends : column.toList.Pairwise (· ≤ ·)) {middle : Nat} (inside : middle < column.size)
    (fromLow : low ≤ middle) (greater : value < column[middle]) :
    Straddles column value low middle where
  order := fromLow
  within := Nat.le_of_lt inside
  below := straddles.below
  above _ insidePlace after :=
    Int.lt_of_lt_of_le greater (getElem_le_getElem ascends after insidePlace)

theorem Straddles.right (straddles : Straddles column value low high)
    (ascends : column.toList.Pairwise (· ≤ ·)) {middle : Nat} (inside : middle < column.size)
    (beforeHigh : middle < high) (atMost : column[middle] ≤ value) :
    Straddles column value (middle + 1) high where
  order := beforeHigh
  within := straddles.within
  below _ _ before :=
    Int.le_trans (getElem_le_getElem ascends (Nat.le_of_lt_succ before) inside) atMost
  above := straddles.above

/-- Halving ends at a place that is between the two parts. -/
theorem straddles_countBetween (ascends : column.toList.Pairwise (· ≤ ·))
    {within : high ≤ column.size} (straddles : Straddles column value low high) :
    Straddles column value (countBetween column value low high within)
      (countBetween column value low high within) := by
  fun_induction countBetween column value low high within with
  | case1 low high within proper middle greater inductionHypothesis =>
    have fromLow : low ≤ middle := by omega
    exact inductionHypothesis (straddles.left ascends _ fromLow greater)
  | case2 low high within proper middle notGreater inductionHypothesis =>
    have beforeHigh : middle < high := by omega
    exact inductionHypothesis
      (straddles.right ascends _ beforeHigh (Int.not_lt.mp notGreater))
  | case3 low high within exhausted =>
    obtain rfl : low = high := Nat.le_antisymm straddles.order (Nat.not_lt.mp exhausted)
    exact straddles

theorem straddles_countUpTo (ascends : column.toList.Pairwise (· ≤ ·)) (value : Int) :
    Straddles column value (countUpTo column value) (countUpTo column value) := by
  apply straddles_countBetween ascends
  exact
    { order := Nat.zero_le _
      within := Nat.le_refl _
      below := fun _ _ before => absurd before (Nat.not_lt_zero _)
      above := fun _ inside after => absurd inside (Nat.not_lt.mpr after) }

/-- The entry that is found is at most the value, and all later ones are greater. -/
theorem lastUpTo?_eq_some_iff (ascends : column.toList.Pairwise (· ≤ ·)) :
    lastUpTo? column value = some place ↔
      ∃ _ : place < column.size, column[place] ≤ value
        ∧ ∀ other (_ : other < column.size), place < other → value < column[other] := by
  have ended := straddles_countUpTo ascends value
  have found : lastUpTo? column value = some place ↔ countUpTo column value = place + 1 := by
    unfold lastUpTo?
    split <;> simp_all
  rw [found]
  constructor
  · intro count
    rw [count] at ended
    exact ⟨ended.within, ended.below place ended.within (Nat.lt_succ_self _), ended.above⟩
  · rintro ⟨inside, atMost, laterGreater⟩
    apply Nat.le_antisymm
    · apply Nat.le_of_not_lt
      intro beyond
      have inside' := Nat.lt_of_lt_of_le beyond ended.within
      exact Int.not_le.mpr (laterGreater _ inside' (Nat.lt_succ_self _))
        (ended.below _ inside' beyond)
    · apply Nat.lt_of_not_le
      intro notCounted
      exact Int.not_le.mpr (ended.above place inside notCounted) atMost

/-- Nothing is found if all entries are greater. -/
theorem lastUpTo?_eq_none_iff (ascends : column.toList.Pairwise (· ≤ ·)) :
    lastUpTo? column value = none ↔ ∀ entry ∈ column, value < entry := by
  have ended := straddles_countUpTo ascends value
  have found : lastUpTo? column value = none ↔ countUpTo column value = 0 := by
    unfold lastUpTo?
    split <;> simp_all
  rw [found]
  constructor
  · intro count entry among
    rw [count] at ended
    obtain ⟨place, inside, rfl⟩ := Array.mem_iff_getElem.mp among
    exact ended.above place inside (Nat.zero_le _)
  · intro allGreater
    apply Nat.eq_zero_of_not_pos
    intro someCounted
    have inside := Nat.lt_of_lt_of_le someCounted ended.within
    exact Int.not_le.mpr (allGreater _ (Array.getElem_mem inside))
      (ended.below 0 inside someCounted)

/-! ## The map of some starts -/

/-- The map that has taken in some starts. -/
def ofStarts (starts : List LineStart) : OffsetMap :=
  ⟨(starts.map (·.offset)).toArray, (starts.map (·.line)).toArray⟩

variable {starts : List LineStart} {offset line : Int}

theorem push_ofStarts (starts : List LineStart) (start : LineStart) :
    (ofStarts starts).push start = ofStarts (starts ++ [start]) := by
  simp [push, ofStarts]

@[simp] theorem toList_ofStarts (starts : List LineStart) : (ofStarts starts).toList = starts := by
  simp [toList, ofStarts, List.zipWith_map, List.zipWith_self]

@[simp] theorem length_ofStarts (starts : List LineStart) :
    (ofStarts starts).length = starts.length := by
  simp [length, ofStarts]

theorem put_ofStarts_nil (start : LineStart) : (ofStarts []).put start = .ok (ofStarts [start]) :=
  rfl

/-- What becomes of a start depends on the last one in the map. -/
theorem put_ofStarts_append (starts : List LineStart) (last start : LineStart) :
    (ofStarts (starts ++ [last])).put start =
      if start.offset ≤ last.offset ∨ start.line ≤ last.line then
        .error (.lineOrder start.offset start.line last.offset last.line)
      else .ok (ofStarts (starts ++ [last] ++ [start])) := by
  simp only [← push_ofStarts, put, push, Array.back?_push]

/-- A place is looked up as the line of the last start at or before it. -/
theorem lineAt?_ofStarts (ascends : starts.Pairwise (·.offset ≤ ·.offset))
    (inside : place < starts.length) (started : starts[place].offset ≤ offset)
    (laterAfter : ∀ other (_ : other < starts.length), place < other →
      offset < starts[other].offset) :
    (ofStarts starts).lineAt? offset = some starts[place].line := by
  have found : lastUpTo? (ofStarts starts).offsets offset = some place := by
    rw [lastUpTo?_eq_some_iff (by simpa [ofStarts, List.pairwise_map] using ascends)]
    simp only [ofStarts]
    refine ⟨by simpa using inside, by simpa using started, ?_⟩
    intro other insideColumn later
    simpa using laterAfter other (by simpa using insideColumn) later
  rw [lineAt?, found]
  simp [ofStarts, inside]

/-- Before the first start no line is found. -/
theorem lineAt?_ofStarts_eq_none (ascends : starts.Pairwise (·.offset ≤ ·.offset))
    (before : ∀ start ∈ starts, offset < start.offset) :
    (ofStarts starts).lineAt? offset = none := by
  have found : lastUpTo? (ofStarts starts).offsets offset = none := by
    rw [lastUpTo?_eq_none_iff (by simpa [ofStarts, List.pairwise_map] using ascends)]
    simpa [ofStarts] using before
  rw [lineAt?, found, Option.bind_none]

/-- If some line has started at a place, one of them is the last to have. -/
theorem exists_last_started (ascends : starts.Pairwise (·.offset ≤ ·.offset))
    (someStarted : ∃ start ∈ starts, start.offset ≤ offset) :
    ∃ place, ∃ _ : place < starts.length, starts[place].offset ≤ offset
      ∧ ∀ other (_ : other < starts.length), place < other → offset < starts[other].offset := by
  have ascends' : (ofStarts starts).offsets.toList.Pairwise (· ≤ ·) := by
    simpa [ofStarts, List.pairwise_map] using ascends
  cases found : lastUpTo? (ofStarts starts).offsets offset with
  | none =>
    obtain ⟨start, among, started⟩ := someStarted
    have greater := (lastUpTo?_eq_none_iff ascends').mp found start.offset
      (by simpa [ofStarts] using ⟨start, among, rfl⟩)
    exact absurd started (Int.not_le.mpr greater)
  | some place =>
    exact ⟨place, by simpa [ofStarts] using (lastUpTo?_eq_some_iff ascends').mp found⟩

/-- A number is looked up as the offset of the start that has it. -/
theorem offsetOf?_ofStarts (ascends : starts.Pairwise (·.line < ·.line))
    (inside : place < starts.length) :
    (ofStarts starts).offsetOf? starts[place].line = some starts[place].offset := by
  have found : lastUpTo? (ofStarts starts).lines starts[place].line = some place := by
    rw [lastUpTo?_eq_some_iff
      (by simpa [ofStarts, List.pairwise_map] using ascends.imp Int.le_of_lt)]
    simp only [ofStarts]
    refine ⟨by simpa using inside, by simp, ?_⟩
    intro other insideColumn later
    have insideStarts : other < starts.length := by simpa using insideColumn
    simpa using List.pairwise_iff_getElem.mp ascends place other inside insideStarts later
  rw [offsetOf?, found]
  simp [ofStarts, inside]

/-- Only starts in the map are found. -/
theorem mem_of_offsetOf?_ofStarts (found : (ofStarts starts).offsetOf? line = some offset) :
    ⟨offset, line⟩ ∈ starts := by
  obtain ⟨place, -, atPlace⟩ := Option.bind_eq_some_iff.mp found
  obtain ⟨hasLine, hasOffset⟩ := Option.ite_none_right_eq_some.mp atPlace
  simp only [ofStarts, List.getElem?_toArray, List.getElem?_map, Option.map_eq_some_iff]
    at hasLine hasOffset
  obtain ⟨start, isStart, rfl⟩ := hasLine
  obtain ⟨same, isSame, rfl⟩ := hasOffset
  obtain rfl : start = same := Option.some.inj (isStart.symm.trans isSame)
  exact List.mem_of_getElem? isStart

end OffsetMap
end RunLog
