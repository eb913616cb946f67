import Mathlib.Data.List.Induction
import RunLog.Proofs.Lookup

/-!
# Line starts

Whatever starts are put into an offset map, one after the other and in any order, the map holds
those that were accepted and finds each of them again.  A start is accepted if offset and number
both exceed those of the last one accepted before it; a refused start is reported together with the
one it does not come after, and leaves no trace.
-/

namespace RunLog

/-- One start comes before another: its offset and its number are both less. -/
def LineStart.Before (earlier later : LineStart) : Prop :=
  earlier.offset < later.offset ∧ earlier.line < later.line

namespace OffsetMap

/-- The map after an attempt to put a start into it. -/
def attempt (map : OffsetMap) (start : LineStart) : OffsetMap :=
  match map.put start with
  | .ok next => next
  | .error _ => map

/-- The map after attempts to put some starts into it, one after the other. -/
def attempts (map : OffsetMap) (starts : List LineStart) : OffsetMap :=
  starts.foldl attempt map

/-- The starts among some that are accepted when one after the other is put into a map. -/
def accepted (map : OffsetMap) : List LineStart → List LineStart
  | [] => []
  | start :: rest =>
    match map.put start with
    | .ok next => start :: accepted next rest
    | .error _ => accepted map rest

/-- A map finds some starts, and nothing else. -/
structure Indexes (map : OffsetMap) (starts : List LineStart) : Prop where
  /-- The starts stand in the map in the order in which they came. -/
  toList_eq : map.toList = starts
  /-- The columns are of one length. -/
  size_eq : map.offsets.size = map.lines.size
  /-- Offsets increase. -/
  offsets_increase : map.offsets.toList.Pairwise (· < ·)
  /-- Numbers increase. -/
  lines_increase : map.lines.toList.Pairwise (· < ·)
  /-- An offset belongs to the line whose start is the greatest at or before it. -/
  lineAt?_eq_some : ∀ offset line, map.lineAt? offset = some line ↔
    ∃ start ∈ starts, start.line = line ∧ start.offset ≤ offset
      ∧ ∀ other ∈ starts, other.offset ≤ offset → other.offset ≤ start.offset
  /-- It belongs to no line if it is before all starts. -/
  lineAt?_eq_none : ∀ offset, map.lineAt? offset = none ↔ ∀ start ∈ starts, offset < start.offset
  /-- A number is found at the offset it was put in with. -/
  offsetOf?_eq_some : ∀ line offset, map.offsetOf? line = some offset ↔ ⟨offset, line⟩ ∈ starts
  /-- It is not found if it was not put in. -/
  offsetOf?_eq_none : ∀ line, map.offsetOf? line = none ↔ ∀ start ∈ starts, start.line ≠ line
  /-- Where a line starts, this line is found. -/
  lineAt?_offsetOf? : ∀ start ∈ starts,
    (map.offsetOf? start.line).bind map.lineAt? = some start.line

variable {starts : List LineStart} {start : LineStart}

/-! ## Starts in order -/

section InOrder

variable (inOrder : starts.Pairwise LineStart.Before)
include inOrder

theorem offsets_ascend : starts.Pairwise (·.offset ≤ ·.offset) :=
  inOrder.imp fun before => Int.le_of_lt before.1

/-- The line that is found is that of the start with the greatest offset among those that are not
after the place. -/
theorem lineAt?_ofStarts_eq_some_iff {offset line : Int} :
    (ofStarts starts).lineAt? offset = some line ↔
      ∃ start ∈ starts, start.line = line ∧ start.offset ≤ offset
        ∧ ∀ other ∈ starts, other.offset ≤ offset → other.offset ≤ start.offset := by
  have ascends := offsets_ascend inOrder
  constructor
  · intro found
    have someStarted : ∃ start ∈ starts, start.offset ≤ offset := by
      by_contra noneStarted
      have before : ∀ start ∈ starts, offset < start.offset := fun start among =>
        Int.not_le.mp fun started => noneStarted ⟨start, among, started⟩
      rw [lineAt?_ofStarts_eq_none ascends before] at found
      cases found
    obtain ⟨place, inside, started, laterAfter⟩ := exists_last_started ascends someStarted
    rw [lineAt?_ofStarts ascends inside started laterAfter] at found
    refine ⟨starts[place], List.getElem_mem inside, Option.some.inj found, started, ?_⟩
    intro other among otherStarted
    obtain ⟨otherPlace, otherInside, rfl⟩ := List.mem_iff_getElem.mp among
    rcases Nat.lt_trichotomy otherPlace place with before | rfl | after
    · exact List.pairwise_iff_getElem.mp ascends _ _ otherInside inside before
    · exact Int.le_refl _
    · exact absurd otherStarted (Int.not_le.mpr (laterAfter _ otherInside after))
  · rintro ⟨start, among, rfl, started, greatest⟩
    obtain ⟨place, inside, rfl⟩ := List.mem_iff_getElem.mp among
    apply lineAt?_ofStarts ascends inside started
    intro other otherInside later
    have before := List.pairwise_iff_getElem.mp inOrder _ _ inside otherInside later
    apply Int.lt_of_not_ge
    intro otherStarted
    exact Int.not_le.mpr before.1 (greatest _ (List.getElem_mem otherInside) otherStarted)

theorem lineAt?_ofStarts_eq_none_iff {offset : Int} :
    (ofStarts starts).lineAt? offset = none ↔ ∀ start ∈ starts, offset < start.offset := by
  have ascends := offsets_ascend inOrder
  constructor
  · intro notFound start among
    apply Int.lt_of_not_ge
    intro started
    obtain ⟨place, inside, lastStarted, laterAfter⟩ :=
      exists_last_started ascends ⟨start, among, started⟩
    rw [lineAt?_ofStarts ascends inside lastStarted laterAfter] at notFound
    cases notFound
  · exact lineAt?_ofStarts_eq_none ascends

theorem offsetOf?_ofStarts_eq_some_iff {line offset : Int} :
    (ofStarts starts).offsetOf? line = some offset ↔ ⟨offset, line⟩ ∈ starts := by
  constructor
  · exact mem_of_offsetOf?_ofStarts
  · intro among
    obtain ⟨place, inside, isStart⟩ := List.mem_iff_getElem.mp among
    have found := offsetOf?_ofStarts (inOrder.imp And.right) inside
    rwa [isStart] at found

theorem offsetOf?_ofStarts_eq_none_iff {line : Int} :
    (ofStarts starts).offsetOf? line = none ↔ ∀ start ∈ starts, start.line ≠ line := by
  rw [Option.eq_none_iff_forall_ne_some]
  simp only [ne_eq, offsetOf?_ofStarts_eq_some_iff inOrder]
  constructor
  · rintro notAmong ⟨offset, number⟩ among rfl
    exact notAmong offset among
  · intro noneHasIt offset among
    exact noneHasIt _ among rfl

theorem lineAt?_offsetOf?_ofStarts (among : start ∈ starts) :
    ((ofStarts starts).offsetOf? start.line).bind (ofStarts starts).lineAt? = some start.line := by
  have found : (ofStarts starts).offsetOf? start.line = some start.offset :=
    (offsetOf?_ofStarts_eq_some_iff inOrder).mpr among
  rw [found, Option.bind_some, lineAt?_ofStarts_eq_some_iff inOrder]
  exact ⟨start, among, rfl, Int.le_refl _, fun _ _ started => started⟩

/-- The map of starts that are in order finds them. -/
theorem indexes_ofStarts : (ofStarts starts).Indexes starts where
  toList_eq := toList_ofStarts starts
  size_eq := by simp [ofStarts]
  offsets_increase := by
    simpa [ofStarts, List.pairwise_map] using inOrder.imp And.left
  lines_increase := by
    simpa [ofStarts, List.pairwise_map] using inOrder.imp And.right
  lineAt?_eq_some _ _ := lineAt?_ofStarts_eq_some_iff inOrder
  lineAt?_eq_none _ := lineAt?_ofStarts_eq_none_iff inOrder
  offsetOf?_eq_some _ _ := offsetOf?_ofStarts_eq_some_iff inOrder
  offsetOf?_eq_none _ := offsetOf?_ofStarts_eq_none_iff inOrder
  lineAt?_offsetOf? _ := lineAt?_offsetOf?_ofStarts inOrder

end InOrder

/-! ## Attempts -/

/-- A start is refused if it does not come after the last one, and for no other reason. -/
theorem put_ofStarts_eq_error_iff {failure : Failure} :
    (ofStarts starts).put start = .error failure ↔
      ∃ last ∈ starts.getLast?, (start.offset ≤ last.offset ∨ start.line ≤ last.line)
        ∧ failure = .lineOrder start.offset start.line last.offset last.line := by
  cases starts using List.reverseRecOn with
  | nil => simp [put_ofStarts_nil]
  | append_singleton earlier last =>
    rw [put_ofStarts_append, List.getLast?_concat]
    by_cases notAfter : start.offset ≤ last.offset ∨ start.line ≤ last.line
    · simp [notAfter, eq_comm]
    · simp [notAfter]

/-- A start that is accepted comes after the one that was last, and is then last itself. -/
theorem put_ofStarts_eq_ok_iff {next : OffsetMap} :
    (ofStarts starts).put start = .ok next ↔
      (∀ last ∈ starts.getLast?, last.Before start) ∧ next = ofStarts (starts ++ [start]) := by
  cases starts using List.reverseRecOn with
  | nil => simp [put_ofStarts_nil, eq_comm]
  | append_singleton earlier last =>
    have after_iff : last.Before start ↔
        ¬(start.offset ≤ last.offset ∨ start.line ≤ last.line) := by
      rw [LineStart.Before]
      omega
    rw [put_ofStarts_append, List.getLast?_concat]
    by_cases notAfter : start.offset ≤ last.offset ∨ start.line ≤ last.line
    · simp [after_iff, notAfter]
    · simp [after_iff, notAfter, eq_comm]

/-- What comes after the last of some starts in order comes after all of them. -/
theorem inOrder_append (inOrder : starts.Pairwise LineStart.Before)
    (after : ∀ last ∈ starts.getLast?, last.Before start) :
    (starts ++ [start]).Pairwise LineStart.Before := by
  cases starts using List.reverseRecOn with
  | nil => simp
  | append_singleton earlier last =>
    have afterLast : last.Before start := after last (by simp)
    rw [List.pairwise_append]
    refine ⟨inOrder, List.pairwise_singleton _ _, ?_⟩
    intro other among _ isStart
    obtain rfl := List.mem_singleton.mp isStart
    rcases List.mem_append.mp among with amongEarlier | isLast
    · have beforeLast := (List.pairwise_append.mp inOrder).2.2 other amongEarlier last (by simp)
      exact ⟨Int.lt_trans beforeLast.1 afterLast.1, Int.lt_trans beforeLast.2 afterLast.2⟩
    · obtain rfl := List.mem_singleton.mp isLast
      exact afterLast

/-- An attempt leads from a map of starts in order to the map of these and of the start, if it is
accepted. -/
theorem attempt_ofStarts (inOrder : starts.Pairwise LineStart.Before) (start : LineStart) :
    (ofStarts starts).attempt start = ofStarts (starts ++ accepted (ofStarts starts) [start])
      ∧ (starts ++ accepted (ofStarts starts) [start]).Pairwise LineStart.Before := by
  cases outcome : (ofStarts starts).put start with
  | error failure => simp [attempt, accepted, outcome, inOrder]
  | ok next =>
    obtain ⟨after, rfl⟩ := put_ofStarts_eq_ok_iff.mp outcome
    simp [attempt, accepted, outcome, inOrder_append inOrder after]

theorem attempts_concat (map : OffsetMap) (starts : List LineStart) (start : LineStart) :
    map.attempts (starts ++ [start]) = (map.attempts starts).attempt start := by
  rw [attempts, List.foldl_append]
  rfl

theorem accepted_concat (map : OffsetMap) (starts : List LineStart) (start : LineStart) :
    map.accepted (starts ++ [start])
      = map.accepted starts ++ (map.attempts starts).accepted [start] := by
  induction starts generalizing map with
  | nil => rfl
  | cons first rest inductionHypothesis =>
    cases outcome : map.put first <;>
      simp [accepted, attempts, attempt, outcome, inductionHypothesis]

/-- Attempts lead to the map of the starts that were accepted, and these are in order. -/
theorem attempts_eq (starts : List LineStart) :
    empty.attempts starts = ofStarts (empty.accepted starts)
      ∧ (empty.accepted starts).Pairwise LineStart.Before := by
  induction starts using List.reverseRecOn with
  | nil => exact ⟨rfl, List.Pairwise.nil⟩
  | append_singleton earlier start inductionHypothesis =>
    obtain ⟨earlier_eq, inOrder⟩ := inductionHypothesis
    rw [attempts_concat, accepted_concat, earlier_eq]
    exact attempt_ofStarts inOrder start

/-- At any time the map finds the starts accepted so far and nothing else.  A start is refused
exactly if its offset or its number does not exceed that of the last one accepted, and nothing
changes then; a start that is not refused is accepted. -/
theorem attempts_indexed (starts : List LineStart) :
    let map := empty.attempts starts
    let entered := empty.accepted starts
    map.Indexes entered
      ∧ (∀ start failure, map.put start = .error failure ↔
        ∃ last ∈ entered.getLast?, (start.offset ≤ last.offset ∨ start.line ≤ last.line)
          ∧ failure = .lineOrder start.offset start.line last.offset last.line)
      ∧ (∀ start failure, map.put start = .error failure →
        empty.attempts (starts ++ [start]) = map
          ∧ empty.accepted (starts ++ [start]) = entered)
      ∧ ∀ start next, map.put start = .ok next →
        empty.attempts (starts ++ [start]) = next
          ∧ empty.accepted (starts ++ [start]) = entered ++ [start] := by
  intro map entered
  obtain ⟨map_eq, inOrder⟩ := attempts_eq starts
  refine ⟨?_, ?_, ?_, ?_⟩
  · show (empty.attempts starts).Indexes (empty.accepted starts)
    rw [map_eq]
    exact indexes_ofStarts inOrder
  · intro start failure
    rw [show map = ofStarts entered from map_eq]
    exact put_ofStarts_eq_error_iff
  · intro start failure refused
    rw [attempts_concat, accepted_concat]
    simp only [attempt, accepted, show (empty.attempts starts).put start = _ from refused,
      List.append_nil]
    exact ⟨rfl, rfl⟩
  · intro start next taken
    rw [attempts_concat, accepted_concat]
    simp only [attempt, accepted, show (empty.attempts starts).put start = _ from taken]
    exact ⟨trivial, rfl⟩

/-- Of five starts the third does not go on in the log and the fourth has no new number. -/
theorem fiveStarts_indexed :
    let starts : List LineStart := [⟨0, 0⟩, ⟨5, 2⟩, ⟨3, 7⟩, ⟨9, 2⟩, ⟨9, 5⟩]
    let map := empty.attempts starts
    map.Indexes [⟨0, 0⟩, ⟨5, 2⟩, ⟨9, 5⟩]
      ∧ map.lineAt? 8 = some 2 ∧ map.lineAt? (-1) = none
      ∧ map.offsetOf? 5 = some 9 ∧ map.offsetOf? 3 = none
      ∧ map.put ⟨10, 5⟩ = .error (.lineOrder 10 5 9 5)
      ∧ empty.attempts (starts ++ [⟨10, 5⟩]) = map := by
  intro starts map
  have entered : empty.accepted starts = [⟨0, 0⟩, ⟨5, 2⟩, ⟨9, 5⟩] := by decide
  obtain ⟨indexes, refused, unchanged, -⟩ := attempts_indexed starts
  rw [entered] at indexes refused
  have refusal : map.put ⟨10, 5⟩ = .error (.lineOrder 10 5 9 5) :=
    (refused _ _).mpr ⟨⟨9, 5⟩, rfl, .inr (Int.le_refl _), rfl⟩
  refine ⟨indexes, ?_, ?_, ?_, ?_, refusal, (unchanged _ _ refusal).1⟩
  · exact (indexes.lineAt?_eq_some 8 2).mpr ⟨⟨5, 2⟩, by decide, rfl, by decide, by decide⟩
  · exact (indexes.lineAt?_eq_none (-1)).mpr (by decide)
  · exact (indexes.offsetOf?_eq_some 5 9).mpr (by decide)
  · exact (indexes.offsetOf?_eq_none 3).mpr (by decide)

end OffsetMap
end RunLog
