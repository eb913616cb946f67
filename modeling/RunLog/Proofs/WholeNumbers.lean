import RunLog.Batch
import RunLog.Note
import RunLog.Proofs.Sequencing

/-!
# Values that count as whole numbers

The time of a line and the position of a note are whole numbers, but what is answered may spell them
as any kind of value.  Integers, truth values, finite doubles and numerals count as whole numbers,
in both places alike.
-/

namespace RunLog

/-- A structured value counts as a whole number. -/
inductive Json.CountsAs : Json → Int → Prop
  /-- An integer counts as itself. -/
  | int (value : Int) : CountsAs (.int value) value
  /-- A truth value counts as one or zero. -/
  | bool (value : Bool) : CountsAs (.bool value) (if value then 1 else 0)
  /-- A finite double is cut toward zero. -/
  | float {value : Float} (isNumber : value.isNaN = false) (finite : value.isInf = false) :
    CountsAs (.float value) (truncateFloat value)
  /-- A text counts as the number whose numeral it is. -/
  | text {value : Text} {number : Int} (written : Numeral.int? value = .ok number) :
    CountsAs (.text value) number

/-- An infinite double, which is a number but no whole one. -/
inductive Json.IsInfinite : Json → Prop
  | float {value : Float} (isNumber : value.isNaN = false) (infinite : value.isInf = true) :
    IsInfinite (.float value)

variable {value : Json} {number : Int}

namespace Batch

/-- A time is read of what counts as a whole number. -/
theorem timestamp_eq_ok : timestamp value = .ok number ↔ value.CountsAs number := by
  constructor
  · intro read
    unfold timestamp at read
    split at read
    · cases read
      exact .int _
    · cases read
      exact .bool _
    · split at read
      · cases read
      · split at read
        · cases read
        · rename_i isNumber finite
          cases read
          exact .float (Bool.eq_false_iff.mpr isNumber) (Bool.eq_false_iff.mpr finite)
    · split at read
      · rename_i written
        cases read
        exact .text written
      · cases read
    · cases read
  · rintro (_ | _ | ⟨isNumber, finite⟩ | written)
    · rfl
    · rfl
    · simp only [timestamp, isNumber, finite, Bool.false_eq_true, if_false]
    · simp [timestamp, written]

/-- Only an infinite time is out of range. -/
theorem timestamp_eq_outOfRange : timestamp value = wrong .outOfRange ↔ value.IsInfinite := by
  constructor
  · intro read
    unfold timestamp at read
    split at read
    · cases read
    · cases read
    · split at read
      · cases read
      · split at read
        · rename_i isNumber infinite
          exact .float (Bool.eq_false_iff.mpr isNumber) infinite
        · cases read
    · split at read <;> cases read
    · cases read
  · rintro ⟨isNumber, infinite⟩
    simp only [timestamp, isNumber, infinite, Bool.false_eq_true, if_false, if_true]

end Batch

namespace Note

/-- A position is read like a time, but only one that is out of range is a failure. -/
theorem positionOf_eq (value : Json) :
    positionOf value = (Batch.timestamp value).mapError fun failure =>
      if failure = .malformed .outOfRange then .failure failure else .ignored := by
  unfold positionOf Batch.timestamp Batch.wrong
  repeat' split
  all_goals simp_all

theorem positionOf_eq_ok : positionOf value = .ok number ↔ value.CountsAs number := by
  rw [positionOf_eq, ← Batch.timestamp_eq_ok]
  cases Batch.timestamp value <;> simp

/-- Only an infinite position is not ignored. -/
theorem positionOf_eq_failure {failure : Failure} :
    positionOf value = .error (.failure failure)
      ↔ value.IsInfinite ∧ failure = .malformed .outOfRange := by
  rw [positionOf_eq, ← Batch.timestamp_eq_outOfRange, Batch.wrong]
  cases Batch.timestamp value with
  | ok time => simp
  | error found =>
    by_cases outOfRange : found = .malformed .outOfRange
    · simp [outOfRange, eq_comm]
    · simp [outOfRange]

end Note
end RunLog
