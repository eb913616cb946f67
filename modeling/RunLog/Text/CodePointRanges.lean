import RunLog.Text.Basic

/-!
# Ranges of code points

Properties of characters are tables of closed ranges of code points.  A table is written in rows of
hexadecimal numbers: `61-7A` is a range, `AA` a range of one, and spaces stand between them.
-/

namespace RunLog

/-- A set of code points as closed ranges. -/
abbrev CodePointRanges := List (Nat × Nat)

namespace Text

/-- The number that hexadecimal digits write. -/
def hexadecimal (digits : Text) : Nat :=
  digits.foldl (fun number digit => number * 16 + digit.hexValue?.getD 0) 0

/-- The fields of rows, which spaces separate. -/
def fields (rows : List String) : List Text :=
  rows.flatMap fun row => splitAll ' ' (ofString row)

end Text

namespace CodePointRanges

/-- The range that a field of a table writes. -/
def ofField (field : Text) : Nat × Nat :=
  match Text.splitFirst? '-' field with
  | some (first, last) => (first.hexadecimal, last.hexadecimal)
  | none => (field.hexadecimal, field.hexadecimal)

/-- The ranges that the rows of a table write. -/
def ofRows (rows : List String) : CodePointRanges :=
  (Text.fields rows).map ofField

/-- Whether a code point is in one of the ranges. -/
def contains (ranges : CodePointRanges) (point : CodePoint) : Bool :=
  ranges.any fun range => range.1 ≤ point.val && point.val ≤ range.2

@[simp] theorem contains_nil (point : CodePoint) : contains [] point = false := rfl

@[simp] theorem contains_cons (range : Nat × Nat) (ranges : CodePointRanges) (point : CodePoint) :
    contains (range :: ranges) point
      = ((range.1 ≤ point.val && point.val ≤ range.2) || contains ranges point) := by
  simp [contains]

end CodePointRanges
end RunLog
