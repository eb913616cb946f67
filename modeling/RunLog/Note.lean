import RunLog.Entry
import RunLog.Json.Reader

/-!
# Notes

The notes of a line, such as links and markers, are kept beside it as a label: a list of objects
with a position in the line, counted in bytes, and the note itself.  Rendering puts each note back
at its position.  A label that is not such a list is ignored, with three exceptions that surface as
failures: a position that is infinite, a label that is a number or an object, and one whose brackets
stand inside each other too deeply.
-/

namespace RunLog

/-- A note of a line and where it goes. -/
structure Note where
  /-- The byte of the line before which the note goes. -/
  position : Int
  /-- The bytes of the note. -/
  content : Bytes
  deriving DecidableEq, Repr

/-- How the bytes of an entry are made. -/
inductive Extractor
  /-- The line as it is. -/
  | plain
  /-- The line with its notes put back.  Brackets stand inside each other to a given depth at most
  where notes are read. -/
  | noted (depth : Nat)
  /-- Left to be defined. -/
  | undefined
  /-- Anything else that makes bytes of an entry or fails. -/
  | custom (rendering : Entry → Except Failure Bytes)

namespace Note

/-- The label that holds notes. -/
def labelName : Text := "jenkins_annotations"

/-- What reading a label can come to besides notes. -/
inductive Trouble
  /-- The label is malformed and ignored. -/
  | ignored
  /-- Something that is not ignored. -/
  | failure (failure : Failure)
  deriving DecidableEq, Repr

/-- The whole number that a position stands for. -/
def positionOf : Json → Except Trouble Int
  | .int value => .ok value
  | .bool value => .ok (if value then 1 else 0)
  | .float value =>
    if value.isNaN then .error .ignored
    else if value.isInf then .error (.failure (.malformed .outOfRange))
    else .ok (truncateFloat value)
  | .text value =>
    match Numeral.int? value with
    | .ok number => .ok number
    | .error _ => .error .ignored
  | _ => .error .ignored

/-- The bytes that the text of a note stands for. -/
def contentOf (value : Json) : Except Trouble Bytes :=
  match value.display.utf8? with
  | some bytes => .ok bytes
  | none => .error .ignored

/-- The note that an object stands for. -/
def ofObject (members : List (Text × Json)) : Except Trouble Note := do
  let some written := Json.lookup? "position" members | throw .ignored
  let position ← positionOf written
  let some written := Json.lookup? "note" members | throw .ignored
  let content ← contentOf written
  return ⟨position, content⟩

/-- The note that an item of a list stands for. -/
def ofItem : Json → Except Trouble Note
  | .object members => ofObject members
  | _ => .error .ignored

/-- The notes that a structured value stands for.  A text or an object without anything in it
is as good as an empty list. -/
def ofValue : Json → Except Trouble (List Note)
  | .list items => items.mapM ofItem
  | .text value => if value.isEmpty then .ok [] else .error .ignored
  | .object members => if members.isEmpty then .ok [] else .error .ignored
  | _ => .error .ignored

/-- The notes that a label stands for, in which brackets stand inside each other to a given depth at
most. -/
def ofLabel (depth : Nat) : Json → Except Trouble (List Note)
  | .text written =>
    match Json.readWithin depth written with
    | .ok value => ofValue value
    | .error .malformed => .error .ignored
    | .error .tooDeep => .error (.failure (.malformed .tooDeep))
  | .list _ => .error .ignored
  | _ => .error (.failure (.malformed .wrongType))

/-- Notes in the order of their positions; notes at one position keep their order. -/
def sorted (notes : List Note) : List Note :=
  notes.mergeSort fun left right => decide (left.position ≤ right.position)

/-- The rest of a line with the contents of notes put in, where the part before the given place
is already written. -/
def spliceFrom (line : Bytes) : Nat → List Note → Bytes
  | place, [] => line.drop place
  | place, note :: rest =>
    let next := min (max note.position.toNat place) line.length
    (line.take next).drop place ++ note.content ++ spliceFrom line next rest

/-- A line with the contents of notes put in. -/
def splice (line : Bytes) (notes : List Note) : Bytes :=
  spliceFrom line 0 (sorted notes)

@[simp] theorem splice_nil (line : Bytes) : splice line [] = line := by
  simp [splice, sorted, spliceFrom]

end Note

namespace Extractor

/-- The bytes of an entry with its notes put back. -/
def renderNoted (depth : Nat) (entry : Entry) : Except Failure Bytes :=
  match entry.labels.get? Note.labelName with
  | none => .ok entry.line
  | some label =>
    if label.isEmpty then .ok entry.line
    else
      match Note.ofLabel depth label with
      | .ok notes => .ok (Note.splice entry.line notes)
      | .error .ignored => .ok entry.line
      | .error (.failure failure) => .error failure

/-- The bytes of an entry. -/
def render : Extractor → Entry → Except Failure Bytes
  | plain, entry => .ok entry.line
  | noted depth, entry => renderNoted depth entry
  | undefined, _ => .error (.malformed .undefinedOperation)
  | custom rendering, entry => rendering entry

@[simp] theorem render_plain (entry : Entry) : plain.render entry = .ok entry.line := rfl

end Extractor
end RunLog
