import RunLog.Failure

/-!
# The offset map

While a log is read as bytes, the map keeps where each line starts.  A viewer that already has some
bytes asks it which line a byte belongs to, and where a line begins.  Starts come in order: offset
and number both increase, and a start that does not come after the last one is refused.

Offsets and numbers stand in two columns.  As both of them ascend, either is searched by halving:
the viewer asks a column for its last entry that is at most a value, and reads the other column at
the same place.
-/

namespace RunLog

/-- Where a line starts. -/
structure LineStart where
  /-- The offset of the first byte of the line. -/
  offset : Int
  /-- The number of the line. -/
  line : Int
  deriving DecidableEq, Repr

/-- The starts of the lines so far, in the order in which they came. -/
structure OffsetMap where
  /-- The offsets of the starts. -/
  offsets : Array Int
  /-- The numbers of the lines that start there. -/
  lines : Array Int
  deriving DecidableEq, Repr

namespace OffsetMap

/-- No line so far. -/
def empty : OffsetMap :=
  ⟨#[], #[]⟩

/-- The starts in the order in which they came. -/
def toList (map : OffsetMap) : List LineStart :=
  List.zipWith LineStart.mk map.offsets.toList map.lines.toList

/-- How many lines have started. -/
def length (map : OffsetMap) : Nat :=
  map.offsets.size

/-- The map with one more start. -/
def push (map : OffsetMap) (start : LineStart) : OffsetMap :=
  ⟨map.offsets.push start.offset, map.lines.push start.line⟩

/-- Add the start of a line; it has to come after the last one. -/
def put (map : OffsetMap) (start : LineStart) : Except Failure OffsetMap :=
  match map.offsets.back?, map.lines.back? with
  | some lastOffset, some lastLine =>
    if start.offset ≤ lastOffset ∨ start.line ≤ lastLine then
      .error (.lineOrder start.offset start.line lastOffset lastLine)
    else .ok (map.push start)
  | _, _ => .ok (map.push start)

/-- How many entries of an ascending column are at most a value, where those before `low` are known
to be and those from `high` on are known not to be: what lies between them is halved until nothing
is left. -/
def countBetween (column : Array Int) (value : Int) (low high : Nat) (within : high ≤ column.size) :
    Nat :=
  if _ : low < high then
    let middle := (low + high) / 2
    if value < column[middle] then countBetween column value low middle (by omega)
    else countBetween column value (middle + 1) high within
  else low
termination_by high - low

/-- How many entries of an ascending column are at most a value. -/
def countUpTo (column : Array Int) (value : Int) : Nat :=
  countBetween column value 0 column.size (Nat.le_refl _)

/-- The place of the last entry of an ascending column that is at most a value. -/
def lastUpTo? (column : Array Int) (value : Int) : Option Nat :=
  match countUpTo column value with
  | 0 => none
  | place + 1 => some place

/-- The number of the line that a byte belongs to; none before the first line. -/
def lineAt? (map : OffsetMap) (offset : Int) : Option Int :=
  (lastUpTo? map.offsets offset).bind fun place => map.lines[place]?

/-- The offset at which a line starts, if it has started. -/
def offsetOf? (map : OffsetMap) (line : Int) : Option Int :=
  (lastUpTo? map.lines line).bind fun place =>
    if map.lines[place]? = some line then map.offsets[place]? else none

@[simp] theorem toList_empty : empty.toList = [] := rfl

@[simp] theorem length_empty : empty.length = 0 := rfl

end OffsetMap
end RunLog
