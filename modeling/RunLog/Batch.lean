import RunLog.Entry
import RunLog.Json.Reader

/-!
# Batches

A batch is one page of entries.  It is read from the structured value that the backend answers: a
list of streams, each with its labels and a list of times and lines.  The lines of a stream at one
time are numbered in the order in which they come, and only lines inside the window that was asked
for are kept.  When the page is full, the largest time on it says where to go on.

The reader is as lenient as it is plain: what is empty counts as missing, and whatever else is not
of the right shape is a failure that says what was wanted.
-/

namespace RunLog

/-- The times from which on and up to which lines are asked for, in nanoseconds. -/
structure Window where
  /-- The first time inside. -/
  start : Int
  /-- The first time not inside any more. -/
  stop : Int
  deriving DecidableEq, Repr

/-- Whether a time lies in a window. -/
def Window.contains (window : Window) (timestamp : Int) : Bool :=
  decide (window.start ≤ timestamp ∧ timestamp < window.stop)

/-- One page of entries. -/
structure Batch where
  /-- The entries, in order. -/
  entries : List Entry
  /-- Where to go on, if the page was full. -/
  next : Option Int

namespace Batch

/-- A failure of shape. -/
def wrong {α : Type} (fault : Malformation) : Except Failure α :=
  .error (.malformed fault)

/-- The member of an object; nothing if it is missing or empty. -/
def member (name : Text) : Json → Except Failure (Option Json)
  | .object members => .ok ((Json.lookup? name members).filter fun value => !value.isEmpty)
  | _ => wrong .noObject

/-- The items of a value that is gone through: a list's items, a text's characters, an object's
names. -/
def items : Json → Except Failure (List Json)
  | .list items => .ok items
  | .text value => .ok (value.map fun point => .text [point])
  | .object members => .ok (members.map fun (name, _) => .text name)
  | _ => wrong .wrongType

/-- The items of a value that may be missing. -/
def optionalItems : Option Json → Except Failure (List Json)
  | some value => items value
  | none => .ok []

/-- The label that a pair stands for. -/
def labelOfPair (name value : Json) : Except Failure Label :=
  if Label.isName name then .ok ⟨name, value⟩ else wrong .wrongType

/-- The label that an item of a list of pairs stands for. -/
def label (item : Json) : Except Failure Label := do
  match ← items item with
  | [name, value] => labelOfPair name value
  | _ => wrong .wrongValue

/-- The labels that a value stands for: an object's members, or the pairs of a list. -/
def labels : Option Json → Except Failure Labels
  | none => .ok []
  | some (.object members) => .ok (Labels.ofMembers members)
  | some value => do
    (← items value).foldlM (fun collected item => do
      return Labels.insert (← label item) collected) []

/-- The item of a value at a place. -/
def item (value : Json) (place : Nat) : Except Failure Json :=
  match value with
  | .list items => match items[place]? with
    | some item => .ok item
    | none => wrong .missingItem
  | .text value => match value[place]? with
    | some point => .ok (.text [point])
    | none => wrong .missingItem
  | .object _ => wrong .missingName
  | _ => wrong .wrongType

/-- The time that a value stands for. -/
def timestamp : Json → Except Failure Int
  | .int value => .ok value
  | .bool value => .ok (if value then 1 else 0)
  | .float value =>
    if value.isNaN then wrong .wrongValue
    else if value.isInf then wrong .outOfRange
    else .ok (truncateFloat value)
  | .text value =>
    match Numeral.int? value with
    | .ok number => .ok number
    | .error _ => wrong .wrongValue
  | _ => wrong .wrongType

/-- The byte that an item of a list stands for. -/
def byte (value : Json) : Except Failure UInt8 :=
  match Label.asInt? value with
  | some number =>
    if 0 ≤ number ∧ number < 256 then .ok (UInt8.ofNat number.toNat) else wrong .wrongValue
  | none => wrong .wrongType

/-- As many zero bytes as a number says, where there is room for less than a given number of them.
A number that is no signed one of 64 bits is out of range, and so is one that leaves no space for
what is stored beside the bytes. -/
def zeros (room count : Int) : Except Failure Bytes :=
  if count < -0x8000000000000000 ∨ 0x8000000000000000 - 33 ≤ count then wrong .outOfRange
  else if count < 0 then wrong .wrongValue
  else if room ≤ count then wrong .tooLarge
  else .ok (List.replicate count.toNat 0)

/-- The bytes of the line that a value stands for: the UTF-8 bytes of a text, the bytes in a list,
or as many zeros as a number says. -/
def line (room : Int) : Json → Except Failure Bytes
  | .text value =>
    match value.utf8? with
    | some bytes => .ok bytes
    | none => wrong .unencodable
  | .int count => zeros room count
  | .bool value => zeros room (if value then 1 else 0)
  | .list items => items.mapM byte
  | .object [] => .ok []
  | _ => wrong .wrongType

/-- What has been read of a response: the entries inside the window and the times of all lines,
both in reverse. -/
structure Reading where
  entries : List Entry
  timestamps : List Int

/-- Read one line of a stream, after the times of the lines of the stream before it. -/
def readValue (room : Int) (window : Window) (labels : Labels) (earlier : List Int) (value : Json) :
    Except Failure (Int × Option Entry) := do
  let time ← timestamp (← item value 0)
  let written ← item value 1
  if window.contains time then
    return (time, some ⟨time, earlier.count time, ← line room written, labels⟩)
  else return (time, none)

/-- Read the lines of a stream, after the times of the lines of the stream before them. -/
def readValues (room : Int) (window : Window) (labels : Labels) :
    List Int → List Json → Reading → Except Failure Reading
  | _, [], reading => .ok reading
  | earlier, value :: rest, reading => do
    let (time, entry) ← readValue room window labels earlier value
    readValues room window labels (time :: earlier) rest
      ⟨entry.toList ++ reading.entries, time :: reading.timestamps⟩

/-- Read a stream. -/
def readStream (room : Int) (window : Window) (reading : Reading) (stream : Json) :
    Except Failure Reading := do
  let labels ← labels (← member "stream" stream)
  let values ← optionalItems (← member "values" stream)
  readValues room window labels [] values reading

/-- The largest of some times. -/
def latest? (timestamps : List Int) : Option Int :=
  timestamps.max?

/-- The batch that was read, given how many lines make a page full. -/
def ofReading (pageSize : Int) (reading : Reading) : Batch where
  entries := Entry.sorted reading.entries.reverse
  next :=
    if pageSize ≤ (reading.timestamps.length : Int) then latest? reading.timestamps else none

/-- The word for success in a response. -/
def success : Text := "success"

/-- Whether a response reports success, which it does also by saying nothing. -/
def reportsSuccess (members : List (Text × Json)) : Bool :=
  match Json.lookup? "status" members with
  | none => true
  | some (.text word) => word == success
  | some _ => false

/-- The streams of a response. -/
def streams (response : Json) : Except Failure (List Json) := do
  let result ←
    match ← member "data" response with
    | some data => member "result" data
    | none => .ok none
  optionalItems result

/-- The batch that a response stands for. -/
def ofResponse (room pageSize : Int) (window : Window) (response : Json) :
    Except Failure Batch := do
  let .object members := response | wrong .noObject
  if !reportsSuccess members then
    let detail := ((Json.lookup? "error" members).getD response).display
    throw (.queryFailed (.unsuccessful detail response.display))
  let reading ← (← streams response).foldlM (readStream room window) ⟨[], []⟩
  return ofReading pageSize reading

end Batch
end RunLog
