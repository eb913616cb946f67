import RunLog.ByteStream
import RunLog.Journal

/-!
# Logs in memory

A buffer serves the whole log of a byte stream at once.  The stream is read to its end when
something is first wanted of the buffer, and from memory ever after.  A read that fails leaves the
buffer as it was, so that the next attempt reads on.
-/

namespace RunLog

/-- A buffer over a byte stream. -/
structure Buffer (δ : Type) where
  /-- Where the bytes come from. -/
  stream : ByteStream δ
  /-- The whole log, once it is read. -/
  content : Option Bytes
  /-- Whether the buffer is closed. -/
  closed : Bool

namespace Buffer

variable {ω δ : Type}

/-- A buffer before anything is read. -/
def start (stream : ByteStream δ) : Buffer δ :=
  ⟨stream, none, false⟩

/-- A buffer after it is closed, and its stream with it. -/
def close (buffer : Buffer δ) : Buffer δ :=
  if buffer.closed then buffer
  else { stream := buffer.stream.close, content := none, closed := true }

/-- What comes of wanting the whole log. -/
structure Result (ω δ : Type) where
  /-- The buffer afterwards. -/
  buffer : Buffer δ
  /-- The world afterwards. -/
  world : ω
  /-- What happened while the stream was read; nothing if it was not read. -/
  reading : Option (List (Event δ))
  /-- The whole log, or a failure. -/
  outcome : Except Failure Bytes

/-- The whole log. -/
def materialize [WaitTime δ] (env : Surroundings ω δ) (fuel : Nat) (buffer : Buffer δ) (world : ω) :
    Result ω δ :=
  if buffer.closed then ⟨buffer, world, none, .error (.closed .buffer)⟩
  else
    match buffer.content with
    | some content => ⟨buffer, world, none, .ok content⟩
    | none =>
      let read := buffer.stream.readAll env fuel world
      ⟨{ buffer with stream := read.stream, content := read.outcome.toOption }, read.world,
        some read.events, read.outcome⟩

/-- The span of reading a log into memory. -/
def readingSpan (buffer : Buffer δ) (outcome : Except Failure Bytes) : Span :=
  let reading := Span.start .materialize none []
  match outcome with
  | .ok content =>
    (reading.note [("log.bytes", .int content.length),
      ("log.lines", .int buffer.stream.lines)]).finish none
  | .error failure => reading.finish (some failure)

/-- What the journal holds of wanting the whole log. -/
def notices (result : Result ω Float) : List Notice :=
  match result.reading with
  | none => []
  | some events =>
    Notice.ofEvents result.buffer.stream.iterator.scope (some .materialize) events
      ++ [.span (readingSpan result.buffer result.outcome)]

/-! ## Using a buffer -/

/-- What comes of an operation on a buffer or on its stream, with what the journal holds of it. -/
structure Use (ω α : Type) where
  /-- The buffer afterwards. -/
  buffer : Buffer Float
  /-- The world afterwards. -/
  world : ω
  /-- What the journal holds. -/
  notices : List Notice
  /-- The result, or a failure. -/
  outcome : Except Failure α

/-- The whole log, and what the journal holds of it. -/
def whole (env : Surroundings ω Float) (fuel : Nat) (buffer : Buffer Float) (world : ω) :
    Use ω Bytes :=
  let result := buffer.materialize env fuel world
  ⟨result.buffer, result.world, notices result, result.outcome⟩

/-- The ways to look at the whole log. -/
inductive View
  /-- How many bytes it has. -/
  | length
  /-- Its bytes. -/
  | value
  /-- A stream of its own over the bytes. -/
  | copy
  /-- The bytes, written to a file. -/
  | written
  deriving DecidableEq, Repr

/-- What is seen of a log. -/
inductive Shown
  /-- A number of bytes. -/
  | length (count : Nat)
  /-- Bytes. -/
  | value (bytes : Bytes)
  /-- A stream that stands at the start of bytes. -/
  | copy (bytes : Bytes)
  /-- Bytes that were written, and how many. -/
  | written (count : Nat) (bytes : Bytes)
  deriving DecidableEq, Repr

/-- What is seen of a log in a view. -/
def View.shown (content : Bytes) : View → Shown
  | length => .length content.length
  | value => .value content
  | copy => .copy content
  | written => .written content.length content

/-- A look at the whole log, and what the journal holds of it. -/
def look (env : Surroundings ω Float) (fuel : Nat) (view : View) (buffer : Buffer Float)
    (world : ω) : Use ω Shown :=
  let used := buffer.whole env fuel world
  ⟨used.buffer, used.world, used.notices, used.outcome.map view.shown⟩

/-- An operation on the stream of a buffer, and what the journal holds of it. -/
def onStream {α : Type} (operation : ByteStream Float → ω → ByteStream.Result ω Float α)
    (buffer : Buffer Float) (world : ω) : Use ω α :=
  let result := operation buffer.stream world
  ⟨{ buffer with stream := result.stream }, result.world,
    Notice.ofEvents result.stream.iterator.scope none result.events, result.outcome⟩

@[simp] theorem close_close (buffer : Buffer δ) : buffer.close.close = buffer.close := by
  by_cases isClosed : buffer.closed <;> simp [close, isClosed]

@[simp] theorem materialize_closed [WaitTime δ] (env : Surroundings ω δ) (fuel : Nat)
    (buffer : Buffer δ) (world : ω) (isClosed : buffer.closed = true) :
    materialize env fuel buffer world = ⟨buffer, world, none, .error (.closed .buffer)⟩ := by
  simp [materialize, isClosed]

end Buffer
end RunLog
