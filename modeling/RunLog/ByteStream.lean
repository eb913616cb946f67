import RunLog.Iterator
import RunLog.Note
import RunLog.OffsetMap

/-!
# Reading a log as bytes

A byte stream hands out the rendered lines of an iterator, each followed by a line end, in pieces of
any size.  A line is taken from the iterator when its first byte is wanted, and where it starts is
entered into the offset map.

When a line cannot be had, the read fails; the bytes that the failed read had already taken from
earlier lines count as read.
-/

namespace RunLog

/-- A byte stream over the lines of an iterator. -/
structure ByteStream (δ : Type) where
  /-- Where the lines come from. -/
  iterator : Iterator δ
  /-- How the bytes of a line are made. -/
  extractor : Extractor
  /-- The bytes of the current line that are still to be read. -/
  pending : Bytes
  /-- How many bytes the lines so far have. -/
  offset : Nat
  /-- How many lines have been taken. -/
  lines : Nat
  /-- Where the lines start. -/
  map : OffsetMap
  /-- Whether the stream is closed. -/
  closed : Bool

namespace ByteStream

variable {ω δ : Type}

/-- The byte that ends a line. -/
def lineEnd : UInt8 := 0x0A

/-- How many bytes are read at once when all of them are wanted. -/
def chunkSize : Nat := 8192

/-- A byte stream before anything is read. -/
def start (iterator : Iterator δ) (extractor : Extractor) : ByteStream δ :=
  { iterator, extractor, pending := [], offset := 0, lines := 0, map := OffsetMap.empty,
    closed := false }

/-- How many bytes have been read. -/
def bytesRead (stream : ByteStream δ) : Int :=
  stream.offset - stream.pending.length

/-- A stream after it is closed, and its iterator with it. -/
def close (stream : ByteStream δ) : ByteStream δ :=
  if stream.closed then stream
  else { stream with closed := true, iterator := stream.iterator.close }

/-- What comes of an operation on a stream. -/
structure Result (ω δ α : Type) where
  /-- The stream afterwards. -/
  stream : ByteStream δ
  /-- The world afterwards. -/
  world : ω
  /-- What happened. -/
  events : List (Event δ)
  /-- The result, or a failure. -/
  outcome : Except Failure α

/-- A result with events before it. -/
def Result.after {α : Type} (result : Result ω δ α) (events : List (Event δ)) : Result ω δ α :=
  { result with events := events ++ result.events }

/-- A stream whose current line has the given rendering. -/
def enter (stream : ByteStream δ) (rendered : Bytes) : ByteStream δ × Except Failure Unit :=
  let line := rendered ++ [lineEnd]
  match stream.map.put ⟨stream.offset, stream.lines⟩ with
  | .error failure => ({ stream with pending := line }, .error failure)
  | .ok map =>
    ({ stream with
        pending := line, map, offset := stream.offset + line.length, lines := stream.lines + 1 },
      .ok ())

/-- Take the next line from the iterator; whether there was one. -/
def takeLine [WaitTime δ] (env : Surroundings ω δ) (fuel : Nat) (stream : ByteStream δ)
    (world : ω) : Result ω δ Bool :=
  let pull := stream.iterator.next env fuel world
  let stream := { stream with iterator := pull.iterator }
  match pull.outcome with
  | .error failure => ⟨stream, pull.world, pull.events, .error failure⟩
  | .ok none => ⟨stream, pull.world, pull.events, .ok false⟩
  | .ok (some entry) =>
    match stream.extractor.render entry with
    | .error failure => ⟨stream, pull.world, pull.events, .error failure⟩
    | .ok rendered =>
      match stream.enter rendered with
      | (stream, .ok ()) => ⟨stream, pull.world, pull.events, .ok true⟩
      | (stream, .error failure) => ⟨stream, pull.world, pull.events, .error failure⟩

/-- Make sure that the current line has bytes left; whether it has. -/
def refill [WaitTime δ] (env : Surroundings ω δ) (fuel : Nat) (stream : ByteStream δ) (world : ω) :
    Result ω δ Bool :=
  if stream.pending.isEmpty then takeLine env fuel stream world
  else ⟨stream, world, [], .ok true⟩

/-- Read up to a number of bytes across lines.  Every line has a byte at least, so as many lines as
bytes are enough; the first number counts them down. -/
def fill [WaitTime δ] (env : Surroundings ω δ) (fuel : Nat) :
    Nat → Nat → ByteStream δ → ω → Result ω δ Bytes
  | 0, _, stream, world => ⟨stream, world, [], .ok []⟩
  | lines + 1, wanted, stream, world =>
    if wanted = 0 then ⟨stream, world, [], .ok []⟩
    else
      let filled := refill env fuel stream world
      match filled.outcome with
      | .error failure => ⟨filled.stream, filled.world, filled.events, .error failure⟩
      | .ok false => ⟨filled.stream, filled.world, filled.events, .ok []⟩
      | .ok true =>
        let chunk := filled.stream.pending.take wanted
        let rest := fill env fuel lines (wanted - chunk.length)
          { filled.stream with pending := filled.stream.pending.drop wanted } filled.world
        ⟨rest.stream, rest.world, filled.events ++ rest.events, rest.outcome.map (chunk ++ ·)⟩

/-- Read up to a number of bytes; fewer only at the end. -/
def read [WaitTime δ] (env : Surroundings ω δ) (fuel : Nat) (count : Nat) (stream : ByteStream δ)
    (world : ω) : Result ω δ Bytes :=
  if stream.closed then ⟨stream, world, [], .error .closedStream⟩
  else fill env fuel count count stream world

/-- Read to the end in chunks, up to the given number of them. -/
def readChunks [WaitTime δ] (env : Surroundings ω δ) (fuel : Nat) :
    Nat → ByteStream δ → ω → Result ω δ Bytes
  | 0, stream, world => ⟨stream, world, [], .error .unfinished⟩
  | chunks + 1, stream, world =>
    let chunk := read env fuel chunkSize stream world
    match chunk.outcome with
    | .error failure => ⟨chunk.stream, chunk.world, chunk.events, .error failure⟩
    | .ok [] => ⟨chunk.stream, chunk.world, chunk.events, .ok []⟩
    | .ok bytes =>
      let rest := readChunks env fuel chunks chunk.stream chunk.world
      ⟨rest.stream, rest.world, chunk.events ++ rest.events, rest.outcome.map (bytes ++ ·)⟩

/-- Read to the end. -/
def readAll [WaitTime δ] (env : Surroundings ω δ) (fuel : Nat) (stream : ByteStream δ) (world : ω) :
    Result ω δ Bytes :=
  readChunks env fuel fuel stream world

/-- Read up to the end of a line, byte by byte, and at most the given number of bytes. -/
def readLine [WaitTime δ] (env : Surroundings ω δ) (fuel : Nat) :
    Nat → ByteStream δ → ω → Result ω δ Bytes
  | 0, stream, world => ⟨stream, world, [], .ok []⟩
  | limit + 1, stream, world =>
    let first := read env fuel 1 stream world
    match first.outcome with
    | .error failure => ⟨first.stream, first.world, first.events, .error failure⟩
    | .ok bytes =>
      if bytes.isEmpty || bytes.contains lineEnd then
        ⟨first.stream, first.world, first.events, .ok bytes⟩
      else
        let rest := readLine env fuel limit first.stream first.world
        ⟨rest.stream, rest.world, first.events ++ rest.events, rest.outcome.map (bytes ++ ·)⟩

@[simp] theorem bytesRead_start (iterator : Iterator δ) (extractor : Extractor) :
    (start iterator extractor).bytesRead = 0 := rfl

@[simp] theorem read_closed [WaitTime δ] (env : Surroundings ω δ) (fuel count : Nat)
    (stream : ByteStream δ) (world : ω) (isClosed : stream.closed = true) :
    read env fuel count stream world = ⟨stream, world, [], .error .closedStream⟩ := by
  simp [read, isClosed]

@[simp] theorem close_close (stream : ByteStream δ) : stream.close.close = stream.close := by
  by_cases isClosed : stream.closed <;> simp [close, isClosed]

end ByteStream
end RunLog
