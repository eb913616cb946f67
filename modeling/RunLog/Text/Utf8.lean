import RunLog.Text.Basic

/-!
# UTF-8

A text is written as bytes code point by code point.  An unpaired surrogate has no UTF-8 form, so
writing is partial; where a surrogate has to pass all the same, it gets the three bytes its number
would have.

Reading never fails.  A byte that cannot continue the sequence before it ends that sequence, and
every sequence cut short becomes one replacement character.  The reader is a machine that moves one
byte at a time, so reading a concatenation is reading its parts one after the other.
-/

namespace RunLog

/-- A sequence of bytes. -/
abbrev Bytes := List UInt8

namespace CodePoint

/-- A byte that continues a sequence, holding the lowest six bits of a number. -/
def tailByte (number : Nat) : UInt8 :=
  UInt8.ofNat (0x80 + number % 0x40)

/-- The UTF-8 bytes of a code point, a surrogate taken by its number. -/
def utf8 (point : CodePoint) : Bytes :=
  let number := point.val
  if number < 0x80 then [UInt8.ofNat number]
  else if number < 0x800 then [UInt8.ofNat (0xC0 + number / 0x40), tailByte number]
  else if number < 0x10000 then
    [UInt8.ofNat (0xE0 + number / 0x1000), tailByte (number / 0x40), tailByte number]
  else
    [UInt8.ofNat (0xF0 + number / 0x40000), tailByte (number / 0x1000), tailByte (number / 0x40),
      tailByte number]

/-- What stands for bytes that are not UTF-8. -/
def replacement : CodePoint := ofNat 0xFFFD

end CodePoint

namespace Text

/-- The UTF-8 bytes of a text, surrogates taken by their number. -/
def utf8 (text : Text) : Bytes :=
  text.flatMap CodePoint.utf8

/-- Whether a text holds an unpaired surrogate. -/
def hasSurrogate (text : Text) : Bool :=
  text.any CodePoint.isSurrogate

/-- The UTF-8 bytes of a text; none for a text with an unpaired surrogate. -/
def utf8? (text : Text) : Option Bytes :=
  if text.hasSurrogate then none else some text.utf8

/-- Where a reader of UTF-8 stands between two bytes. -/
inductive Utf8State
  /-- Between code points. -/
  | start
  /-- Inside a sequence: how many bytes are still due after the next one, the number read so far,
  and the least and the greatest byte that may come next. -/
  | inside (due number least greatest : Nat)
  deriving DecidableEq, Repr

namespace Utf8State

/-- The step of a reader that stands between code points. -/
def lead (byte : Nat) : Utf8State × Text :=
  if byte < 0x80 then (start, [CodePoint.ofNat byte])
  else if byte < 0xC2 then (start, [CodePoint.replacement])
  else if byte < 0xE0 then (inside 0 (byte - 0xC0) 0x80 0xBF, [])
  else if byte < 0xF0 then
    (inside 1 (byte - 0xE0) (if byte = 0xE0 then 0xA0 else 0x80)
      (if byte = 0xED then 0x9F else 0xBF), [])
  else if byte < 0xF5 then
    (inside 2 (byte - 0xF0) (if byte = 0xF0 then 0x90 else 0x80)
      (if byte = 0xF4 then 0x8F else 0xBF), [])
  else (start, [CodePoint.replacement])

/-- The step of a reader: where it stands after one byte, and the code points finished by it. -/
def step (byte : Nat) : Utf8State → Utf8State × Text
  | start => lead byte
  | inside due number least greatest =>
    if least ≤ byte && byte ≤ greatest then
      let next := number * 0x40 + (byte - 0x80)
      match due with
      | 0 => (start, [CodePoint.ofNat next])
      | due + 1 => (inside due next 0x80 0xBF, [])
    else
      let (state, points) := lead byte
      (state, CodePoint.replacement :: points)

/-- What a reader adds when the bytes end. -/
def finish : Utf8State → Text
  | start => []
  | inside .. => [CodePoint.replacement]

end Utf8State

/-- The text of some bytes; a malformed sequence becomes one replacement character. -/
def ofUtf8 (bytes : Bytes) : Text :=
  let (state, reversed) := bytes.foldl (fun (state, reversed) byte =>
    let (next, points) := state.step byte.toNat
    (next, points.reverseAux reversed)) (Utf8State.start, [])
  reversed.reverse ++ state.finish

@[simp] theorem utf8_nil : utf8 [] = [] := rfl

@[simp] theorem utf8_cons (point : CodePoint) (text : Text) :
    utf8 (point :: text) = point.utf8 ++ utf8 text := rfl

@[simp] theorem utf8_append (left right : Text) :
    utf8 (left ++ right) = utf8 left ++ utf8 right := by
  simp [utf8]

@[simp] theorem ofUtf8_nil : ofUtf8 [] = [] := rfl

end Text
end RunLog
