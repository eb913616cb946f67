import RunLog.Text.Utf8

/-!
# The SHA-1 digest

The digest of FIPS 180-4, on lists of bytes.  A message is padded to whole blocks of sixty-four
bytes; each block is spread into eighty words, which drive eighty rounds on a state of five words;
the digest is the state after the last block.
-/

namespace RunLog
namespace Sha1

/-- The five words a digest is computed in. -/
structure State where
  a : UInt32
  b : UInt32
  c : UInt32
  d : UInt32
  e : UInt32
  deriving DecidableEq, Repr

/-- The state before the first block. -/
def State.start : State :=
  ⟨0x67452301, 0xEFCDAB89, 0x98BADCFE, 0x10325476, 0xC3D2E1F0⟩

/-- The bytes of a number, most significant first, to a given count. -/
def bigEndian (count number : Nat) : Bytes :=
  (List.range count).map fun index => UInt8.ofNat (number / Nat.pow 256 (count - 1 - index))

/-- A message followed by a one bit, zeros and its length in bits. -/
def pad (message : Bytes) : Bytes :=
  let size := message.length
  let zeros := (119 - size % 64) % 64
  message ++ 0x80 :: List.replicate zeros 0 ++ bigEndian 8 (8 * size)

/-- The words of a list of bytes, four bytes each. -/
def words : Bytes → List UInt32
  | first :: second :: third :: fourth :: rest =>
    (first.toUInt32 <<< 24 ||| second.toUInt32 <<< 16 ||| third.toUInt32 <<< 8
      ||| fourth.toUInt32) :: words rest
  | _ => []

/-- A word turned left by a number of bits. -/
def rotate (word : UInt32) (bits : UInt32) : UInt32 :=
  word <<< bits ||| word >>> (32 - bits)

/-- The next words of a schedule whose last sixteen words are given. -/
def extend : Nat → List UInt32 → List UInt32
  | 0, _ => []
  | count + 1, window =>
    let next := rotate (window.getD 0 0 ^^^ window.getD 2 0 ^^^ window.getD 8 0
      ^^^ window.getD 13 0) 1
    next :: extend count (window.drop 1 ++ [next])

/-- The eighty words of a block. -/
def schedule (block : List UInt32) : List UInt32 :=
  block ++ extend 64 block

/-- The mixing function and the constant of a round. -/
def mixing (round : Nat) (state : State) : UInt32 × UInt32 :=
  let { b, c, d, .. } := state
  if round < 20 then ((b &&& c) ||| (~~~b &&& d), 0x5A827999)
  else if round < 40 then (b ^^^ c ^^^ d, 0x6ED9EBA1)
  else if round < 60 then ((b &&& c) ||| (b &&& d) ||| (c &&& d), 0x8F1BBCDC)
  else (b ^^^ c ^^^ d, 0xCA62C1D6)

/-- One round. -/
def round (state : State) (word : UInt32 × Nat) : State :=
  let (mixed, constant) := mixing word.2 state
  { a := rotate state.a 5 + mixed + state.e + constant + word.1
    b := state.a
    c := rotate state.b 30
    d := state.c
    e := state.d }

/-- The state after a block. -/
def compress (state : State) (block : List UInt32) : State :=
  let last := (schedule block).zipIdx.foldl round state
  ⟨state.a + last.a, state.b + last.b, state.c + last.c, state.d + last.d, state.e + last.e⟩

/-- The state after a list of words, sixteen at a time; the first argument bounds the blocks. -/
def absorb : Nat → State → List UInt32 → State
  | 0, state, _ => state
  | _ + 1, state, [] => state
  | blocks + 1, state, stream => absorb blocks (compress state (stream.take 16)) (stream.drop 16)

/-- The digest of a message, twenty bytes. -/
def digest (message : Bytes) : Bytes :=
  let stream := words (pad message)
  let state := absorb stream.length State.start stream
  [state.a, state.b, state.c, state.d, state.e].flatMap fun word => bigEndian 4 word.toNat

end Sha1
end RunLog
