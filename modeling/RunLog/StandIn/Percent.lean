import RunLog.Text.Hex

/-!
# Percent encoding

Bytes that may not stand for themselves in a URL are written as `%` and two hexadecimal digits.
What may stand for itself depends on the place: a form parameter is the strictest, and writes a
space as `+`.
-/

namespace RunLog
namespace Percent

/-- Whether a code point stands for itself everywhere. -/
def isUnreserved (point : CodePoint) : Bool :=
  point.isAsciiLetter || point.isAsciiDigit || point.isOneOf "._-~"

/-- The escape of a byte. -/
def escaped (byte : UInt8) : Text :=
  "%" ++ Text.hexByte Text.upperHexDigits byte

/-- A byte, standing for itself if its ASCII character is allowed to and escaped otherwise. -/
def encodeByte (allowed : CodePoint → Bool) (byte : UInt8) : Text :=
  let point := CodePoint.ofNat byte.toNat
  if byte < 0x80 && allowed point then [point] else escaped byte

/-- Bytes with everything escaped that is not allowed. -/
def encode (allowed : CodePoint → Bool) (bytes : Bytes) : Text :=
  bytes.flatMap (encodeByte allowed)

/-- A form parameter's bytes. -/
def encodeForm (bytes : Bytes) : Text :=
  bytes.flatMap fun byte => if byte == 0x20 then "+" else encodeByte isUnreserved byte

/-- A text with the letters of its escapes in upper case. -/
def upperEscapes : Text → Text
  | [] => []
  | percent :: high :: low :: rest =>
    if percent.is '%' then
      match high.hexValue?, low.hexValue? with
      | some upper, some lower =>
        escaped (UInt8.ofNat (upper * 16 + lower)) ++ upperEscapes rest
      | _, _ => percent :: upperEscapes (high :: low :: rest)
    else percent :: upperEscapes (high :: low :: rest)
  | point :: rest => point :: upperEscapes rest

/-- Whether every percent sign of a text begins an escape. -/
def wellFormed : Text → Bool
  | [] => true
  | percent :: high :: low :: rest =>
    if percent.is '%' then
      high.hexValue?.isSome && low.hexValue?.isSome && wellFormed rest
    else wellFormed (high :: low :: rest)
  | point :: rest => !point.is '%' && wellFormed rest

/-- A part of a URL in which escapes are kept: what is not allowed is escaped, and so are the
percent signs unless all of them begin escapes. -/
def encodePart (allowed : CodePoint → Bool) (part : Text) : Text :=
  let keep := wellFormed part
  encode (fun point => allowed point || (keep && point.is '%')) (upperEscapes part).utf8

/-- A text with the escapes of unreserved characters undone. -/
def undoUnreserved : Text → Text
  | [] => []
  | percent :: high :: low :: rest =>
    if percent.is '%' then
      match high.hexValue?, low.hexValue? with
      | some upper, some lower =>
        let point := CodePoint.ofNat (upper * 16 + lower)
        if isUnreserved point then point :: undoUnreserved rest
        else percent :: high :: low :: undoUnreserved rest
      | _, _ => percent :: undoUnreserved (high :: low :: rest)
    else percent :: undoUnreserved (high :: low :: rest)
  | point :: rest => point :: undoUnreserved rest

/-- The bytes of a text whose escapes are undone. -/
def decodeBytes : Text → Bytes
  | [] => []
  | percent :: high :: low :: rest =>
    if percent.is '%' then
      match high.hexValue?, low.hexValue? with
      | some upper, some lower => UInt8.ofNat (upper * 16 + lower) :: decodeBytes rest
      | _, _ => percent.utf8 ++ decodeBytes (high :: low :: rest)
    else percent.utf8 ++ decodeBytes (high :: low :: rest)
  | point :: rest => point.utf8 ++ decodeBytes rest

/-- A text with its escapes undone. -/
def decode (text : Text) : Text :=
  Text.ofUtf8 (decodeBytes text)

end Percent
end RunLog
