import RunLog.Text.Utf8

/-!
# Hexadecimal bytes

Digests and percent-encoded bytes are shown with two hexadecimal digits a byte.
-/

namespace RunLog
namespace Text

/-- The digits of lower-case hexadecimal text. -/
def lowerHexDigits : Array Char :=
  #['0', '1', '2', '3', '4', '5', '6', '7', '8', '9', 'a', 'b', 'c', 'd', 'e', 'f']

/-- The digits of upper-case hexadecimal text. -/
def upperHexDigits : Array Char :=
  #['0', '1', '2', '3', '4', '5', '6', '7', '8', '9', 'A', 'B', 'C', 'D', 'E', 'F']

/-- The two hexadecimal digits of a byte. -/
def hexByte (digits : Array Char) (byte : UInt8) : Text :=
  [(digits[byte.toNat / 16]?).getD '0', (digits[byte.toNat % 16]?).getD '0'].map CodePoint.ofChar

/-- The lower-case hexadecimal text of some bytes. -/
def ofBytes (bytes : Bytes) : Text :=
  bytes.flatMap (hexByte lowerHexDigits)

/-- The bytes written by hexadecimal text; none unless the text consists of pairs of digits. -/
def toBytes? : Text → Option Bytes
  | [] => some []
  | high :: low :: rest => do
    let upper ← high.hexValue?
    let lower ← low.hexValue?
    let bytes ← toBytes? rest
    some (UInt8.ofNat (upper * 16 + lower) :: bytes)
  | [_] => none

end Text
end RunLog
