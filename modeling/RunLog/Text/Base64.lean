import RunLog.Text.Utf8

/-!
# Base64

Three bytes are written as four characters of an alphabet of sixty-four; the last group is filled
up with `=`.
-/

namespace RunLog
namespace Text

/-- The alphabet. -/
def base64Alphabet : List Char :=
  "ABCDEFGHIJKLMNOPQRSTUVWXYZabcdefghijklmnopqrstuvwxyz0123456789+/".toList

/-- The character of the alphabet for the lowest six bits of a number. -/
def base64Digit (number : Nat) : CodePoint :=
  CodePoint.ofChar (base64Alphabet.getD (number % 64) '=')

/-- The text of some bytes in Base64. -/
def base64 : Bytes → Text
  | [] => []
  | [first] =>
    let number := first.toNat * 0x10000
    [base64Digit (number / 0x40000), base64Digit (number / 0x1000)] ++ "=="
  | [first, second] =>
    let number := first.toNat * 0x10000 + second.toNat * 0x100
    [base64Digit (number / 0x40000), base64Digit (number / 0x1000), base64Digit (number / 0x40)]
      ++ "="
  | first :: second :: third :: rest =>
    let number := first.toNat * 0x10000 + second.toNat * 0x100 + third.toNat
    [base64Digit (number / 0x40000), base64Digit (number / 0x1000), base64Digit (number / 0x40),
      base64Digit number] ++ base64 rest

end Text
end RunLog
