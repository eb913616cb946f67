import RunLog.Text.Basic

/-!
# White space

Two classes of white space are in use.  Settings and addresses are judged and trimmed by the wider
one, which counts the information separators U+001C to U+001F as blank; numerals are trimmed by the
narrower one, which does not.
-/

namespace RunLog

namespace CodePoint

/-- Whether a code point is white space. -/
def isBlank (point : CodePoint) : Bool :=
  let number := point.val
  (0x09 ≤ number && number ≤ 0x0D) || (0x1C ≤ number && number ≤ 0x20) || number == 0x85
    || number == 0xA0 || number == 0x1680 || (0x2000 ≤ number && number ≤ 0x200A)
    || number == 0x2028 || number == 0x2029 || number == 0x202F || number == 0x205F
    || number == 0x3000

/-- Whether a code point is white space around a numeral: the information separators are not. -/
def isNumeralBlank (point : CodePoint) : Bool :=
  point.isBlank && !(0x1C ≤ point.val && point.val ≤ 0x1F)

end CodePoint

namespace Text

/-- Whether a text holds nothing but white space. -/
def isBlank (text : Text) : Bool :=
  text.all CodePoint.isBlank

/-- A text without the white space at its ends. -/
def strip (text : Text) : Text :=
  text.trim CodePoint.isBlank

@[simp] theorem isBlank_nil : isBlank [] = true := rfl

@[simp] theorem strip_nil : strip [] = [] := rfl

end Text
end RunLog
