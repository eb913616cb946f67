import RunLog.Text.Mark

/-!
# Directions

The script of a code point says in which direction it is written; digits, hyphens and a few signs
have weak directions of their own.  The tables cover the code points that may stand in domain
names (version 14 of the character database).
-/

namespace RunLog

/-- How a code point takes part in the direction of a text. -/
inductive Direction
  /-- From left to right. -/
  | leftToRight
  /-- From right to left. -/
  | rightToLeft
  /-- From right to left, as Arabic letters. -/
  | arabic
  /-- A digit of the Arabic script. -/
  | arabicDigit
  /-- Another digit. -/
  | digit
  /-- A sign without a strong direction. -/
  | neutral
  /-- A mark, which follows the character before it. -/
  | mark
  deriving DecidableEq, Repr

namespace Direction

/-- The code points written from right to left, besides Arabic letters. -/
def rightToLeftPoints : CodePointRanges :=
  .ofRows [
    "5D0-5EA 5EF-5F4 7C0-7EA 7F4-7F5 800-815 81A 824 828 840-858 10800-10805 10808 1080A-10835",
    "10837-10838 1083C 1083F-10855 10860-10876 10880-1089E 108E0-108F2 108F4-108F5 10900-10915",
    "10920-10939 10980-109B7 109BE-109BF 10A00 10A10-10A13 10A15-10A17 10A19-10A35 10A60-10A7C",
    "10A80-10A9C 10AC0-10AC7 10AC9-10AE4 10B00-10B35 10B40-10B55 10B60-10B72 10B80-10B91",
    "10C00-10C48 10CC0-10CF2 10E80-10EA9 10EB0-10EB1 10F00-10F1C 10F27 10F70-10F81 10FB0-10FC4",
    "10FE0-10FF6 1E800-1E8C4 1E922-1E943 1E94B 1E950-1E959"
  ]

/-- The Arabic letters and what is written like them. -/
def arabicPoints : CodePointRanges :=
  .ofRows [
    "620-63F 641-64A 66E-66F 671-674 679-6D3 6D5 6E5-6E6 6EE-6EF 6FA-6FF 710 712-72F 74D-7A5 7B1",
    "860-86A 870-887 889-88E 8A0-8C9 FE73 10D00-10D23 10F30-10F45"
  ]

/-- The digits of the Arabic script. -/
def arabicDigits : CodePointRanges :=
  .ofRows [
    "660-669 10D30-10D39"
  ]

/-- The other digits. -/
def digits : CodePointRanges :=
  .ofRows ["30-39 6F0-6F9"]

/-- The signs without a strong direction: the hyphen, the joiners and the like. -/
def neutralPoints : CodePointRanges :=
  .ofRows ["2D 200C-200D B7 2B9-2BA 2C6-2CF 2EC 375 2E2F 30FB A67F A717-A71F A788"]

/-- The direction of a code point. -/
def ofPoint (point : CodePoint) : Direction :=
  if rightToLeftPoints.contains point then rightToLeft
  else if arabicPoints.contains point then arabic
  else if arabicDigits.contains point then arabicDigit
  else if digits.contains point then digit
  else if neutralPoints.contains point then neutral
  else if point.isNonspacingMark then mark
  else leftToRight

/-- Whether a direction makes a text one from right to left. -/
def isRightToLeft : Direction → Bool
  | rightToLeft | arabic | arabicDigit => true
  | _ => false

/-- Whether a text from right to left may begin with a direction. -/
def mayBegin : Direction → Bool
  | rightToLeft | arabic => true
  | _ => false

/-- Whether a text from right to left may end with a direction, marks left out. -/
def mayEnd : Direction → Bool
  | rightToLeft | arabic | arabicDigit | digit => true
  | _ => false

/-- Whether directions go together: without one from right to left, always; otherwise the first
and the last one are as they have to be, none is from left to right, and the digits are of one
kind. -/
def goTogether (directions : List Direction) : Bool :=
  !directions.any isRightToLeft ||
    (directions.head?.map mayBegin).getD false
      && ((directions.reverse.find? (· != mark)).map mayEnd).getD false
      && !directions.contains leftToRight
      && !(directions.contains arabicDigit && directions.contains digit)

@[simp] theorem goTogether_nil : goTogether [] = true := rfl

end Direction
end RunLog
