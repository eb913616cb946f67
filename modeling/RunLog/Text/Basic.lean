/-!
# Text as code points

The backend and its callers exchange text that may hold unpaired surrogates, which no sequence of
characters can express.  A text is therefore a list of code points, surrogates included, and the
places where such a text cannot be written as bytes are visible as failures rather than excluded by
the type.  Plain string literals coerce to texts.
-/

namespace RunLog

/-- A Unicode code point; surrogates are code points too. -/
abbrev CodePoint := Fin 0x110000

/-- A sequence of code points. -/
abbrev Text := List CodePoint

namespace CodePoint

/-- The code point of a character. -/
def ofChar (character : Char) : CodePoint :=
  ⟨character.val.toNat, by
    have valid := character.valid
    simp only [UInt32.isValidChar, Nat.isValidChar] at valid
    omega⟩

/-- The code point with a given number, or the replacement character when there is none. -/
def ofNat (number : Nat) : CodePoint :=
  if inRange : number < 0x110000 then ⟨number, inRange⟩ else 0xFFFD

/-- Whether a code point is half of a surrogate pair. -/
def isSurrogate (point : CodePoint) : Bool :=
  0xD800 ≤ point.val && point.val ≤ 0xDFFF

/-- Whether a code point is the given character. -/
def is (point : CodePoint) (character : Char) : Bool :=
  point.val == character.val.toNat

/-- Whether a code point is one of the characters of an ASCII string. -/
def isOneOf (point : CodePoint) (characters : String) : Bool :=
  characters.toList.any point.is

/-- Whether a code point is an ASCII digit. -/
def isAsciiDigit (point : CodePoint) : Bool :=
  0x30 ≤ point.val && point.val ≤ 0x39

/-- Whether a code point is an ASCII letter. -/
def isAsciiLetter (point : CodePoint) : Bool :=
  (0x41 ≤ point.val && point.val ≤ 0x5A) || (0x61 ≤ point.val && point.val ≤ 0x7A)

/-- The value of a hexadecimal ASCII digit. -/
def hexValue? (point : CodePoint) : Option Nat :=
  if 0x30 ≤ point.val && point.val ≤ 0x39 then some (point.val - 0x30)
  else if 0x41 ≤ point.val && point.val ≤ 0x46 then some (point.val - 0x41 + 10)
  else if 0x61 ≤ point.val && point.val ≤ 0x66 then some (point.val - 0x61 + 10)
  else none

/-- The lower-case form of an ASCII letter; every other code point is left alone. -/
def lowerAscii (point : CodePoint) : CodePoint :=
  if 0x41 ≤ point.val && point.val ≤ 0x5A then point + 0x20 else point

end CodePoint

namespace Text

/-- The code points of a string. -/
def ofString (string : String) : Text :=
  string.toList.map CodePoint.ofChar

instance : Coe String Text := ⟨ofString⟩

/-- The decimal text of a natural number. -/
def ofNat (number : Nat) : Text :=
  (Nat.toDigits 10 number).map CodePoint.ofChar

/-- The decimal text of an integer, of however many digits. -/
def ofInt : Int → Text
  | .ofNat number => ofNat number
  | .negSucc number => "-" ++ ofNat (number + 1)

/-- The decimal text of a natural number, filled up with zeros to a least width. -/
def padded (width number : Nat) : Text :=
  let digits := ofNat number
  List.replicate (width - digits.length) (CodePoint.ofChar '0') ++ digits

/-- Texts are ordered by code point, position by position. -/
def le : Text → Text → Bool
  | [], _ => true
  | _ :: _, [] => false
  | first :: rest, other :: others => decide (first < other) || first == other && le rest others

/-- Whether every code point of a text is ASCII. -/
def isAscii (text : Text) : Bool :=
  text.all fun point => point.val < 0x80

/-- A text with its ASCII letters in lower case. -/
def lowerAscii (text : Text) : Text :=
  text.map CodePoint.lowerAscii

/-- A text without the code points of a class at its start. -/
def trimStart (drop : CodePoint → Bool) (text : Text) : Text :=
  text.dropWhile drop

/-- A text without the code points of a class at its end. -/
def trimEnd (drop : CodePoint → Bool) (text : Text) : Text :=
  (text.reverse.dropWhile drop).reverse

/-- A text without the code points of a class at its ends. -/
def trim (drop : CodePoint → Bool) (text : Text) : Text :=
  trimEnd drop (trimStart drop text)

/-- What stands before and after the first occurrence of a character. -/
def splitFirst? (separator : Char) (text : Text) : Option (Text × Text) :=
  match text.span fun point => !point.is separator with
  | (before, _ :: after) => some (before, after)
  | (_, []) => none

/-- What stands before and after the last occurrence of a character. -/
def splitLast? (separator : Char) (text : Text) : Option (Text × Text) :=
  match splitFirst? separator text.reverse with
  | some (after, before) => some (before.reverse, after.reverse)
  | none => none

/-- The parts of a text between the occurrences of a character. -/
def splitAll (separator : Char) : Text → List Text
  | [] => [[]]
  | point :: rest =>
    match splitAll separator rest with
    | [] => [[point]]
    | first :: others =>
      if point.is separator then [] :: first :: others else (point :: first) :: others

/-- Texts joined by a separator. -/
def join (separator : Text) (parts : List Text) : Text :=
  List.intercalate separator parts

@[simp] theorem ofString_empty : ofString "" = [] := rfl

@[simp] theorem trimStart_nil (drop : CodePoint → Bool) : trimStart drop [] = [] := rfl

@[simp] theorem trimEnd_nil (drop : CodePoint → Bool) : trimEnd drop [] = [] := rfl

@[simp] theorem join_nil (separator : Text) : join separator [] = [] := rfl

end Text

end RunLog
