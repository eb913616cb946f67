import RunLog.Number.Binary64
import RunLog.Text.Blank
import RunLog.Text.DecimalDigit
import RunLog.Text.Quoted

/-!
# Numerals

Whole numbers and decimals that come as text may stand between white space, carry a sign, use the
decimal digits of any script and separate digits by single underscores.  A whole number has at most
4300 digits.  A decimal may have a point and an exponent, or be one of the names of infinity and of
what is no number.
-/

namespace RunLog

/-- Why a text is no whole number. -/
inductive NumeralFault
  /-- The text does not have the form of a numeral. -/
  | malformed (text : Text)
  /-- The numeral has more digits than are read. -/
  | tooLong (digits : Nat)
  deriving DecidableEq, Repr

namespace Numeral

/-- How many digits of a whole number are read. -/
def digitLimit : Nat := 4300

/-- Whether a code point can stand in a run of digits. -/
def isDigitOrUnderscore (point : CodePoint) : Bool :=
  (Text.digitValue? point).isSome || point.is '_'

/-- Whether the underscores of a run of digits all stand between two digits. -/
def wellSeparated : Bool → Text → Bool
  | afterDigit, [] => afterDigit
  | afterDigit, point :: rest =>
    if point.is '_' then afterDigit && wellSeparated false rest else wellSeparated true rest

/-- The digits of a run, underscores dropped. -/
def digitValues (run : Text) : List Nat :=
  run.filterMap Text.digitValue?

/-- The number written by decimal digits. -/
def ofDigits (digits : List Nat) : Nat :=
  digits.foldl (fun number digit => number * 10 + digit) 0

/-- Whether a text starts with a minus sign, and what follows its sign. -/
def sign : Text → Bool × Text
  | [] => (false, [])
  | point :: rest =>
    if point.is '-' then (true, rest)
    else if point.is '+' then (false, rest)
    else (false, point :: rest)

/-- The integer with a sign and a magnitude. -/
def signed (negative : Bool) (magnitude : Nat) : Int :=
  if negative then -(magnitude : Int) else magnitude

/-- The whole number written by a text. -/
def int? (text : Text) : Except NumeralFault Int :=
  let (negative, body) := sign (text.trimStart CodePoint.isNumeralBlank)
  let (run, rest) := body.span isDigitOrUnderscore
  if wellSeparated false run then
    let digits := digitValues run
    if digitLimit < digits.length then .error (.tooLong digits.length)
    else if rest.all CodePoint.isNumeralBlank then .ok (signed negative (ofDigits digits))
    else .error (.malformed text)
  else .error (.malformed text)

/-- A run of digits at the start of a text, with underscores only between digits, and the rest. An
empty run is allowed. -/
def digitRun? (text : Text) : Option (List Nat × Text) :=
  let (run, rest) := text.span isDigitOrUnderscore
  if run.isEmpty || wellSeparated false run then some (digitValues run, rest) else none

/-- The exponent at the end of a decimal: nothing at all, or a mark, a sign and digits. -/
def exponent? : Text → Option Int
  | [] => some 0
  | point :: rest =>
    if point.is 'e' || point.is 'E' then
      let (negative, body) := sign rest
      match digitRun? body with
      | some (digit :: digits, []) => some (signed negative (ofDigits (digit :: digits)))
      | _ => none
    else none

/-- The decimal written by a text without sign and white space. -/
def decimal? (negative : Bool) (text : Text) : Option Float := do
  let (whole, rest) ← digitRun? text
  let (fraction, rest) ←
    match rest with
    | [] => some ([], [])
    | point :: after => if point.is '.' then digitRun? after else some ([], point :: after)
  let exponent ← exponent? rest
  if whole.isEmpty && fraction.isEmpty then none
  else some (floatOfDecimal negative (ofDigits (whole ++ fraction)) (exponent - fraction.length))

/-- The decimal written by a text. -/
def float? (text : Text) : Option Float :=
  let (negative, body) := sign (text.trim CodePoint.isNumeralBlank)
  let name := body.lowerAscii
  let infinity : Float := if negative then -1 / 0 else 1 / 0
  if name == Text.ofString "inf" || name == Text.ofString "infinity" then some infinity
  else if name == Text.ofString "nan" then some (0 / 0)
  else decimal? negative body

end Numeral

/-- The text of a numeral's fault. -/
def NumeralFault.message : NumeralFault → Text
  | .malformed text =>
    "invalid literal for int() with base 10: " ++ text.quoted.take 200
  | .tooLong digits =>
    "Exceeds the limit (4300 digits) for integer string conversion: value has "
      ++ Text.ofNat digits
      ++ " digits; use sys.set_int_max_str_digits() to increase the limit"

end RunLog
