import RunLog.Number.Binary64
import RunLog.Text.Basic

/-!
# The shortest decimal of a double

A double is written with the fewest digits that read back as the same double; of several such
decimals the nearest is taken.  All doubles between the midpoints to the two neighbours read back,
the midpoints included exactly when the significand is even.  The search tries one digit, two
digits and so on, up to the seventeen that always suffice, on exact natural numbers.

The result is written positionally when its decimal point falls between the fourth place after the
point and the sixteenth digit, and with an exponent of at least two digits otherwise.
-/

namespace RunLog
namespace Shortest

/-- A positive decimal `digits * 10 ^ exponent`. -/
structure Decimal where
  /-- The digits as a number. -/
  digits : Nat
  /-- The power of ten. -/
  exponent : Int
  deriving DecidableEq, Repr

/-- The numbers that read back as a given double, over a common denominator. -/
structure Interval where
  /-- The lower end. -/
  low : Nat
  /-- The number itself. -/
  centre : Nat
  /-- The upper end. -/
  high : Nat
  /-- The common denominator. -/
  denominator : Nat
  /-- Whether the ends belong to the interval. -/
  closed : Bool
  deriving Repr

/-- The numbers that read back as a positive double. -/
def interval (number : Binary) : Interval :=
  let narrow := number.significand = Nat.pow 2 52 ∧ Binary.leastExponent < number.exponent
  let unit := Nat.pow 2 number.exponent.toNat
  let below := if narrow then 1 else 2
  { low := (4 * number.significand - below) * unit
    centre := 4 * number.significand * unit
    high := (4 * number.significand + 2) * unit
    denominator := 4 * Nat.pow 2 (-number.exponent).toNat
    closed := number.significand % 2 = 0 }

/-- Whether a fraction lies in an interval. -/
def Interval.contains (range : Interval) (numerator denominator : Nat) : Bool :=
  let point := numerator * range.denominator
  if range.closed then
    decide (range.low * denominator ≤ point ∧ point ≤ range.high * denominator)
  else decide (range.low * denominator < point ∧ point < range.high * denominator)

/-- The decimal with a given power of ten that is nearest to the centre, if it reads back. -/
def Interval.onGrid? (range : Interval) (exponent : Int) : Option Decimal :=
  let up := Nat.pow 10 (-exponent).toNat
  let down := Nat.pow 10 exponent.toNat
  let digits := roundDiv (range.centre * up) (range.denominator * down)
  if range.contains (digits * down) up then some ⟨digits, exponent⟩
  else if range.contains ((digits + 1) * down) up then some ⟨digits + 1, exponent⟩
  else if range.contains ((digits - 1) * down) up then some ⟨digits - 1, exponent⟩
  else none

/-- How many digits the whole part of a number has; for a number below one, one less than the zeros
that follow the point, negated. -/
def magnitude (numerator denominator : Nat) : Int :=
  let whole := numerator / denominator
  if whole = 0 then
    let inverse := (denominator + numerator - 1) / numerator
    1 - ((Nat.toDigits 10 (inverse - 1)).length : Int)
  else (Nat.toDigits 10 whole).length

/-- The first grid, from coarse to fine, that holds a decimal reading back. -/
def search (range : Interval) (top : Int) : Nat → Nat → Decimal
  | 0, _ => ⟨0, 0⟩
  | fuel + 1, count =>
    match range.onGrid? (top - count) with
    | some decimal => decimal
    | none => search range top fuel (count + 1)

/-- A decimal without zeros at its end. -/
def Decimal.stripped (decimal : Decimal) : Nat → Decimal
  | 0 => decimal
  | fuel + 1 =>
    if decimal.digits ≠ 0 ∧ decimal.digits % 10 = 0 then
      Decimal.stripped ⟨decimal.digits / 10, decimal.exponent + 1⟩ fuel
    else decimal

/-- The shortest decimal of a positive finite double. -/
def decimal (number : Binary) : Decimal :=
  let range := interval number
  (search range (magnitude range.centre range.denominator) 19 0).stripped 20

end Shortest

namespace Text

/-- The text of a decimal: positional while the point stays near the digits, else with an
exponent. -/
def ofDecimal (decimal : Shortest.Decimal) : Text :=
  let digits := ofNat decimal.digits
  let point : Int := digits.length + decimal.exponent
  if point ≤ -4 ∨ 16 < point then
    let power := point - 1
    let tail : Text := if digits.length ≤ 1 then [] else "." ++ digits.drop 1
    let sign : Text := if power < 0 then "-" else "+"
    digits.take 1 ++ tail ++ "e" ++ sign ++ padded 2 power.natAbs
  else if point ≤ 0 then
    "0." ++ List.replicate (-point).toNat (CodePoint.ofChar '0') ++ digits
  else if decimal.exponent < 0 then
    digits.take point.toNat ++ "." ++ digits.drop point.toNat
  else digits ++ List.replicate decimal.exponent.toNat (CodePoint.ofChar '0') ++ ".0"

/-- The text of a finite or infinite double, with the given names of what is no number. -/
def ofFloat (notNumber infinity : Text) (float : Float) : Text :=
  if float.isNaN then notNumber
  else
    let magnitude : Text :=
      if float.isInf then infinity
      else if float == 0 then "0.0"
      else ofDecimal (Shortest.decimal (Binary.ofFloat float))
    if signOf float then "-" ++ magnitude else magnitude

end Text
end RunLog
