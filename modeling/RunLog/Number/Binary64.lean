/-!
# Correctly rounded binary numbers

Times and waits are doubles.  Whatever is read from text or divided is computed exactly on natural
numbers and rounded once: `Binary.nearest` gives the double closest to a quotient, as a significand
and a power of two, a tie going to the even significand.  The significand has 53 bits, fewer only
below the smallest normal double.
-/

namespace RunLog

/-- A quotient rounded to the nearest natural number, a tie to the even one. -/
def roundDiv (numerator denominator : Nat) : Nat :=
  let quotient := numerator / denominator
  let twice := 2 * (numerator % denominator)
  if twice < denominator then quotient
  else if denominator < twice then quotient + 1
  else quotient + quotient % 2

/-- The number `significand * 2 ^ exponent`. -/
structure Binary where
  /-- The factor that holds the digits. -/
  significand : Nat
  /-- The power of two. -/
  exponent : Int
  deriving DecidableEq, Repr

namespace Binary

/-- The least exponent of a double. -/
def leastExponent : Int := -1074

/-- The numerator of a fraction after division by a power of two. -/
def scaledNumerator (numerator : Nat) (exponent : Int) : Nat :=
  numerator * Nat.pow 2 (-exponent).toNat

/-- The denominator of a fraction after division by a power of two. -/
def scaledDenominator (denominator : Nat) (exponent : Int) : Nat :=
  denominator * Nat.pow 2 exponent.toNat

/-- The exponent of the largest power of two that is at most a quotient. -/
def floorLog (numerator denominator : Nat) : Int :=
  let estimate : Int := (numerator.log2 : Int) - denominator.log2
  if scaledDenominator denominator estimate ≤ scaledNumerator numerator estimate then estimate
  else estimate - 1

/-- The exponent of the last bit of the double nearest to a quotient. -/
def unitExponent (numerator denominator : Nat) : Int :=
  if numerator = 0 then leastExponent
  else max (floorLog numerator denominator - 52) leastExponent

/-- The double nearest to a quotient, before the range is looked at. -/
def nearest (numerator denominator : Nat) : Binary :=
  let exponent := unitExponent numerator denominator
  ⟨roundDiv (scaledNumerator numerator exponent) (scaledDenominator denominator exponent),
    exponent⟩

/-- The numerator of a number as a fraction. -/
def numerator (number : Binary) : Nat :=
  scaledNumerator number.significand (-number.exponent)

/-- The denominator of a number as a fraction, a power of two. -/
def denominator (number : Binary) : Nat :=
  scaledDenominator 1 (-number.exponent)

/-- The whole part of a number. -/
def whole (number : Binary) : Nat :=
  number.numerator / number.denominator

/-- What a number exceeds its whole part by, in units of its denominator. -/
def remainder (number : Binary) : Nat :=
  number.numerator % number.denominator

/-- Whether a number is beyond every finite double. -/
def overflows (number : Binary) : Bool :=
  decide (Nat.pow 2 1024 ≤ number.whole)

/-- The bits of a nonnegative double; infinity for a number out of range. -/
def bits (number : Binary) : Nat :=
  if number.overflows then 0x7FF0000000000000
  else number.significand + (number.exponent - leastExponent).toNat * Nat.pow 2 52

/-- The sign bit of a double. -/
def signBit : Nat := 0x8000000000000000

/-- A number with a sign, as a double. -/
def toFloat (negative : Bool) (number : Binary) : Float :=
  Float.ofBits (UInt64.ofNat (number.bits + if negative then signBit else 0))

/-- The number a finite double stands for, without its sign. -/
def ofFloat (float : Float) : Binary :=
  let bits := float.toBits.toNat
  let field := bits / Nat.pow 2 52 % Nat.pow 2 11
  let fraction := bits % Nat.pow 2 52
  if field = 0 then ⟨fraction, leastExponent⟩
  else ⟨fraction + Nat.pow 2 52, leastExponent + (field - 1 : Nat)⟩

end Binary

/-- Whether a double has its sign bit set. -/
def signOf (float : Float) : Bool :=
  decide (Binary.signBit ≤ float.toBits.toNat)

/-- How many of the smallest positive doubles a finite double is. -/
def unitsOfFloat (float : Float) : Int :=
  let number := Binary.ofFloat float
  let magnitude := number.significand * Nat.pow 2 (number.exponent - Binary.leastExponent).toNat
  if signOf float then -(magnitude : Int) else magnitude

/-- How many of the smallest positive doubles an integer is. -/
def unitsOfInt (number : Int) : Int :=
  number * Nat.pow 2 (-Binary.leastExponent).toNat

/-- The double nearest to an integer. -/
def floatOfInt (number : Int) : Float :=
  (Binary.nearest number.natAbs 1).toFloat (decide (number < 0))

/-- The least double that is at least an integer: a double is at least the integer just when it is
at least this one. -/
def floatCeiling (number : Int) : Float :=
  let float := floatOfInt number
  if float.isInf then if number < 0 then Float.ofBits 0xFFEFFFFFFFFFFFFF else float
  else if unitsOfFloat float < unitsOfInt number then
    Float.ofBits (if number < 0 then float.toBits - 1 else float.toBits + 1)
  else float

/-- The largest power of ten that is looked at when a decimal is read; beyond it every decimal is
infinite, and below its inverse every decimal is zero. -/
def decimalRange : Int := 400

/-- The double nearest to a decimal, given by its digits and a power of ten. -/
def floatOfDecimal (negative : Bool) (digits : Nat) (exponent : Int) : Float :=
  let size : Int := (Nat.toDigits 10 digits).length
  if digits = 0 then Float.ofBits (UInt64.ofNat (if negative then Binary.signBit else 0))
  else if decimalRange < size + exponent then (Binary.nearest (Nat.pow 2 1024) 1).toFloat negative
  else if size + exponent < -decimalRange then
    Float.ofBits (UInt64.ofNat (if negative then Binary.signBit else 0))
  else
    (Binary.nearest (digits * Nat.pow 10 exponent.toNat)
      (Nat.pow 10 (-exponent).toNat)).toFloat negative

/-- The integer a finite double is cut to, toward zero. -/
def truncateFloat (float : Float) : Int :=
  let magnitude : Int := (Binary.ofFloat float).whole
  if signOf float then -(magnitude : Int) else magnitude

end RunLog
