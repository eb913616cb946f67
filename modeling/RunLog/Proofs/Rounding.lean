import Mathlib.Algebra.Order.Ring.Rat
import Mathlib.Tactic.FieldSimp
import Mathlib.Tactic.Linarith
import Mathlib.Tactic.Positivity
import Mathlib.Tactic.Ring
import RunLog.Number.Binary64

/-!
# Rounding

What a quotient is rounded to is the whole number nearest to it, the even one if two are equally
near, and there is no other such number.  The double nearest to a quotient has a number of places
after the binary point that depends on the size of the quotient alone; its numerator is the whole
number nearest to the quotient in units of the last place.
-/

namespace RunLog

/-- A whole number is nearest to a number, and even if another one is as near. -/
def IsNearest (number : ℚ) (whole : Nat) : Prop :=
  |(whole : ℚ) - number| ≤ 1 / 2 ∧ (|(whole : ℚ) - number| = 1 / 2 → Even whole)

namespace IsNearest

variable {number : ℚ} {whole other : Nat}

theorem of_lt (close : |(whole : ℚ) - number| < 1 / 2) : IsNearest number whole :=
  ⟨close.le, fun tie => absurd tie close.ne⟩

theorem natCast (whole : Nat) : IsNearest (whole : ℚ) whole := by
  apply of_lt
  simp

/-- Of two whole numbers the lesser one is not nearest, if the greater one is. -/
theorem not_lt (isNearest : IsNearest number whole) (otherNearest : IsNearest number other) :
    ¬whole < other := by
  intro less
  have gap : (whole : ℚ) + 1 ≤ other := by exact_mod_cast less
  have above := (abs_le.mp isNearest.1).1
  have below := (abs_le.mp otherNearest.1).2
  -- Both are half a unit away, so both are even, and no two even numbers are neighbours.
  have whole_eq : (whole : ℚ) - number = -(1 / 2) := by linarith
  have other_eq : (other : ℚ) - number = 1 / 2 := by linarith
  have wholeEven : Even whole := isNearest.2 (by rw [whole_eq]; norm_num)
  have otherEven : Even other := otherNearest.2 (by rw [other_eq]; norm_num)
  have neighbours : (other : ℚ) = (whole + 1 : Nat) := by push_cast; linarith
  rw [Nat.cast_inj.mp neighbours] at otherEven
  exact Nat.not_even_iff_odd.mpr wholeEven.add_one otherEven

theorem unique (isNearest : IsNearest number whole) (otherNearest : IsNearest number other) :
    whole = other :=
  Nat.le_antisymm (Nat.not_lt.mp (otherNearest.not_lt isNearest))
    (Nat.not_lt.mp (isNearest.not_lt otherNearest))

/-- What is nearest to a number is nearest to any number that is as close to it. -/
theorem of_closer {closer : ℚ} (isNearest : IsNearest number whole)
    (close : |(whole : ℚ) - closer| ≤ |(whole : ℚ) - number|) : IsNearest closer whole :=
  ⟨close.trans isNearest.1, fun tie =>
    isNearest.2 (le_antisymm isNearest.1 (tie.symm.trans_le close))⟩

/-- An even whole number can be added to both sides. -/
theorem even_add (isNearest : IsNearest number whole) {more : Nat} (even : Even more) :
    IsNearest (more + number) (more + whole) := by
  have same : ((more + whole : Nat) : ℚ) - (more + number) = whole - number := by
    push_cast
    ring
  rw [IsNearest, same]
  exact ⟨isNearest.1, fun tie => even.add (isNearest.2 tie)⟩

/-- What is nearest to a number is not beyond a whole number that the number is not beyond. -/
theorem le_of_le (isNearest : IsNearest number whole) (bounded : number ≤ other) :
    whole ≤ other := by
  by_contra beyond
  have gap : (other : ℚ) + 1 ≤ whole := by exact_mod_cast Nat.not_le.mp beyond
  have below := (abs_le.mp isNearest.1).2
  linarith

/-- No whole number is nearer. -/
theorem abs_le_abs (isNearest : IsNearest number whole) (other : Nat) :
    |(whole : ℚ) - number| ≤ |(other : ℚ) - number| := by
  rcases Nat.lt_trichotomy whole other with less | rfl | greater
  · have gap : (whole : ℚ) + 1 ≤ other := by exact_mod_cast less
    have above := (abs_le.mp isNearest.1).1
    exact isNearest.1.trans (le_abs.mpr (.inl (by linarith)))
  · exact le_rfl
  · have gap : (other : ℚ) + 1 ≤ whole := by exact_mod_cast greater
    have below := (abs_le.mp isNearest.1).2
    exact isNearest.1.trans (le_abs.mpr (.inr (by linarith)))

end IsNearest

/-! ## Quotients -/

section Quotients

variable {numerator denominator whole : Nat} {fraction : ℚ}

theorem isNearest_add_of_lt (fromZero : 0 ≤ fraction) (less : fraction < 1 / 2) :
    IsNearest (whole + fraction) whole := by
  apply IsNearest.of_lt
  rw [abs_lt]
  constructor <;> linarith

theorem isNearest_add_of_gt (greater : 1 / 2 < fraction) (below : fraction < 1) :
    IsNearest (whole + fraction) (whole + 1) := by
  apply IsNearest.of_lt
  rw [abs_lt]
  push_cast
  constructor <;> linarith

theorem isNearest_add_half (whole : Nat) :
    IsNearest (whole + 1 / 2) (whole + whole % 2) := by
  rcases Nat.even_or_odd whole with even | odd
  · rw [Nat.even_iff.mp even]
    exact ⟨by norm_num, fun _ => even⟩
  · rw [Nat.odd_iff.mp odd]
    exact ⟨by norm_num, fun _ => odd.add_one⟩

/-- A quotient is its whole part and the rest. -/
theorem div_eq_whole_add_rest (positive : 0 < denominator) :
    (numerator / denominator : ℚ)
      = (numerator / denominator : Nat) + (numerator % denominator : Nat) / denominator := by
  have positive' : (0 : ℚ) < denominator := by exact_mod_cast positive
  rw [div_eq_iff positive'.ne', add_mul, div_mul_cancel₀ _ positive'.ne']
  exact_mod_cast (Nat.div_add_mod' numerator denominator).symm

theorem isNearest_roundDiv (numerator : Nat) (positive : 0 < denominator) :
    IsNearest (numerator / denominator) (roundDiv numerator denominator) := by
  have positive' : (0 : ℚ) < denominator := by exact_mod_cast positive
  have below : ((numerator % denominator : Nat) / denominator : ℚ) < 1 := by
    rw [div_lt_one positive']
    exact_mod_cast Nat.mod_lt numerator positive
  have twice : ((2 * (numerator % denominator) : Nat) : ℚ)
      = 2 * ((numerator % denominator : Nat) / denominator) * denominator := by
    rw [mul_assoc, div_mul_cancel₀ _ positive'.ne']
    push_cast
    rfl
  rw [div_eq_whole_add_rest positive]
  simp only [roundDiv]
  rcases Nat.lt_trichotomy (2 * (numerator % denominator)) denominator with less | tie | greater
  · rw [if_pos less]
    apply isNearest_add_of_lt (by positivity)
    have less' := (Nat.cast_lt (α := ℚ)).mpr less
    rw [twice, mul_lt_iff_lt_one_left positive'] at less'
    linarith
  · rw [if_neg (Nat.lt_irrefl _ <| tie ▸ ·), if_neg (Nat.lt_irrefl _ <| tie ▸ ·)]
    have tie' := congrArg (Nat.cast (R := ℚ)) tie
    rw [twice, mul_eq_right₀ positive'.ne'] at tie'
    rw [show ((numerator % denominator : Nat) / denominator : ℚ) = 1 / 2 by linarith]
    exact isNearest_add_half _
  · rw [if_neg (Nat.lt_asymm greater), if_pos greater]
    apply isNearest_add_of_gt _ below
    have greater' := (Nat.cast_lt (α := ℚ)).mpr greater
    rw [twice, lt_mul_iff_one_lt_left positive'] at greater'
    linarith

end Quotients

/-! ## Doubles -/

namespace Binary

variable {numerator denominator power : Nat}

/-- What a number with a point is worth. -/
def value (number : Binary) : ℚ :=
  number.numerator / number.denominator

theorem denominator_pos (number : Binary) : 0 < number.denominator := by
  simp [Binary.denominator, scaledDenominator]

/-- A number is its whole part and what it exceeds it by. -/
theorem value_eq (number : Binary) :
    number.value = number.whole + number.remainder / number.denominator :=
  div_eq_whole_add_rest number.denominator_pos

/-- How many places after the binary point the double nearest to a quotient has. -/
def places (numerator denominator : Nat) : Nat :=
  (-unitExponent numerator denominator).toNat

/-- At a power that is no fraction, the numerator stays as it is. -/
theorem scaled_natCast (numerator denominator power : Nat) :
    scaledNumerator numerator (power : Int) = numerator
      ∧ scaledDenominator denominator (power : Int) = 2 ^ power * denominator := by
  constructor
  · simp [scaledNumerator]
  · simp [scaledDenominator, Nat.mul_comm]

/-- The logarithm of a quotient is at least a power that the quotient is at least. -/
theorem le_floorLog (positive : 0 < denominator) (atLeast : 2 ^ power * denominator ≤ numerator) :
    (power : Int) ≤ floorLog numerator denominator := by
  have below : 2 ^ (power + denominator.log2) < 2 ^ (numerator.log2 + 1) :=
    calc 2 ^ (power + denominator.log2)
        = 2 ^ power * 2 ^ denominator.log2 := Nat.pow_add ..
      _ ≤ 2 ^ power * denominator :=
          Nat.mul_le_mul_left _ (Nat.log2_self_le (Nat.ne_of_gt positive))
      _ ≤ numerator := atLeast
      _ < 2 ^ (numerator.log2 + 1) := Nat.lt_log2_self
  rw [Nat.pow_lt_pow_iff_right (by decide)] at below
  simp only [floorLog]
  split
  · omega
  · rename_i tooLarge
    -- The estimate is too large here, so it is not the power.
    have differs : (numerator.log2 : Int) - denominator.log2 ≠ power := by
      intro estimate
      obtain ⟨numerator_eq, denominator_eq⟩ := scaled_natCast numerator denominator power
      rw [estimate, numerator_eq, denominator_eq] at tooLarge
      exact tooLarge atLeast
    omega

/-- It is below a power that the quotient is below. -/
theorem floorLog_lt (numeratorPositive : 0 < numerator)
    (below : numerator < 2 ^ power * denominator) :
    floorLog numerator denominator < power := by
  have estimated : 2 ^ numerator.log2 < 2 ^ (power + (denominator.log2 + 1)) :=
    calc 2 ^ numerator.log2
        ≤ numerator := Nat.log2_self_le (Nat.ne_of_gt numeratorPositive)
      _ < 2 ^ power * denominator := below
      _ ≤ 2 ^ power * 2 ^ (denominator.log2 + 1) :=
          Nat.mul_le_mul_left _ (Nat.le_of_lt Nat.lt_log2_self)
      _ = 2 ^ (power + (denominator.log2 + 1)) := (Nat.pow_add ..).symm
  rw [Nat.pow_lt_pow_iff_right (by decide)] at estimated
  simp only [floorLog]
  split
  · rename_i fits
    have differs : (numerator.log2 : Int) - denominator.log2 ≠ power := by
      intro estimate
      obtain ⟨numerator_eq, denominator_eq⟩ := scaled_natCast numerator denominator power
      rw [estimate, numerator_eq, denominator_eq] at fits
      exact Nat.not_le.mpr below fits
    omega
  · omega

/-- A quotient below a power of two leaves the rest of the 53 bits for the places. -/
theorem le_places (below : numerator < 2 ^ power * denominator) (room : power ≤ 53) :
    53 - power ≤ places numerator denominator := by
  simp only [places, unitExponent, leastExponent]
  split
  · omega
  · rename_i nonzero
    have := floorLog_lt (Nat.pos_of_ne_zero nonzero) below
    omega

/-- A quotient that is at least one has as many places as its whole part leaves. -/
theorem places_eq (positive : 0 < denominator) (atLeast : denominator ≤ numerator)
    (below : numerator / denominator < 2 ^ 53) :
    places numerator denominator = 52 - (numerator / denominator).log2 := by
  have wholePositive : numerator / denominator ≠ 0 :=
    Nat.ne_of_gt (Nat.div_pos atLeast positive)
  have small : (numerator / denominator).log2 < 53 := (Nat.log2_lt wholePositive).mpr below
  have fromBelow : ((numerator / denominator).log2 : Int) ≤ floorLog numerator denominator := by
    apply le_floorLog positive
    calc 2 ^ (numerator / denominator).log2 * denominator
        ≤ numerator / denominator * denominator :=
          Nat.mul_le_mul_right _ (Nat.log2_self_le wholePositive)
      _ ≤ numerator := Nat.div_mul_le_self ..
  have fromAbove : floorLog numerator denominator < ((numerator / denominator).log2 + 1 : Nat) := by
    apply floorLog_lt (Nat.lt_of_lt_of_le positive atLeast)
    rw [← Nat.div_lt_iff_lt_mul positive]
    exact Nat.lt_log2_self
  have nonzero : numerator ≠ 0 := Nat.ne_of_gt (Nat.lt_of_lt_of_le positive atLeast)
  simp only [places, unitExponent, leastExponent, if_neg nonzero]
  omega

section Nearest

variable (below : numerator < 2 ^ 53 * denominator)
include below

theorem unitExponent_eq :
    unitExponent numerator denominator = -(places numerator denominator : Int) := by
  simp only [places, unitExponent, leastExponent]
  split
  · omega
  · rename_i nonzero
    have := floorLog_lt (Nat.pos_of_ne_zero nonzero) below
    omega

theorem denominator_nearest :
    (nearest numerator denominator).denominator = 2 ^ places numerator denominator := by
  simp [nearest, Binary.denominator, scaledDenominator, unitExponent_eq below]

theorem numerator_nearest :
    (nearest numerator denominator).numerator
      = roundDiv (numerator * 2 ^ places numerator denominator) denominator := by
  simp [nearest, Binary.numerator, scaledNumerator, scaledDenominator, unitExponent_eq below]

/-- The numerator is nearest to the quotient in units of the last place. -/
theorem isNearest_numerator_nearest (positive : 0 < denominator) :
    IsNearest (numerator / denominator * 2 ^ places numerator denominator)
      (nearest numerator denominator).numerator := by
  have isNearest := isNearest_roundDiv (numerator * 2 ^ places numerator denominator) positive
  rw [numerator_nearest below]
  push_cast at isNearest
  rwa [mul_div_right_comm] at isNearest

/-- The double is off by half a unit of the last place at most, and so by half a unit of any place
before it. -/
theorem abs_value_nearest_sub_le (positive : 0 < denominator)
    (placed : power ≤ places numerator denominator) :
    |(nearest numerator denominator).value - numerator / denominator| ≤ 1 / 2 / 2 ^ power := by
  have unit : (0 : ℚ) < 2 ^ places numerator denominator := by positivity
  have close := (isNearest_numerator_nearest below positive).1
  calc |(nearest numerator denominator).value - numerator / denominator|
      ≤ 1 / 2 / 2 ^ places numerator denominator := by
        rw [le_div_iff₀ unit, ← abs_of_pos unit, ← abs_mul, sub_mul, value,
          denominator_nearest below]
        push_cast
        rwa [div_mul_cancel₀ _ unit.ne']
    _ ≤ 1 / 2 / 2 ^ power := by
        gcongr
        norm_num

end Nearest

/-- A fraction that has no more places than the double nearest to it is this double. -/
theorem value_nearest_two_pow (below : numerator < 2 ^ 53 * 2 ^ power)
    (fits : power ≤ places numerator (2 ^ power)) :
    (nearest numerator (2 ^ power)).value = numerator / 2 ^ power := by
  obtain ⟨more, places_eq⟩ := Nat.exists_eq_add_of_le fits
  have isNearest := isNearest_numerator_nearest below (Nat.two_pow_pos power)
  have whole : (numerator / (2 ^ power : Nat) * 2 ^ places numerator (2 ^ power) : ℚ)
      = (numerator * 2 ^ more : Nat) := by
    rw [places_eq, pow_add]
    push_cast
    field_simp
  rw [whole] at isNearest
  rw [value, denominator_nearest below, isNearest.unique (.natCast _), places_eq, pow_add]
  push_cast
  field_simp

end Binary
end RunLog
