import RunLog.Proofs.Rounding
import RunLog.Time.Moment

/-!
# How precise a moment is

The nanoseconds of a moment are exact, but on the way back they pass through seconds, which are a
double.  Doubles lie less than a microsecond apart up to 2 ^ 33 seconds from the epoch, and a moment
within this range, the years from 1698 to 2241 and some more days, comes back as it was.  Farther
away doubles are two to thirty microseconds apart; a moment comes back if it is the microsecond
nearest to some double, else another one that is at most fifteen microseconds away comes back.  In
the last fifteen microseconds of the year 9999 that would be the year 10000, which is refused.
-/

namespace RunLog

open Binary

namespace Moment

/-- How many doubles there are to a second, so many microseconds away from the epoch; for less than
a second, how many there are at least. -/
def doublesPerSecond (micros : Nat) : Nat :=
  2 ^ (52 - (micros / 1000000).log2)

/-- There is a double, in seconds, to which a count of microseconds is nearest. -/
def IsSeen (micros : Nat) : Prop :=
  ∃ count : Nat, IsNearest (count / doublesPerSecond micros * 1000000) micros

/-- The seconds that a magnitude of microseconds is taken for. -/
def secondsOf (micros : Nat) : Binary :=
  nearest (micros * 1000) 1000000000

/-- How many places after the binary point these seconds have. -/
def secondPlaces (micros : Nat) : Nat :=
  places (micros * 1000) 1000000000

/-- What the seconds exceed a whole number by, in microseconds: the double nearest to it. -/
def fractionOf (seconds : Binary) : Binary :=
  nearest (seconds.remainder * 1000000) seconds.denominator

variable {micros limit power : Nat}

/-! ## The fraction of the seconds -/

/-- The microseconds are nearest to those in the whole seconds and in the fraction. -/
theorem isNearest_roundedMicros (micros : Nat) :
    IsNearest ((secondsOf micros).whole * 1000000 + (fractionOf (secondsOf micros)).value)
      (roundedMicros (micros * 1000)) := by
  have even : Even ((secondsOf micros).whole * 1000000) := by
    rw [Nat.even_mul]
    exact .inr (by decide)
  have isNearest := (isNearest_roundDiv (fractionOf (secondsOf micros)).numerator
    (fractionOf (secondsOf micros)).denominator_pos).even_add even
  push_cast at isNearest
  exact isNearest

/-- There are less than 2 ^ 20 microseconds in it. -/
theorem fraction_lt (seconds : Binary) :
    seconds.remainder * 1000000 < 2 ^ 20 * seconds.denominator := by
  have := Nat.mod_lt seconds.numerator seconds.denominator_pos
  rw [remainder]
  omega

theorem le_fractionPlaces (seconds : Binary) :
    33 ≤ places (seconds.remainder * 1000000) seconds.denominator :=
  le_places (fraction_lt seconds) (by decide)

/-- The fraction is off by a part of a microsecond that does not matter. -/
theorem abs_fraction_sub_le (seconds : Binary) :
    |(fractionOf seconds).value - seconds.remainder / seconds.denominator * 1000000|
      ≤ 1 / 2 / 2 ^ 33 := by
  have small := fraction_lt seconds
  have close := abs_value_nearest_sub_le (by omega) seconds.denominator_pos
    (le_fractionPlaces seconds)
  push_cast at close
  rwa [mul_div_right_comm] at close

/-- If the seconds have few places, the fraction is exact. -/
theorem value_fraction_of_few {seconds : Binary}
    (denominator_eq : seconds.denominator = 2 ^ power) (few : power ≤ 33) :
    (fractionOf seconds).value = seconds.remainder / seconds.denominator * 1000000 := by
  have small := fraction_lt seconds
  have manyPlaces := le_fractionPlaces seconds
  rw [fractionOf, denominator_eq] at *
  rw [value_nearest_two_pow (by omega) (few.trans manyPlaces)]
  push_cast
  ring

/-! ## The seconds -/

/-- A thousand times the microseconds are as many nanoseconds. -/
theorem seconds_eq (micros : Nat) :
    ((micros * 1000 : Nat) / (1000000000 : Nat) : ℚ) = micros / 1000000 := by
  push_cast
  ring

section Below

variable (below : micros < 2 ^ 53 * 1000000)
include below

theorem denominator_secondsOf : (secondsOf micros).denominator = 2 ^ secondPlaces micros :=
  denominator_nearest (by omega)

/-- The seconds are counted in units of the last place. -/
theorem isNearest_numerator_secondsOf :
    IsNearest (micros / 1000000 * 2 ^ secondPlaces micros) (secondsOf micros).numerator := by
  rw [← seconds_eq]
  exact isNearest_numerator_nearest (by omega) (by decide)

/-- The seconds are off by half a unit of any of their places at most. -/
theorem abs_value_secondsOf_sub_le (placed : power ≤ secondPlaces micros) :
    |(secondsOf micros).value - micros / 1000000| ≤ 1 / 2 / 2 ^ power := by
  rw [← seconds_eq]
  exact abs_value_nearest_sub_le (by omega) (by decide) placed

/-- If the seconds have few places, the microseconds are nearest to the seconds. -/
theorem isNearest_roundedMicros_of_few (few : secondPlaces micros ≤ 33) :
    IsNearest ((secondsOf micros).value * 1000000) (roundedMicros (micros * 1000)) := by
  have isNearest := isNearest_roundedMicros micros
  rwa [value_fraction_of_few (denominator_secondsOf below) few, ← add_mul, ← value_eq] at isNearest

theorem secondPlaces_eq (atLeast : 1000000 ≤ micros) :
    secondPlaces micros = 52 - (micros / 1000000).log2 := by
  have whole : micros * 1000 / 1000000000 = micros / 1000000 := by omega
  rw [secondPlaces, places_eq (by decide) (by omega) (by omega), whole]

theorem secondPlaces_le (far : 2 ^ power * 1000000 ≤ micros) :
    secondPlaces micros ≤ 52 - power := by
  have large : 2 ^ power ≤ micros / 1000000 := (Nat.le_div_iff_mul_le (by decide)).mpr far
  have positive := Nat.two_pow_pos power
  have := (Nat.le_log2 (by omega)).mpr large
  rw [secondPlaces_eq below (by omega)]
  omega

end Below

/-- Less than a power of two of seconds leave the other bits for the places. -/
theorem le_secondPlaces (below : micros < 2 ^ power * 1000000) (room : power ≤ 53) :
    53 - power ≤ secondPlaces micros := by
  apply le_places _ room
  omega

/-! ## Near the epoch -/

/-- Up to 2 ^ 33 seconds from the epoch every microsecond comes back. -/
theorem roundedMicros_of_near (near : micros < 2 ^ 33 * 1000000) :
    roundedMicros (micros * 1000) = micros := by
  have closeSeconds : |(secondsOf micros).value - micros / 1000000| ≤ 1 / 2 / 2 ^ 20 :=
    abs_value_secondsOf_sub_le (by omega) (le_secondPlaces near (by decide))
  have closeFraction := abs_fraction_sub_le (secondsOf micros)
  apply (isNearest_roundedMicros micros).unique
  apply IsNearest.of_lt
  -- Half a unit of 2 ^ -20 seconds is less than half a microsecond, with room for the fraction.
  rw [value_eq] at closeSeconds
  rw [abs_le] at closeSeconds closeFraction
  rw [abs_lt]
  norm_num at closeSeconds closeFraction
  constructor <;> linarith

/-- How far a count of parts of a second is from some microseconds, in units of a part and in
microseconds. -/
theorem abs_sub_parts (micros count : Nat) {parts : ℚ} (positive : 0 < parts) :
    |(micros : ℚ) - count / parts * 1000000|
      = |(count : ℚ) - micros / 1000000 * parts| * (1000000 / parts) := by
  rw [← abs_of_pos (show 0 < 1000000 / parts by positivity), ← abs_mul, abs_sub_comm]
  congr 1
  field_simp

theorem log2_lt_of_lt {number power : Nat} (below : number < 2 ^ power) (positive : 0 < power) :
    number.log2 < power := by
  rcases Nat.eq_zero_or_pos number with rfl | numberPositive
  · simpa using positive
  · exact (Nat.log2_lt (Nat.ne_of_gt numberPositive)).mpr below

/-- There some double lies near enough to every microsecond. -/
theorem isSeen_of_near (near : micros < 2 ^ 33 * 1000000) : IsSeen micros := by
  have small : (micros / 1000000).log2 < 33 := log2_lt_of_lt (by omega) (by decide)
  have dense : (2 ^ 20 : ℚ) ≤ doublesPerSecond micros := by
    rw [doublesPerSecond]
    push_cast
    exact pow_le_pow_right₀ (by norm_num) (by omega)
  have positive : (0 : ℚ) < doublesPerSecond micros := by linarith
  have close := (isNearest_roundDiv (micros * doublesPerSecond micros)
    (show 0 < 1000000 by decide)).1
  push_cast at close
  rw [mul_div_right_comm] at close
  refine ⟨roundDiv (micros * doublesPerSecond micros) 1000000, IsNearest.of_lt ?_⟩
  rw [abs_sub_parts _ _ positive]
  calc _ ≤ 1 / 2 * (1000000 / 2 ^ 20 : ℚ) := by gcongr
    _ < 1 / 2 := by norm_num

/-! ## Far from the epoch -/

theorem doublesPerSecond_eq (atLeast : 1000000 ≤ micros) (below : micros < 2 ^ 53 * 1000000) :
    doublesPerSecond micros = 2 ^ secondPlaces micros := by
  rw [doublesPerSecond, secondPlaces_eq below atLeast]

/-- Far from the epoch those microseconds come back that some double is nearest to. -/
theorem roundedMicros_eq_iff_of_far (far : 2 ^ 33 * 1000000 ≤ micros)
    (below : micros < 2 ^ 53 * 1000000) :
    roundedMicros (micros * 1000) = micros ↔ IsSeen micros := by
  have few := secondPlaces_le below far
  have isNearest := isNearest_roundedMicros_of_few below (few.trans (by decide))
  have positive : (0 : ℚ) < doublesPerSecond micros := by
    rw [doublesPerSecond]
    positivity
  have inParts : (secondsOf micros).value
      = (secondsOf micros).numerator / doublesPerSecond micros := by
    rw [value, denominator_secondsOf below, doublesPerSecond_eq (by omega) below]
  rw [inParts] at isNearest
  constructor
  · intro comesBack
    rw [comesBack] at isNearest
    exact ⟨_, isNearest⟩
  · rintro ⟨count, seen⟩
    apply isNearest.unique
    apply seen.of_closer
    rw [abs_sub_parts _ _ positive, abs_sub_parts _ _ positive]
    have nearer := (isNearest_numerator_secondsOf below).abs_le_abs count
    rw [doublesPerSecond_eq (by omega) below]
    push_cast
    gcongr

/-- A microsecond comes back if some double is nearest to it, and only then. -/
theorem roundedMicros_eq_iff (below : micros < 2 ^ 53 * 1000000) :
    roundedMicros (micros * 1000) = micros ↔ IsSeen micros := by
  by_cases near : micros < 2 ^ 33 * 1000000
  · exact iff_of_true (roundedMicros_of_near near) (isSeen_of_near near)
  · exact roundedMicros_eq_iff_of_far (Nat.not_lt.mp near) below

/-- Up to 2 ^ 38 seconds from the epoch, what comes back is fifteen microseconds away at most. -/
theorem roundedMicros_close (below : micros < 2 ^ 38 * 1000000) :
    roundedMicros (micros * 1000) ≤ micros + 15 ∧ micros ≤ roundedMicros (micros * 1000) + 15 := by
  by_cases near : micros < 2 ^ 33 * 1000000
  · rw [roundedMicros_of_near near]
    omega
  · have few := secondPlaces_le (by omega) (Nat.not_lt.mp near)
    have isNearest := isNearest_roundedMicros_of_few (by omega) (few.trans (by decide))
    have closeSeconds : |(secondsOf micros).value - micros / 1000000| ≤ 1 / 2 / 2 ^ 15 :=
      abs_value_secondsOf_sub_le (by omega) (le_secondPlaces below (by decide))
    have closeMicros := abs_le.mp isNearest.1
    rw [abs_le] at closeSeconds
    norm_num at closeSeconds closeMicros
    constructor
    · have : (roundedMicros (micros * 1000) : ℚ) < micros + 16 := by linarith
      exact Nat.lt_succ_iff.mp (by exact_mod_cast this)
    · have : (micros : ℚ) < roundedMicros (micros * 1000) + 16 := by linarith
      exact Nat.lt_succ_iff.mp (by exact_mod_cast this)

/-- What comes back is not beyond a whole second that the microseconds are not beyond. -/
theorem roundedMicros_le (below : micros < 2 ^ 53 * 1000000) (bounded : micros ≤ limit * 1000000) :
    roundedMicros (micros * 1000) ≤ limit * 1000000 := by
  by_cases near : micros < 2 ^ 33 * 1000000
  · rwa [roundedMicros_of_near near]
  · have few := secondPlaces_le below (Nat.not_lt.mp near)
    have isNearest := isNearest_roundedMicros_of_few below (few.trans (by decide))
    have unit : (0 : ℚ) < 2 ^ secondPlaces micros := by positivity
    have bounded' : (micros / 1000000 : ℚ) ≤ limit := by
      rw [div_le_iff₀ (by norm_num)]
      exact_mod_cast bounded
    have numeratorBounded : (secondsOf micros).numerator ≤ limit * 2 ^ secondPlaces micros := by
      apply (isNearest_numerator_secondsOf below).le_of_le
      push_cast
      gcongr
    have valueBounded : (secondsOf micros).value ≤ limit := by
      rw [value, denominator_secondsOf below]
      push_cast
      rw [div_le_iff₀ unit]
      exact_mod_cast numeratorBounded
    apply isNearest.le_of_le
    push_cast
    gcongr

/-- Beyond 2 ^ 37 seconds the fifteen microseconds before a second are taken for the second. -/
theorem roundedMicros_of_almost (far : 2 ^ 37 * 1000000 ≤ micros)
    (below : micros < 2 ^ 38 * 1000000) (bounded : micros ≤ limit * 1000000)
    (almost : limit * 1000000 ≤ micros + 15) :
    roundedMicros (micros * 1000) = limit * 1000000 := by
  have fifteen : secondPlaces micros = 15 :=
    Nat.le_antisymm (secondPlaces_le (by omega) far) (le_secondPlaces below (by decide))
  have bounded' : (micros : ℚ) ≤ limit * 1000000 := by exact_mod_cast bounded
  have almost' : (limit * 1000000 : ℚ) ≤ micros + 15 := by exact_mod_cast almost
  have isNearest := isNearest_roundedMicros_of_few (by omega) (fifteen.trans_le (by decide))
  have numerator_eq : (secondsOf micros).numerator = limit * 2 ^ secondPlaces micros := by
    apply (isNearest_numerator_secondsOf (by omega)).unique
    apply IsNearest.of_lt
    rw [fifteen, abs_lt]
    push_cast
    constructor <;> linarith
  have inSeconds : (secondsOf micros).value = limit := by
    rw [value, denominator_secondsOf (by omega), numerator_eq]
    push_cast
    field_simp
  rw [inSeconds] at isNearest
  apply isNearest.unique
  have whole := IsNearest.natCast (limit * 1000000)
  push_cast at whole
  exact whole

/-! ## There and back -/

theorem firstClock_eq : firstClock = -62135596800 * 1000000 := by decide

theorem endClock_eq : endClock = 253402300800 * 1000000 := by decide

theorem inRange_iff {clock : Int} : inRange clock = true ↔
    -62135596800 * 1000000 ≤ clock ∧ clock < 253402300800 * 1000000 := by
  rw [inRange, decide_eq_true_eq, firstClock_eq, endClock_eq]

/-- The year of a day is far from any bound for ten thousand years. -/
theorem year_date {day : Int} (afterFirst : -800000 ≤ day) (beforeEnd : day ≤ 3000000) :
    -10000 ≤ (Calendar.date day).year ∧ (Calendar.date day).year ≤ 20000 := by
  simp only [Calendar.date, Calendar.daysPerCycle, Calendar.epochOffset]
  simp only [Int.fdiv_eq_ediv_of_nonneg _ (show (0 : Int) ≤ 146097 by decide),
    Int.fdiv_eq_ediv_of_nonneg _ (show (0 : Int) ≤ 1460 by decide),
    Int.fdiv_eq_ediv_of_nonneg _ (show (0 : Int) ≤ 36524 by decide),
    Int.fdiv_eq_ediv_of_nonneg _ (show (0 : Int) ≤ 146096 by decide),
    Int.fdiv_eq_ediv_of_nonneg _ (show (0 : Int) ≤ 365 by decide)]
  constructor <;> split <;> omega

/-- What a count of nanoseconds is taken for is shown, unless it is the first moment that clocks do
not show any more. -/
theorem ofNanos_eq {nanos clock : Int} (isClock : microsOfNanos nanos = clock)
    (fromFirst : firstClock ≤ clock) (toEnd : clock ≤ endClock) :
    ofNanos nanos
      = if clock = endClock then .error .yearOutOfRange else .ok ⟨clock, some 0⟩ := by
  have seconds_eq : clock.fdiv microsPerSecond = clock / 1000000 :=
    Int.fdiv_eq_ediv_of_nonneg _ (by decide)
  have day_eq : (clock / 1000000).fdiv 86400 = clock / 1000000 / 86400 :=
    Int.fdiv_eq_ediv_of_nonneg _ (by decide)
  rw [firstClock_eq] at fromFirst
  rw [endClock_eq] at toEnd
  obtain ⟨afterYear, beforeYear⟩ :=
    year_date (show -800000 ≤ clock / 1000000 / 86400 by omega) (by omega)
  simp only [ofNanos, isClock, seconds_eq, day_eq]
  rw [if_neg (by omega), if_neg (by omega)]
  by_cases atEnd : clock = endClock
  · have notShown : ¬inRange clock = true := by
      rw [atEnd]
      decide
    rw [if_pos atEnd, if_neg notShown]
  · have shown : inRange clock = true := by
      rw [endClock_eq] at atEnd
      rw [inRange_iff]
      omega
    rw [if_neg atEnd, if_pos shown]

theorem microsOfNanos_eq (clock : Int) :
    microsOfNanos (clock * 1000)
      = if clock < 0 then -(roundedMicros (clock.natAbs * 1000) : Int)
        else roundedMicros (clock.natAbs * 1000) := by
  have negative_iff : clock * 1000 < 0 ↔ clock < 0 := by omega
  simp only [microsOfNanos, Int.natAbs_mul, negative_iff]
  rfl

/-- What the nanoseconds of a reading are taken for: a reading fifteen microseconds away at most,
or the first one that clocks do not show any more. -/
theorem microsOfNanos_close {clock : Int} (shown : inRange clock = true) :
    firstClock ≤ microsOfNanos (clock * 1000) ∧ microsOfNanos (clock * 1000) ≤ endClock
      ∧ (microsOfNanos (clock * 1000) - clock).natAbs ≤ 15 := by
  rw [inRange_iff] at shown
  rw [firstClock_eq, endClock_eq, microsOfNanos_eq]
  have below : clock.natAbs < 2 ^ 38 * 1000000 := by omega
  obtain ⟨fromAbove, fromBelow⟩ := roundedMicros_close below
  split
  · have := roundedMicros_le (by omega) (show clock.natAbs ≤ 62135596800 * 1000000 by omega)
    omega
  · have := roundedMicros_le (by omega) (show clock.natAbs ≤ 253402300800 * 1000000 by omega)
    omega

/-- A reading comes back if some double is nearest to it, and only then. -/
theorem microsOfNanos_eq_iff {clock : Int} (shown : inRange clock = true) :
    microsOfNanos (clock * 1000) = clock ↔ IsSeen clock.natAbs := by
  rw [inRange_iff] at shown
  rw [← roundedMicros_eq_iff (show clock.natAbs < 2 ^ 53 * 1000000 by omega), microsOfNanos_eq]
  split <;> omega

/-- The end of the year 9999 comes back from the last fifteen microseconds of it. -/
theorem microsOfNanos_eq_endClock_iff {clock : Int} (shown : inRange clock = true) :
    microsOfNanos (clock * 1000) = endClock ↔ endClock ≤ clock + 15 := by
  obtain ⟨-, -, close⟩ := microsOfNanos_close shown
  rw [inRange_iff] at shown
  constructor
  · omega
  · rw [endClock_eq]
    intro almost
    have comesBack : roundedMicros (clock.natAbs * 1000) = 253402300800 * 1000000 :=
      roundedMicros_of_almost (by omega) (by omega) (by omega) (by omega)
    rw [microsOfNanos_eq, if_neg (by omega), comesBack]
    rfl

/-- A clock that shows universal time lags behind by what the other one is ahead; a clock without a
known offset is not ahead. -/
theorem eq_of_toUtc? {moment utc : Moment} (isUtc : moment.toUtc? = some utc) :
    utc = ⟨moment.clock - moment.offset.getD 0, some 0⟩ := by
  obtain ⟨clock, offset⟩ := moment
  cases offset with
  | none => simpa [toUtc?, eq_comm] using isUtc
  | some offset =>
    obtain ⟨-, found⟩ := Option.ite_none_right_eq_some.mp isUtc
    exact (Option.some.inj found).symm

/-- The nanoseconds of a moment are taken for the moment itself if some double is nearest to its
reading in universal time, as one is to all readings within 2 ^ 33 seconds of the epoch.  They are
refused in the last fifteen microseconds of the year 9999, and at no other time.  Otherwise they are
taken for a moment that is fifteen microseconds away at most. -/
theorem comes_back_iff {moment utc : Moment} (isUtc : moment.toUtc? = some utc)
    (shown : inRange utc.clock = true) :
    utc = ⟨moment.clock - moment.offset.getD 0, some 0⟩
      ∧ ∃ nanos, moment.toNanos? = some nanos
        ∧ (ofNanos nanos = .ok utc ↔ IsSeen utc.clock.natAbs)
        ∧ (utc.clock.natAbs < 2 ^ 33 * 1000000 → ofNanos nanos = .ok utc)
        ∧ (∀ fault, ofNanos nanos = .error fault ↔
          fault = .yearOutOfRange ∧ endClock ≤ utc.clock + 15)
        ∧ ∀ back, ofNanos nanos = .ok back →
          back.offset = some 0 ∧ (back.clock - utc.clock).natAbs ≤ 15 := by
  have utc_eq := eq_of_toUtc? isUtc
  refine ⟨utc_eq, utc.clock * 1000, by rw [toNanos?, isUtc]; rfl, ?_⟩
  obtain ⟨fromFirst, toEnd, close⟩ := microsOfNanos_close shown
  have returned := microsOfNanos_eq_iff shown
  have refused := microsOfNanos_eq_endClock_iff shown
  have near : utc.clock.natAbs < 2 ^ 33 * 1000000 → IsSeen utc.clock.natAbs := isSeen_of_near
  rw [ofNanos_eq rfl fromFirst toEnd]
  by_cases atEnd : microsOfNanos (utc.clock * 1000) = endClock
  · have notReturned : ¬IsSeen utc.clock.natAbs := by
      rw [← returned, atEnd]
      exact (Int.ne_of_lt (of_decide_eq_true shown).2).symm
    rw [if_pos atEnd]
    refine ⟨by simpa using notReturned, fun isNear => absurd (near isNear) notReturned, ?_, ?_⟩
    · intro fault
      simp [refused.mp atEnd, eq_comm]
    · intro back isBack
      cases isBack
  · have same_iff : (Except.ok ⟨microsOfNanos (utc.clock * 1000), some 0⟩ : Except TimeFault Moment)
        = .ok utc ↔ microsOfNanos (utc.clock * 1000) = utc.clock := by
      rw [utc_eq]
      simp
    rw [if_neg atEnd, same_iff, returned]
    refine ⟨Iff.rfl, near, ?_, ?_⟩
    · intro fault
      simp [← refused, atEnd]
    · intro back isBack
      cases isBack
      exact ⟨rfl, close⟩

/-- Two microseconds after 2 ^ 33 seconds a double is near enough, on a clock an hour ahead. -/
theorem secondMicrosecond_comes_back :
    let moment := ofParts ⟨⟨2242, 3, 16⟩, 13, 56, 32, 2⟩ (some 3600000000)
    let utc := ofParts ⟨⟨2242, 3, 16⟩, 12, 56, 32, 2⟩ (some 0)
    moment.toUtc? = some utc ∧ inRange utc.clock = true
      ∧ ∃ nanos, moment.toNanos? = some nanos ∧ ofNanos nanos = .ok utc := by
  intro moment utc
  have isUtc : moment.toUtc? = some utc := by decide
  have shown : inRange utc.clock = true := by decide
  obtain ⟨-, nanos, isNanos, returned, -⟩ := comes_back_iff isUtc shown
  have micros_eq : utc.clock.natAbs = 8589934592000002 := by decide
  have dense : doublesPerSecond 8589934592000002 = 2 ^ 19 := by decide
  refine ⟨isUtc, shown, nanos, isNanos, returned.mpr ⟨2 ^ 52 + 1, ?_⟩⟩
  rw [micros_eq, dense]
  apply IsNearest.of_lt
  rw [abs_lt]
  norm_num

/-- One microsecond after 2 ^ 33 seconds no double is near enough, and the last microsecond before
the year 10000 is refused. -/
theorem firstMicrosecond_does_not_come_back :
    let moment := ofParts ⟨⟨2242, 3, 16⟩, 12, 56, 32, 1⟩ (some 0)
    let last := ofParts ⟨⟨9999, 12, 31⟩, 23, 59, 59, 999999⟩ (some 0)
    (moment.toUtc? = some moment ∧ inRange moment.clock = true
      ∧ moment.toNanos? = some 8589934592000001000
      ∧ ofNanos 8589934592000001000 = .ok (ofParts ⟨⟨2242, 3, 16⟩, 12, 56, 32, 2⟩ (some 0)))
    ∧ last.toUtc? = some last ∧ inRange last.clock = true
      ∧ last.toNanos? = some 253402300799999999000
      ∧ ofNanos 253402300799999999000 = .error .yearOutOfRange := by
  decide +kernel

end Moment
end RunLog
