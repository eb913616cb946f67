import RunLog.Number.Binary64
import RunLog.Text.Basic
import RunLog.Time.Calendar

/-!
# Moments

A moment is what a clock shows, to the microsecond, and how far that clock is ahead of universal
time.  A clock without a known offset is taken to show universal time.  Clocks show the years 1 to
9999 only.

The backend counts nanoseconds since the epoch.  A count is turned into a moment by way of seconds:
the seconds are the double nearest to the count divided by a thousand million, and the microseconds
are the double nearest to the fraction of the seconds times a million, rounded, a half to the even
neighbour.
-/

namespace RunLog

/-- What a clock shows. -/
structure Moment where
  /-- The microseconds that the clock shows since its own first of January 1970. -/
  clock : Int
  /-- The microseconds that the clock is ahead of universal time, if that is known. -/
  offset : Option Int
  deriving DecidableEq, Repr

/-- Why a count of nanoseconds is no moment. -/
inductive TimeFault
  /-- The moment lies outside the years that clocks show. -/
  | yearOutOfRange
  /-- The count of seconds is not a 64-bit number. -/
  | tooLarge
  /-- The year is not a 32-bit number. -/
  | yearTooLarge
  deriving DecidableEq, Repr

namespace Moment

/-- The microseconds in a second. -/
def microsPerSecond : Int := 1000000

/-- The nanoseconds in a microsecond. -/
def nanosPerMicro : Int := 1000

/-- The microseconds in a day. -/
def microsPerDay : Int := 86400 * microsPerSecond

/-- The first reading of a clock, at the start of the year 1. -/
def firstClock : Int := Calendar.dayNumber 1 1 1 * microsPerDay

/-- The first reading past those of a clock, at the start of the year 10000. -/
def endClock : Int := Calendar.dayNumber 10000 1 1 * microsPerDay

/-- Whether a clock can show a reading. -/
def inRange (clock : Int) : Bool :=
  decide (firstClock ≤ clock ∧ clock < endClock)

/-- The same moment on a clock that shows universal time, if such a clock can show it. -/
def toUtc? (moment : Moment) : Option Moment :=
  match moment.offset with
  | none => some ⟨moment.clock, some 0⟩
  | some offset =>
    let clock := moment.clock - offset
    if inRange clock then some ⟨clock, some 0⟩ else none

/-- The nanoseconds from the epoch to a moment. -/
def toNanos? (moment : Moment) : Option Int :=
  moment.toUtc?.map fun utc => utc.clock * nanosPerMicro

/-- The magnitude of the microseconds that a magnitude of nanoseconds is taken for. -/
def roundedMicros (nanos : Nat) : Nat :=
  let seconds := Binary.nearest nanos 1000000000
  let micros := Binary.nearest (seconds.remainder * 1000000) seconds.denominator
  seconds.whole * 1000000 + roundDiv micros.numerator micros.denominator

/-- The microseconds that a count of nanoseconds is taken for. -/
def microsOfNanos (nanos : Int) : Int :=
  if nanos < 0 then -(roundedMicros nanos.natAbs : Int) else roundedMicros nanos.natAbs

/-- The moment at a count of nanoseconds from the epoch, in universal time. -/
def ofNanos (nanos : Int) : Except TimeFault Moment :=
  let clock := microsOfNanos nanos
  let seconds := clock.fdiv microsPerSecond
  if seconds < -0x8000000000000000 ∨ 0x8000000000000000 ≤ seconds then .error .tooLarge
  else
    let year := (Calendar.date (seconds.fdiv 86400)).year - 1900
    if year < -0x80000000 ∨ 0x80000000 ≤ year then .error .yearTooLarge
    else if inRange clock then .ok ⟨clock, some 0⟩
    else .error .yearOutOfRange

/-- What a clock shows, in parts. -/
structure Parts where
  date : Calendar.Date
  hour : Int
  minute : Int
  second : Int
  microsecond : Int
  deriving DecidableEq, Repr

/-- The parts of a moment. -/
def parts (moment : Moment) : Parts :=
  let day := moment.clock.fdiv microsPerDay
  let micros := moment.clock - day * microsPerDay
  let seconds := micros.fdiv microsPerSecond
  { date := Calendar.date day
    hour := seconds.fdiv 3600
    minute := (seconds.fdiv 60).fmod 60
    second := seconds.fmod 60
    microsecond := micros.fmod microsPerSecond }

/-- The moment with given parts. -/
def ofParts (parts : Parts) (offset : Option Int) : Moment :=
  let { year, month, day } := parts.date
  let seconds := parts.hour * 3600 + parts.minute * 60 + parts.second
  ⟨Calendar.dayNumber year month day * microsPerDay + seconds * microsPerSecond
    + parts.microsecond, offset⟩

/-- The text of a time of day or of an offset in microseconds: hours and minutes, seconds where they
are wanted, and a fraction of a second if there is one. -/
def clockText (withSeconds : Bool) (micros : Nat) : Text :=
  let seconds := micros / 1000000
  let fraction : Text :=
    if micros % 1000000 = 0 then [] else "." ++ Text.padded 6 (micros % 1000000)
  Text.padded 2 (seconds / 3600) ++ ":" ++ Text.padded 2 (seconds / 60 % 60)
    ++ (if withSeconds then ":" ++ Text.padded 2 (seconds % 60) else []) ++ fraction

/-- The text of an offset from universal time.  Seconds are shown where there are any. -/
def offsetText (offset : Int) : Text :=
  let sign : Text := if offset < 0 then "-" else "+"
  sign ++ clockText (offset.natAbs % 60000000 != 0) offset.natAbs

/-- The text of a moment, with a given text between date and time. -/
def text (separator : Text) (moment : Moment) : Text :=
  let { date, hour, minute, second, microsecond } := moment.parts
  let micros := (hour * 3600 + minute * 60 + second) * microsPerSecond + microsecond
  let offset : Text :=
    match moment.offset with
    | none => []
    | some offset => offsetText offset
  Text.padded 4 date.year.toNat ++ "-" ++ Text.padded 2 date.month.toNat ++ "-"
    ++ Text.padded 2 date.day.toNat ++ separator
    ++ clockText true micros.toNat ++ offset

/-- The magnitude of a count of microseconds in seconds: the double nearest to it. -/
def nearestSeconds (micros : Int) : Binary :=
  Binary.nearest micros.natAbs 1000000

/-- The magnitude of a count of microseconds in seconds, put together from the whole seconds below
the count and the double nearest to what it exceeds them by. -/
def composedSeconds (micros : Int) : Binary :=
  let fraction := nearestSeconds (micros.fmod microsPerSecond)
  let sum := micros.fdiv microsPerSecond * fraction.denominator + fraction.numerator
  Binary.nearest sum.natAbs fraction.denominator

/-- The milliseconds from the epoch to a moment, cut toward zero: the double nearest to a thousand
times the seconds, which are a double too.  For a clock without a known offset the seconds are put
together from two parts, and it does not answer on its first day. -/
def toMillis? (moment : Moment) : Option Int :=
  let elapsed := moment.clock - moment.offset.getD 0
  if moment.offset.isNone && decide (moment.clock < firstClock + microsPerDay) then none
  else
    let seconds := if moment.offset.isNone then composedSeconds elapsed else nearestSeconds elapsed
    let millis := Binary.nearest (seconds.numerator * 1000) seconds.denominator
    some (if elapsed < 0 then -(millis.whole : Int) else millis.whole)

end Moment
end RunLog
