/-!
# The calendar

Dates of the Gregorian calendar, extended to all years, are counted in days from the first of
January 1970.  A year is taken to begin in March, so that the leap day is its last day; then the
day of the year depends on the month alone, and the days before a year on the year alone.
-/

namespace RunLog
namespace Calendar

/-- The days in 400 years. -/
def daysPerCycle : Int := 146097

/-- The days from the first of March of year zero to the first of January 1970. -/
def epochOffset : Int := 719468

/-- The day number of a date. -/
def dayNumber (year month day : Int) : Int :=
  let shifted := if month ≤ 2 then year - 1 else year
  let cycle := shifted.fdiv 400
  let yearOfCycle := shifted - cycle * 400
  let monthIndex := (month + 9).fmod 12
  let dayOfYear := (153 * monthIndex + 2).fdiv 5 + day - 1
  let dayOfCycle := yearOfCycle * 365 + yearOfCycle.fdiv 4 - yearOfCycle.fdiv 100 + dayOfYear
  cycle * daysPerCycle + dayOfCycle - epochOffset

/-- A date: year, month and day. -/
structure Date where
  year : Int
  month : Int
  day : Int
  deriving DecidableEq, Repr

/-- The date with a given day number. -/
def date (number : Int) : Date :=
  let shifted := number + epochOffset
  let cycle := shifted.fdiv daysPerCycle
  let dayOfCycle := shifted - cycle * daysPerCycle
  let yearOfCycle :=
    (dayOfCycle - dayOfCycle.fdiv 1460 + dayOfCycle.fdiv 36524 - dayOfCycle.fdiv 146096).fdiv 365
  let dayOfYear :=
    dayOfCycle - (365 * yearOfCycle + yearOfCycle.fdiv 4 - yearOfCycle.fdiv 100)
  let monthIndex := (5 * dayOfYear + 2).fdiv 153
  let month := if monthIndex < 10 then monthIndex + 3 else monthIndex - 9
  { year := yearOfCycle + cycle * 400 + if month ≤ 2 then 1 else 0
    month
    day := dayOfYear - (153 * monthIndex + 2).fdiv 5 + 1 }

end Calendar
end RunLog
