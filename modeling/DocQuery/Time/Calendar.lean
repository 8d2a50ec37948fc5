/-!
# Calendar Dates

Dates of the proleptic Gregorian calendar and the number of days from 1970-01-01 to them.  Years are
counted from March in both directions of the conversion, so that the leap day ends a year and four
hundred years are always 146097 days.
-/

namespace DocQuery

/-- A date of the Gregorian calendar; year 0 comes before year 1. -/
structure Date where
  year : Int
  month : Nat
  day : Nat
deriving DecidableEq, Repr

namespace Date

/-- Every fourth year is a leap year, except for the centuries that 400 does not divide. -/
def isLeapYear (year : Int) : Bool :=
  year % 4 = 0 && (year % 100 ≠ 0 || year % 400 = 0)

/-- The number of days of a month. -/
def daysInMonth (year : Int) (month : Nat) : Nat :=
  if month = 2 then (if isLeapYear year then 29 else 28)
  else if month = 4 ∨ month = 6 ∨ month = 9 ∨ month = 11 then 30
  else 31

/-- The least year that instants reach. -/
def leastYear : Int := -262143

/-- The greatest year that instants reach. -/
def greatestYear : Int := 262142

/-- Whether the date exists and instants reach its year. -/
def isValid (d : Date) : Bool :=
  leastYear ≤ d.year && d.year ≤ greatestYear && 1 ≤ d.month && d.month ≤ 12 &&
    1 ≤ d.day && d.day ≤ daysInMonth d.year d.month

/-- The number of days from 1970-01-01 to a date. -/
def toDays (d : Date) : Int :=
  let year := if d.month ≤ 2 then d.year - 1 else d.year
  let monthFromMarch : Int := if d.month ≤ 2 then d.month + 9 else d.month - 3
  let dayOfYear := (153 * monthFromMarch + 2) / 5 + (d.day - 1)
  let yearOfEra := year % 400
  let dayOfEra := yearOfEra * 365 + yearOfEra / 4 - yearOfEra / 100 + dayOfYear
  year / 400 * 146097 + dayOfEra - 719468

/-- The date that is a number of days after 1970-01-01. -/
def ofDays (days : Int) : Date :=
  let shifted := days + 719468
  let dayOfEra := shifted % 146097
  let yearOfEra := (dayOfEra - dayOfEra / 1460 + dayOfEra / 36524 - dayOfEra / 146096) / 365
  let dayOfYear := dayOfEra - (365 * yearOfEra + yearOfEra / 4 - yearOfEra / 100)
  let monthFromMarch := (5 * dayOfYear + 2) / 153
  let year := yearOfEra + shifted / 146097 * 400
  { year := if monthFromMarch < 10 then year else year + 1
    month := (if monthFromMarch < 10 then monthFromMarch + 3 else monthFromMarch - 9).toNat
    day := (dayOfYear - (153 * monthFromMarch + 2) / 5 + 1).toNat }

end Date

end DocQuery
