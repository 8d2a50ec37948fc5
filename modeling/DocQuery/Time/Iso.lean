import DocQuery.Text.Digits
import DocQuery.Time.Instant

/-!
# Texts of Instants

Both texts are ISO 8601 in UTC.  `Instant.isoText` always has three fraction digits and drops what
lies below a millisecond; `Instant.exactText` has as many groups of three digits as lose nothing.
Years outside of 0 to 9999 carry a sign, and a leap second shows as `:60`.
-/

namespace DocQuery

open Text

/-- The text of a year: four digits, with a sign in front outside of 0 to 9999. -/
def Date.yearText (year : Int) : String :=
  let digits := padded 4 year.natAbs
  if 0 ≤ year ∧ year ≤ 9999 then digits
  else if year < 0 then "-" ++ digits
  else "+" ++ digits

/-- The text of a date. -/
def Date.text (d : Date) : String :=
  Date.yearText d.year ++ "-" ++ padded 2 d.month ++ "-" ++ padded 2 d.day

namespace Instant

/-- The text of an instant down to its second. -/
def secondText (t : Instant) : String :=
  t.date.text ++ "T" ++ padded 2 t.hour ++ ":" ++ padded 2 t.minute ++ ":" ++ padded 2 t.second

/-- The text of an instant with milliseconds, the lower digits cut off. -/
def isoText (t : Instant) : String :=
  t.secondText ++ "." ++ padded 3 (t.subsecond / 1000000) ++ "Z"

/-- The text of an instant with no, three, six or nine fraction digits, as few as lose nothing. -/
def exactText (t : Instant) : String :=
  let fraction :=
    if t.subsecond = 0 then ""
    else if t.subsecond % 1000000 = 0 then "." ++ padded 3 (t.subsecond / 1000000)
    else if t.subsecond % 1000 = 0 then "." ++ padded 6 (t.subsecond / 1000)
    else "." ++ padded 9 t.subsecond
  t.secondText ++ fraction ++ "Z"

end Instant

end DocQuery
