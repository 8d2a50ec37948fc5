import DocQuery.Proofs.Time.Calendar
import DocQuery.Time.Instant

/-!
# The Order of Dates and Clocks

Instants that are no leap seconds are ordered by what calendar and clock show of them, the greatest unit
first: year, month, day, hour, minute, second, millisecond.

Every unit has a number of the next smaller ones, and a number is ordered by the unit that it lies in
and by its place there, which is `compare_eq_then`.  For the days this is used twice: counted from March,
the days of a year stand in the order of its months, and the months of all years stand in one row, so that
they may as well be counted from January.
-/

namespace DocQuery

/-! ## Units and places -/

theorem compare_eq_of_sub_eq {a b r s : Int} (h : a - b = r - s) : compare a b = compare r s := by
  rcases Int.lt_trichotomy a b with hlt | heq | hgt
  · rw [Int.compare_eq_lt.2 hlt, Int.compare_eq_lt.2 (by omega)]
  · rw [Int.compare_eq_eq.2 heq, Int.compare_eq_eq.2 (by omega)]
  · rw [Int.compare_eq_gt.2 hgt, Int.compare_eq_gt.2 (by omega)]

/-- Numbers are ordered by the units that they lie in and, within one unit, by their places. -/
theorem compare_eq_then {a b p q r s : Int} (hlt : p < q → a < b) (hgt : q < p → b < a)
    (heq : p = q → a - b = r - s) : compare a b = (compare p q).then (compare r s) := by
  rcases Int.lt_trichotomy p q with h | h | h
  · rw [Int.compare_eq_lt.2 h, Int.compare_eq_lt.2 (hlt h), Ordering.lt_then]
  · rw [Int.compare_eq_eq.2 h, Ordering.eq_then, compare_eq_of_sub_eq (heq h)]
  · rw [Int.compare_eq_gt.2 h, Int.compare_eq_gt.2 (hgt h), Ordering.gt_then]

theorem compare_natCast (m n : Nat) : compare (m : Int) n = compare m n := by
  rcases Nat.lt_trichotomy m n with h | h | h
  · rw [Nat.compare_eq_lt.2 h, Int.compare_eq_lt.2 (Int.ofNat_lt.2 h)]
  · rw [Nat.compare_eq_eq.2 h, Int.compare_eq_eq.2 (congrArg _ h)]
  · rw [Nat.compare_eq_gt.2 h, Int.compare_eq_gt.2 (Int.ofNat_lt.2 h)]

/-! ## Dates -/

namespace Date

/-- The order of dates: by year, then by month, then by day. -/
def order (d e : Date) : Ordering :=
  (compare d.year e.year).then <| (compare d.month e.month).then (compare d.day e.day)

theorem daysBefore_mono {year later : Int} (h : year ≤ later) : daysBefore year ≤ daysBefore later := by
  have hcentury (y : Int) : y / 100 = y / 4 / 25 := by omega
  unfold daysBefore
  rw [hcentury, hcentury]
  omega

/-- A year of an era ends before every later one begins. -/
theorem daysBefore_add_yearLength_le {year later : Nat} (h : year < later) (hlater : later < 400) :
    daysBefore year + yearLength year ≤ daysBefore later := by
  rw [← daysBefore_succ year (by omega)]
  exact daysBefore_mono (Int.ofNat_le.2 h)

theorem daysBefore_add_yearLength_le_era {year : Nat} (h : year < 400) :
    daysBefore year + yearLength year ≤ 146097 := by
  by_cases hlast : year = 399
  · subst hlast
    decide
  · rw [← daysBefore_succ year (by omega)]
    exact Int.le_of_lt (daysBefore_lt (by omega))

theorem monthOfDay_mono {day later : Int} (h : day ≤ later) : monthOfDay day ≤ monthOfDay later :=
  Int.ediv_le_ediv (by decide) (by omega)

section
variable {era year month day era' year' month' day' : Int}

/-- The months of all years stand in one row. -/
theorem twelve_mul_year (hmonth : 0 ≤ month ∧ month < 12) :
    let d := ofParts era year month day
    12 * d.year + d.month = 12 * (year + era * 400) + month + 3 ∧ 1 ≤ d.month ∧ d.month ≤ 12 := by
  unfold ofParts monthNumber
  dsimp only
  split <;> omega

theorem order_ofParts (hyear : 0 ≤ year ∧ year < 400) (hyear' : 0 ≤ year' ∧ year' < 400)
    (hmonth : 0 ≤ month ∧ month < 12) (hmonth' : 0 ≤ month' ∧ month' < 12) (hday : 0 ≤ day)
    (hday' : 0 ≤ day') :
    (ofParts era year month day).order (ofParts era' year' month' day') =
      (compare era era').then
        ((compare year year').then ((compare month month').then (compare day day'))) := by
  let row := 12 * (year + era * 400) + month
  let row' := 12 * (year' + era' * 400) + month'
  let d := ofParts era year month day
  let d' := ofParts era' year' month' day'
  have hrow : 12 * d.year + d.month = row + 3 ∧ 1 ≤ d.month ∧ d.month ≤ 12 := twelve_mul_year hmonth
  have hrow' : 12 * d'.year + d'.month = row' + 3 ∧ 1 ≤ d'.month ∧ d'.month ≤ 12 :=
    twelve_mul_year hmonth'
  have hmarch : compare row row' =
      (compare era era').then ((compare year year').then (compare month month')) := by
    have hyears : compare (12 * year + month) (12 * year' + month') =
        (compare year year').then (compare month month') :=
      compare_eq_then (by omega) (by omega) (by omega)
    rw [← hyears]
    exact compare_eq_then (by omega) (by omega) (by omega)
  have hjanuary : compare row row' = (compare d.year d'.year).then (compare d.month d'.month) := by
    rw [← compare_natCast]
    exact compare_eq_then (by omega) (by omega) (by omega)
  have hdays : compare day day' = compare d.day d'.day := by
    have hcast (n : Int) (h : 0 ≤ n) : ((n + 1).toNat : Int) = n + 1 := Int.toNat_of_nonneg (by omega)
    rw [← compare_natCast]
    refine compare_eq_of_sub_eq ?_
    show _ = ((day + 1).toNat : Int) - (day' + 1).toNat
    rw [hcast _ hday, hcast _ hday']
    omega
  unfold order
  rw [← Ordering.then_assoc, ← hjanuary, hmarch, ← hdays, Ordering.then_assoc, Ordering.then_assoc]

end

/-- The dates of days are ordered as the days are. -/
theorem order_ofDays (days later : Int) :
    (ofDays days).order (ofDays later) = compare days later := by
  obtain ⟨era, year, day, hyear, hday, hdays, hdate⟩ := ofDays_eq_ofParts days
  obtain ⟨era', year', day', hyear', hday', hdays', hdate'⟩ := ofDays_eq_ofParts later
  have hera := daysBefore_add_yearLength_le_era hyear
  have hera' := daysBefore_add_yearLength_le_era hyear'
  have hbefore := daysBefore_nonneg (show (0 : Int) ≤ year by omega)
  have hbefore' := daysBefore_nonneg (show (0 : Int) ≤ year' by omega)
  have hlength := yearLength_le year
  have hlength' := yearLength_le year'
  obtain ⟨hmonth, hmonthLt, hfirst, -⟩ := monthOfDay_spec day (by omega)
  obtain ⟨hmonth', hmonthLt', hfirst', -⟩ := monthOfDay_spec day' (by omega)
  have heras : compare days later = (compare era era').then
      (compare (daysBefore year + day) (daysBefore year' + day')) :=
    compare_eq_then (by omega) (by omega) (by omega)
  have hyears : compare (daysBefore year + day) (daysBefore year' + day') =
      (compare (year : Int) year').then (compare (day : Int) day') := by
    refine compare_eq_then (fun h ↦ ?_) (fun h ↦ ?_) (fun h ↦ ?_)
    · have hle := daysBefore_add_yearLength_le (Int.ofNat_lt.1 h) hyear'
      omega
    · have hle := daysBefore_add_yearLength_le (Int.ofNat_lt.1 h) hyear
      omega
    · rw [h]
      omega
  have hmonths : compare (day : Int) day' = (compare (monthOfDay day) (monthOfDay day')).then
      (compare (day - daysBeforeMonth (monthOfDay day))
        (day' - daysBeforeMonth (monthOfDay day'))) := by
    refine compare_eq_then (fun h ↦ ?_) (fun h ↦ ?_) (fun h ↦ ?_)
    · exact Int.not_le.1 fun hle ↦ Int.not_le.2 h (monthOfDay_mono hle)
    · exact Int.not_le.1 fun hle ↦ Int.not_le.2 h (monthOfDay_mono hle)
    · rw [h]
      omega
  rw [hdate, hdate', order_ofParts ⟨by omega, by omega⟩ ⟨by omega, by omega⟩ ⟨hmonth, hmonthLt⟩
    ⟨hmonth', hmonthLt'⟩ (by omega) (by omega), heras, hyears, hmonths]

end Date

/-! ## Clocks -/

/-- The milliseconds of a day are ordered by hour, minute, second and millisecond. -/
theorem compare_clock {hour minute second last hour' minute' second' last' : Nat}
    (h : minute < 60 ∧ second < 60 ∧ last < 1000) (h' : minute' < 60 ∧ second' < 60 ∧ last' < 1000) :
    compare (hour * 3600000 + (minute * 60000 + (second * 1000 + last)) : Int)
        (hour' * 3600000 + (minute' * 60000 + (second' * 1000 + last'))) =
      (compare hour hour').then ((compare minute minute').then
        ((compare second second').then (compare last last'))) := by
  have hseconds : compare (second * 1000 + last : Int) (second' * 1000 + last') =
      (compare (second : Int) second').then (compare (last : Int) last') :=
    compare_eq_then (by omega) (by omega) (by omega)
  have hminutes : compare (minute * 60000 + (second * 1000 + last) : Int)
      (minute' * 60000 + (second' * 1000 + last')) =
        (compare (minute : Int) minute').then
          (compare (second * 1000 + last : Int) (second' * 1000 + last')) :=
    compare_eq_then (by omega) (by omega) (by omega)
  simp only [← compare_natCast]
  rw [← hseconds, ← hminutes]
  exact compare_eq_then (by omega) (by omega) (by omega)

/-! ## Instants -/

namespace Instant

/-- The order of instants by what is shown of them, down to the millisecond. -/
def shownOrder (t u : Instant) : Ordering :=
  (t.date.order u.date).then <| (compare t.hour u.hour).then <|
    (compare t.minute u.minute).then <| (compare t.second u.second).then <|
      compare (t.subsecond / 1000000) (u.subsecond / 1000000)

/-- The milliseconds of an instant that is no leap second, by what is shown of it. -/
theorem millis_eq (t : Instant) (h : t.nanos < 1000000000) :
    t.millis = t.seconds / 86400 * 86400000 + (t.hour * 3600000 +
        (t.minute * 60000 + (t.second * 1000 + (t.subsecond / 1000000 : Nat)))) ∧
      t.hour < 24 ∧ t.minute < 60 ∧ t.second < 60 ∧ t.subsecond / 1000000 < 1000 := by
  unfold millis hour minute second subsecond secondOfDay
  omega

/-- Instants that are no leap seconds are ordered by what is shown of them. -/
theorem shownOrder_eq_compare {t u : Instant} (ht : t.nanos < 1000000000)
    (hu : u.nanos < 1000000000) : t.shownOrder u = compare t.millis u.millis := by
  obtain ⟨htMillis, htHour, htClock⟩ := t.millis_eq ht
  obtain ⟨huMillis, huHour, huClock⟩ := u.millis_eq hu
  unfold shownOrder date
  rw [Date.order_ofDays, ← compare_clock htClock huClock, htMillis, huMillis]
  exact (compare_eq_then (by omega) (by omega) (by omega)).symm

end Instant

end DocQuery
