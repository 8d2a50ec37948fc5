import DocQuery.Time.Calendar

/-!
# Days and Dates

The date of a number of days is a date of the calendar, and the number of days to it is that number
again.

An era has four hundred years of 365 days and 97 leap days.  The year of a day is computed by a monotone
function, so it is right on a whole year if it is right on the first and the last day of it, and the
years of an era are few enough to be looked at one by one.  The same is true of the days of a year.
-/

namespace DocQuery.Date

/-! ## The years of an era -/

/-- The year of a day of an era; both are counted from zero. -/
def yearOfDay (day : Int) : Int := (day - day / 1460 + day / 36524 - day / 146096) / 365

/-- The number of days of an era before a year. -/
def daysBefore (year : Int) : Int := 365 * year + year / 4 - year / 100

/-- The number of days of a year, which ends with February of the next year of the calendar. -/
def yearLength (year : Int) : Int := if isLeapYear (year + 1) then 366 else 365

theorem yearOfDay_mono {day later : Int} (h : day ≤ later) (hnonneg : 0 ≤ day)
    (hlater : later < 146097) : yearOfDay day ≤ yearOfDay later := by
  have hfour : day - day / 1460 ≤ later - later / 1460 := by omega
  have hcentury : day / 36524 - day / 146096 ≤ later / 36524 - later / 146096 := by omega
  exact Int.ediv_le_ediv (by decide) (by omega)

/-- The first and the last day of a year of an era are of this year. -/
theorem yearOfDay_ends : ∀ year < 400,
    yearOfDay (daysBefore (year : Nat)) = year ∧
      yearOfDay (daysBefore (year : Nat) + yearLength (year : Nat) - 1) = year := by
  decide +kernel

/-- A year of an era begins where the one before ends. -/
theorem daysBefore_succ : ∀ year < 399,
    daysBefore (year + 1 : Nat) = daysBefore (year : Nat) + yearLength (year : Nat) := by
  decide +kernel

theorem daysBefore_nonneg {year : Int} (h : 0 ≤ year) : 0 ≤ daysBefore year := by
  unfold daysBefore
  omega

theorem daysBefore_lt {year : Int} (h : year < 400) : daysBefore year < 146097 := by
  unfold daysBefore
  omega

/-- A day of an era lies in its year. -/
theorem yearOfDay_spec {day : Int} (hnonneg : 0 ≤ day) (hlt : day < 146097) :
    ∃ year : Nat, yearOfDay day = year ∧ year < 400 ∧ daysBefore year ≤ day ∧
      day < daysBefore year + yearLength year := by
  have hfirst : 0 ≤ yearOfDay day := yearOfDay_mono hnonneg (Int.le_refl 0) hlt
  have hlast : yearOfDay day ≤ yearOfDay 146096 :=
    yearOfDay_mono (Int.le_of_lt_add_one hlt) hnonneg (by decide)
  have hgreatest : yearOfDay 146096 = 399 := by decide
  obtain ⟨year, hyear⟩ := Int.eq_ofNat_of_zero_le hfirst
  refine ⟨year, hyear, by omega, ?_, ?_⟩
  · -- else it would not lie behind the last day of the year before
    refine Int.not_lt.1 fun hbefore ↦ ?_
    cases year with
    | zero => exact absurd hbefore (Int.not_lt.2 hnonneg)
    | succ before =>
      have hlength := daysBefore_succ before (by omega)
      have hle : yearOfDay day ≤ yearOfDay (daysBefore before + yearLength before - 1) := by
        refine yearOfDay_mono (by omega) hnonneg ?_
        have hlt := daysBefore_lt (show ((before + 1 : Nat) : Int) < 400 by omega)
        omega
      rw [(yearOfDay_ends before (by omega)).2] at hle
      omega
  · -- else it would not lie before the first day of the year behind
    refine Int.not_le.1 fun hbehind ↦ ?_
    by_cases hera : year = 399
    · subst hera
      have hend : daysBefore (399 : Nat) + yearLength (399 : Nat) = 146097 := by decide
      omega
    · have hlength := daysBefore_succ year (by omega)
      have hle : yearOfDay (daysBefore (year + 1 : Nat)) ≤ yearOfDay day :=
        yearOfDay_mono (by omega) (daysBefore_nonneg (by omega)) hlt
      rw [(yearOfDay_ends (year + 1) (by omega)).1] at hle
      omega

/-! ## The months of a year -/

/-- The month of a day of a year, counted from March; both are counted from zero. -/
def monthOfDay (day : Int) : Int := (5 * day + 2) / 153

/-- The number of days of a year before a month, counted from March. -/
def daysBeforeMonth (month : Int) : Int := (153 * month + 2) / 5

/-- The number of a month, counted from March. -/
def monthNumber (month : Int) : Int := if month < 10 then month + 3 else month - 9

/-- A day of a year lies in its month, which has 29 days if it is the last one. -/
theorem monthOfDay_spec : ∀ day < 366,
    0 ≤ monthOfDay (day : Nat) ∧ monthOfDay (day : Nat) < 12 ∧
      daysBeforeMonth (monthOfDay (day : Nat)) ≤ day ∧
        day - daysBeforeMonth (monthOfDay (day : Nat)) <
          if monthOfDay (day : Nat) = 11 then (if day = 365 then 29 else 28)
          else daysInMonth 0 (monthNumber (monthOfDay (day : Nat))).toNat := by
  decide +kernel

/-! ## Dates -/

/-- The date of a day of a month of a year of an era, all counted from zero and from March. -/
def ofParts (era year month day : Int) : Date where
  year := if month < 10 then year + era * 400 else year + era * 400 + 1
  month := (monthNumber month).toNat
  day := (day + 1).toNat

/-- The number of days to the date of a day of a month. -/
theorem toDays_ofParts {era year month day : Int} (hyear : 0 ≤ year ∧ year < 400)
    (hmonth : 0 ≤ month ∧ month < 12) (hday : 0 ≤ day) :
    (ofParts era year month day).toDays =
      era * 146097 + daysBefore year + daysBeforeMonth month + day - 719468 := by
  unfold toDays ofParts monthNumber daysBefore daysBeforeMonth
  dsimp only
  split <;> omega

/-- The date of a number of days by the day, the month, the year and the era that it lies in. -/
theorem ofDays_eq_ofParts (days : Int) :
    ∃ (era : Int) (year day : Nat), year < 400 ∧ day < yearLength year ∧
      days = era * 146097 + daysBefore year + day - 719468 ∧
        ofDays days =
          ofParts era year (monthOfDay day) (day - daysBeforeMonth (monthOfDay day)) := by
  have hnonneg : 0 ≤ (days + 719468) % 146097 := Int.emod_nonneg _ (by decide)
  have hlt : (days + 719468) % 146097 < 146097 := Int.emod_lt_of_pos _ (by decide)
  obtain ⟨year, hyear, hyearLt, hfirst, hlast⟩ := yearOfDay_spec hnonneg hlt
  obtain ⟨day, hday⟩ := Int.eq_ofNat_of_zero_le (Int.sub_nonneg_of_le hfirst)
  have hdate : ofDays days =
      let dayOfEra := (days + 719468) % 146097
      let dayOfYear := dayOfEra - daysBefore (yearOfDay dayOfEra)
      ofParts ((days + 719468) / 146097) (yearOfDay dayOfEra) (monthOfDay dayOfYear)
        (dayOfYear - daysBeforeMonth (monthOfDay dayOfYear)) := rfl
  refine ⟨(days + 719468) / 146097, year, day, hyearLt, by omega, by omega, ?_⟩
  rw [hdate]
  simp only [hyear, hday]

theorem yearLength_le (year : Int) : yearLength year ≤ 366 := by
  unfold yearLength
  split <;> decide

/-- The number of days to the date of a number of days is this number. -/
theorem toDays_ofDays (days : Int) : (ofDays days).toDays = days := by
  obtain ⟨era, year, day, hyear, hday, hdays, hdate⟩ := ofDays_eq_ofParts days
  have hlength := yearLength_le year
  obtain ⟨hmonth, hmonthLt, hfirst, -⟩ := monthOfDay_spec day (by omega)
  rw [hdate, toDays_ofParts ⟨by omega, by omega⟩ ⟨hmonth, hmonthLt⟩ (by omega)]
  omega

/-- A day of the years 0 to 9999 is not far from 1970. -/
theorem days_bounds {days : Int} (hyear : 0 ≤ (ofDays days).year ∧ (ofDays days).year ≤ 9999) :
    -1000000 ≤ days ∧ days ≤ 4000000 := by
  obtain ⟨era, year, day, hyearLt, hday, hdays, hdate⟩ := ofDays_eq_ofParts days
  have hlength := yearLength_le year
  have hbefore := daysBefore_lt (show (year : Int) < 400 by omega)
  have hnonneg := daysBefore_nonneg (show (0 : Int) ≤ year by omega)
  have heras : -1 ≤ era ∧ era ≤ 25 := by
    rw [hdate] at hyear
    unfold ofParts at hyear
    dsimp only at hyear
    split at hyear <;> omega
  omega

theorem isLeapYear_add_eras (year era : Int) : isLeapYear (year + era * 400) = isLeapYear year := by
  have hfour : (year + era * 400) % 4 = year % 4 := by omega
  have hcentury : (year + era * 400) % 100 = year % 100 := by omega
  have hera : (year + era * 400) % 400 = year % 400 := by omega
  unfold isLeapYear
  rw [hfour, hcentury, hera]

/-- Only February has its length from the year. -/
theorem daysInMonth_of_ne_two (year other : Int) {month : Nat} (h : month ≠ 2) :
    daysInMonth year month = daysInMonth other month := by
  unfold daysInMonth
  rw [if_neg h, if_neg h]

/-- The date of a number of days is in the calendar. -/
theorem ofDays_mem_calendar (days : Int) :
    1 ≤ (ofDays days).month ∧ (ofDays days).month ≤ 12 ∧ 1 ≤ (ofDays days).day ∧
      (ofDays days).day ≤ daysInMonth (ofDays days).year (ofDays days).month := by
  obtain ⟨era, year, day, hyear, hday, -, hdate⟩ := ofDays_eq_ofParts days
  have hlength := yearLength_le year
  obtain ⟨hmonth, hmonthLt, hfirst, hlast⟩ := monthOfDay_spec day (by omega)
  rw [hdate]
  generalize monthOfDay day = month at hmonth hmonthLt hfirst hlast
  unfold ofParts
  dsimp only
  by_cases hfebruary : month = 11
  · subst hfebruary
    refine ⟨by decide, by decide, by omega, ?_⟩
    have hleap : daysInMonth (year + era * 400 + 1) 2 = if isLeapYear (year + 1) then 29 else 28 := by
      rw [← isLeapYear_add_eras (year + 1) era, Int.add_right_comm]
      rfl
    change _ ≤ daysInMonth (year + era * 400 + 1) 2
    rw [hleap]
    rw [if_pos rfl] at hlast
    -- the 29th is the last day of a long year
    unfold yearLength at hday
    by_cases hlong : isLeapYear (year + 1) = true
    · rw [if_pos hlong]
      split at hlast <;> omega
    · rw [if_neg hlong] at hday ⊢
      rw [if_neg (by omega)] at hlast
      omega
  · have hnumber : (monthNumber month).toNat ≠ 2 := by
      unfold monthNumber
      split <;> omega
    rw [if_neg hfebruary] at hlast
    rw [daysInMonth_of_ne_two _ 0 hnumber]
    refine ⟨?_, ?_, by omega, by omega⟩
    · unfold monthNumber
      split <;> omega
    · unfold monthNumber
      split <;> omega

end DocQuery.Date
