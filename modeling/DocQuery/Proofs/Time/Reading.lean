import Mathlib.Algebra.Group.Nat.Defs
import DocQuery.Proofs.Json.Numeral
import DocQuery.Proofs.Time.Calendar
import DocQuery.Time.Iso
import DocQuery.Time.Reading

/-!
# Texts of Instants Read Back

The text of an instant of the years 0 to 9999 is in the strict notation: every field has its full width,
and the text ends with `Z`.  So its fields are read one after the other, and what was written as a
fraction decides about the nanoseconds.

The main statement is that the exact text of an instant names this instant.  A leap second must be at the
end of a minute for that, where a clock shows it as `:60`.
-/

namespace DocQuery

/-! ## Digits of a given width -/

namespace Text

theorem foldl_digits (digits : List Char) (value : Nat) :
    digits.foldl (fun value c ↦ 10 * value + digitValue c) value =
      value * 10 ^ digits.length + digitsValue digits := by
  induction digits generalizing value with
  | nil => simp [digitsValue]
  | cons c rest ih =>
    rw [digitsValue, List.foldl_cons, List.foldl_cons, ih, ih, List.length_cons, Nat.pow_succ',
      Nat.add_mul, Nat.add_mul]
    simp only [Nat.mul_zero, Nat.zero_mul, Nat.zero_add, Nat.mul_comm 10 value, Nat.mul_assoc,
      Nat.add_assoc]

theorem digitsValue_append (digits more : List Char) :
    digitsValue (digits ++ more) = digitsValue digits * 10 ^ more.length + digitsValue more := by
  rw [digitsValue, List.foldl_append, foldl_digits]
  rfl

theorem digitsValue_zeros (count : Nat) : digitsValue (List.replicate count '0') = 0 := by
  induction count with
  | zero => rfl
  | succ count ih => exact ih

/-- Zeros in front of a number do not change it. -/
theorem digitsValue_paddedDigits (width n : Nat) : digitsValue (paddedDigits width n) = n := by
  rw [paddedDigits, digitsValue_append, digitsValue_zeros, digitsValue_toDigits, Nat.zero_mul,
    Nat.zero_add]

theorem isDigit_of_mem_paddedDigits {width n : Nat} {c : Char} (h : c ∈ paddedDigits width n) :
    c.isDigit = true := by
  rcases List.mem_append.1 h with hzero | hdigit
  · rw [List.eq_of_mem_replicate hzero]
    rfl
  · exact isDigit_of_mem_toDigits hdigit

/-- A number that fits into a width takes all of it. -/
theorem length_paddedDigits {width n : Nat} (hwidth : 0 < width) (h : n < 10 ^ width) :
    (paddedDigits width n).length = width := by
  have hle := (Nat.length_toDigits_le_iff (by decide) hwidth).2 h
  rw [paddedDigits, List.length_append, List.length_replicate]
  omega

end Text

open Text

/-! ## Scanners -/

namespace Scan

/-- A scanner reads a value from the start of a text and leaves the rest. -/
def Reads {α : Type} (scan : Scan α) (cs : List Char) (value : α) (rest : List Char) : Prop :=
  scan.run cs = some (value, rest)

section
variable {α β : Type} {scan : Scan α} {next : α → Scan β} {cs middle rest : List Char}

theorem Reads.bind {a : α} {b : β} (h : Reads scan cs a middle)
    (hnext : Reads (next a) middle b rest) : Reads (scan >>= next) cs b rest := by
  unfold Reads at h hnext ⊢
  rw [StateT.run_bind, h]
  exact hnext

theorem reads_pure (a : α) (cs : List Char) : Reads (pure a) cs a cs := rfl

theorem reads_char (c : Char) (rest : List Char) : Reads (char c) (c :: rest) () rest :=
  if_pos rfl

theorem reads_oneOf {c : Char} {expected : List Char} (h : c ∈ expected) (rest : List Char) :
    Reads (oneOf expected) (c :: rest) c rest :=
  if_pos h

/-- A text that is read to its end is read as a whole. -/
theorem Reads.whole {text : String} {a : α} (h : Reads scan text.toList a []) :
    whole scan text = some a := by
  have hfinish : Reads finish [] () [] := rfl
  have hdone : Reads (do let a ← scan; finish; return a) text.toList a [] :=
    h.bind (hfinish.bind (reads_pure a []))
  rw [Scan.whole, hdone]
  rfl

end

variable {width n : Nat}

/-- The digits that a scanner finds are read if there are some. -/
theorem reads_digits_of {most : Nat} {cs found : List Char}
    (h : (cs.take most).takeWhile Char.isDigit = found) (hne : found ≠ []) :
    Reads (digits most) cs found (cs.drop found.length) := by
  subst h
  exact if_neg (by simpa [List.isEmpty_iff] using hne)

theorem paddedDigits_ne_nil (hwidth : 0 < width) (h : n < 10 ^ width) : paddedDigits width n ≠ [] := by
  intro hnil
  have hlength := length_paddedDigits hwidth h
  rw [hnil] at hlength
  exact absurd hlength (Nat.ne_of_lt hwidth)

/-- A number that is written in full width is read back. -/
theorem reads_exactly (hwidth : 0 < width) (h : n < 10 ^ width) (rest : List Char) :
    Reads (exactly width) (paddedDigits width n ++ rest) n rest := by
  have hlength := length_paddedDigits hwidth h
  have hfound : ((paddedDigits width n ++ rest).take width).takeWhile Char.isDigit =
      paddedDigits width n := by
    rw [List.take_left' hlength, ← List.append_nil (paddedDigits width n),
      List.takeWhile_append_of_pos (fun c ↦ isDigit_of_mem_paddedDigits), List.takeWhile_nil]
  have hdigits := reads_digits_of hfound (paddedDigits_ne_nil hwidth h)
  rw [List.drop_left] at hdigits
  refine hdigits.bind ?_
  rw [if_pos hlength, digitsValue_paddedDigits]
  exact reads_pure n rest

/-! ## Fractions -/

/-- The first nine fraction digits count, and what is missing of them are zeros. -/
theorem nanosOfDigits_paddedDigits (hwidth : 0 < width) (h : n < 10 ^ width) (hnine : width ≤ 9) :
    nanosOfDigits (paddedDigits width n) = n * 10 ^ (9 - width) := by
  have hlength := length_paddedDigits hwidth h
  have htake : (paddedDigits width n ++ List.replicate 9 '0').take 9 =
      paddedDigits width n ++ List.replicate (9 - width) '0' := by
    rw [List.take_append, List.take_of_length_le (by omega), List.take_replicate, hlength]
    congr 2
    omega
  rw [nanosOfDigits, htake, digitsValue_append, digitsValue_paddedDigits, digitsValue_zeros,
    List.length_replicate, Nat.add_zero]

/-- A fraction is read up to a character that is no digit. -/
theorem reads_fraction (hwidth : 0 < width) (h : n < 10 ^ width) (hnine : width ≤ 9) {c : Char}
    (hc : c.isDigit = false) (rest : List Char) :
    Reads fraction ('.' :: (paddedDigits width n ++ c :: rest)) (n * 10 ^ (9 - width))
      (c :: rest) := by
  have hfound : (paddedDigits width n ++ c :: rest).takeWhile Char.isDigit =
      paddedDigits width n := by
    rw [List.takeWhile_append_of_pos (fun c ↦ isDigit_of_mem_paddedDigits),
      List.takeWhile_cons_of_neg (by simp [hc]), List.append_nil]
  have hdigits : allDigits.run (paddedDigits width n ++ c :: rest) =
      some (paddedDigits width n, c :: rest) := by
    have hne : ¬(paddedDigits width n).isEmpty = true := by
      simpa [List.isEmpty_iff] using paddedDigits_ne_nil hwidth h
    change (if List.isEmpty _ then none else some (_, List.drop (List.length _) _)) = _
    rw [hfound, if_neg hne, List.drop_left]
  change (allDigits.run (paddedDigits width n ++ c :: rest)).map _ = _
  rw [hdigits, ← nanosOfDigits_paddedDigits hwidth h hnine]
  rfl

end Scan

/-! ## Instants -/

namespace Instant

variable {t : Instant}

/-- The fields of an instant are in their ranges. -/
theorem hour_lt (t : Instant) : t.hour < 24 := by
  unfold hour secondOfDay
  omega

theorem minute_lt (t : Instant) : t.minute < 60 := by
  unfold minute
  omega

theorem second_lt (t : Instant) : t.second < 62 := by
  have hnanos := t.nanos_lt
  unfold second
  omega

theorem month_lt (t : Instant) : t.date.month < 100 := by
  have hmonth := (Date.ofDays_mem_calendar (t.seconds / 86400)).2.1
  unfold date
  omega

theorem day_lt (t : Instant) : t.date.day < 100 := by
  have hday := (Date.ofDays_mem_calendar (t.seconds / 86400)).2.2.2
  have hlength : Date.daysInMonth t.date.year t.date.month ≤ 31 := by
    unfold Date.daysInMonth
    split
    · split <;> decide
    · split <;> decide
  unfold date at hlength ⊢
  omega

/-- The text of a year of four digits. -/
theorem yearText_eq_padded {year : Int} (h : 0 ≤ year ∧ year ≤ 9999) :
    Date.yearText year = padded 4 year.natAbs := by
  unfold Date.yearText
  rw [if_pos h]

/-- The local time that an instant shows, with a fraction of its own. -/
def shown (t : Instant) (nanos : Nat) : LocalTime where
  date := t.date
  hour := t.hour
  minute := t.minute
  second := t.second
  nanos := nanos

/-- The text of an instant of the years 0 to 9999, with any fraction, is in the strict notation. -/
theorem reads_strictDateTime (hyear : 0 ≤ t.date.year ∧ t.date.year ≤ 9999) {fraction : String}
    {nanos : Nat} (hfraction : Scan.Reads Scan.fraction (fraction.toList ++ ['Z']) nanos ['Z']) :
    Scan.Reads Scan.strictDateTime (t.secondText ++ fraction ++ "Z").toList (t.shown nanos) [] := by
  have hyearLt : t.date.year.natAbs < 10 ^ 4 := by omega
  have hdate :
      t.date = { year := (t.date.year.natAbs : Nat), month := t.date.month, day := t.date.day } := by
    rw [Int.natAbs_of_nonneg hyear.1]
  have hsecond := t.second_lt
  have hminute := t.minute_lt
  have hhour := t.hour_lt
  have hmonth := t.month_lt
  have hday := t.day_lt
  unfold secondText Date.text
  rw [yearText_eq_padded hyear]
  simp only [String.toList_append, padded, String.toList_ofList, List.append_assoc]
  refine (Scan.reads_exactly (by decide) hyearLt _).bind ?_
  refine (Scan.reads_char '-' _).bind ?_
  refine (Scan.reads_exactly (by decide) hmonth _).bind ?_
  refine (Scan.reads_char '-' _).bind ?_
  refine (Scan.reads_exactly (by decide) hday _).bind ?_
  refine (Scan.reads_oneOf (c := 'T') (by decide) _).bind ?_
  refine (Scan.reads_exactly (by decide) (by omega) _).bind ?_
  refine (Scan.reads_char ':' _).bind ?_
  refine (Scan.reads_exactly (by decide) (by omega) _).bind ?_
  refine (Scan.reads_char ':' _).bind ?_
  refine (Scan.reads_exactly (by decide) (by omega) _).bind ?_
  refine hfraction.bind ?_
  rw [shown, hdate]
  exact Scan.Reads.bind rfl (Scan.reads_pure _ _)

/-- An instant of the years 0 to 9999 is not far from 1970. -/
theorem seconds_bounds (hyear : 0 ≤ t.date.year ∧ t.date.year ≤ 9999) :
    -100000000000 ≤ t.seconds ∧ t.seconds ≤ 400000000000 := by
  have hdays := Date.days_bounds hyear
  omega

/-- Whether an instant is no leap second, or one at the end of a minute, which a clock shows as `:60`. -/
def IsOnClock (t : Instant) : Prop := t.nanos < 1000000000 ∨ t.seconds % 60 = 59

/-- An instant with other nanoseconds of its second or leap second. -/
def withSubsecond (t : Instant) (nanos : Nat) (h : nanos < 1000000000) : Instant where
  seconds := t.seconds
  nanos := t.nanos / 1000000000 * 1000000000 + nanos
  nanos_lt := by
    have hnanos := t.nanos_lt
    omega

theorem withSubsecond_subsecond (t : Instant) :
    t.withSubsecond t.subsecond (Nat.mod_lt _ (by decide)) = t := by
  have hnanos : t.nanos / 1000000000 * 1000000000 + t.subsecond = t.nanos := Nat.div_add_mod' ..
  unfold withSubsecond
  simp only [hnanos]

/-- The local time that an instant shows is this instant, but for the nanoseconds. -/
theorem instant?_shown (hyear : 0 ≤ t.date.year ∧ t.date.year ≤ 9999) (hclock : t.IsOnClock)
    {nanos : Nat} (hnanos : nanos < 1000000000) :
    (t.shown nanos).instant? = some (t.withSubsecond nanos hnanos) := by
  have hbounds := seconds_bounds hyear
  have hlt := t.nanos_lt
  have hsecond : t.second = t.secondOfDay % 60 + t.nanos / 1000000000 := rfl
  have hminuteEnd : 0 < t.nanos / 1000000000 → t.secondOfDay % 60 = 59 := by
    unfold secondOfDay
    rcases hclock with hnanos | hseconds <;> omega
  have hseconds : t.date.toDays * 86400 +
      (t.hour * 3600 + t.minute * 60 + min t.second 59 : Nat) - 0 = t.seconds := by
    have hshown : min t.second 59 = t.secondOfDay % 60 := by omega
    rw [date, Date.toDays_ofDays, hshown]
    unfold hour minute secondOfDay
    omega
  have hvalid : t.date.isValid = true := by
    obtain ⟨hmonth, hmonthLe, hday, hdayLe⟩ := Date.ofDays_mem_calendar (t.seconds / 86400)
    unfold date at hyear ⊢
    unfold Date.isValid Date.leastYear Date.greatestYear
    simp only [Bool.and_eq_true, decide_eq_true_eq]
    exact ⟨⟨⟨⟨⟨by omega, by omega⟩, hmonth⟩, hmonthLe⟩, hday⟩, hdayLe⟩
  have hleap : (if t.second = 60 then nanos + 1000000000 else nanos) =
      t.nanos / 1000000000 * 1000000000 + nanos := by
    split <;> omega
  have hhour := t.hour_lt
  have hminute := t.minute_lt
  unfold LocalTime.instant? shown
  dsimp only
  rw [hseconds, if_pos]
  · simp only [hleap]
    rw [dif_pos (by omega)]
    rfl
  · unfold leastMillis greatestMillis
    exact ⟨hvalid, hhour, hminute, by omega, by omega, by omega⟩

/-- What is written of the fraction of an instant in the strict notation decides which instant the text
names. -/
theorem ofText?_of_fraction (hyear : 0 ≤ t.date.year ∧ t.date.year ≤ 9999) (hclock : t.IsOnClock)
    {fraction : String} {nanos : Nat} (hnanos : nanos < 1000000000)
    (hfraction : Scan.Reads Scan.fraction (fraction.toList ++ ['Z']) nanos ['Z']) :
    ofText? (t.secondText ++ fraction ++ "Z") = some (t.withSubsecond nanos hnanos) := by
  unfold ofText?
  rw [(reads_strictDateTime hyear hfraction).whole, Option.bind_some,
    instant?_shown hyear hclock hnanos]
  rfl

/-- A fraction of a given width is read as its nanoseconds. -/
theorem reads_fraction_padded {width n : Nat} (hwidth : 0 < width) (h : n < 10 ^ width)
    (hnine : width ≤ 9) :
    Scan.Reads Scan.fraction (("." ++ padded width n).toList ++ ['Z']) (n * 10 ^ (9 - width)) ['Z'] := by
  have hchars : ("." ++ padded width n).toList ++ ['Z'] =
      '.' :: (paddedDigits width n ++ ['Z']) := by
    simp [padded]
  rw [hchars]
  exact Scan.reads_fraction hwidth h hnine (by decide) []

/-- The exact text of an instant names the instant. -/
theorem ofText?_exactText (hyear : 0 ≤ t.date.year ∧ t.date.year ≤ 9999) (hclock : t.IsOnClock) :
    ofText? t.exactText = some t := by
  have hlt : t.subsecond < 1000000000 := Nat.mod_lt _ (by decide)
  have hread {fraction : String}
      (hfraction : Scan.Reads Scan.fraction (fraction.toList ++ ['Z']) t.subsecond ['Z']) :
      ofText? (t.secondText ++ fraction ++ "Z") = some t := by
    rw [ofText?_of_fraction hyear hclock hlt hfraction, withSubsecond_subsecond]
  unfold exactText
  dsimp only
  split
  · rename_i hzero
    refine hread ?_
    rw [hzero]
    rfl
  · split
    · rename_i hmillis
      have hmillisLt : t.subsecond / 1000000 < 10 ^ 3 := by omega
      have hfraction := reads_fraction_padded (by decide) hmillisLt (by decide)
      rw [show t.subsecond / 1000000 * 10 ^ (9 - 3) = t.subsecond by omega] at hfraction
      exact hread hfraction
    · split
      · rename_i hmicros
        have hmicrosLt : t.subsecond / 1000 < 10 ^ 6 := by omega
        have hfraction := reads_fraction_padded (by decide) hmicrosLt (by decide)
        rw [show t.subsecond / 1000 * 10 ^ (9 - 6) = t.subsecond by omega] at hfraction
        exact hread hfraction
      · have hfraction := reads_fraction_padded (by decide) (show t.subsecond < 10 ^ 9 from hlt)
          (by decide)
        rw [show t.subsecond * 10 ^ (9 - 9) = t.subsecond by omega] at hfraction
        exact hread hfraction

end Instant

end DocQuery
