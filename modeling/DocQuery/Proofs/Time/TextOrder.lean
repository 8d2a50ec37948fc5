import DocQuery.Proofs.Time.Chronology
import DocQuery.Proofs.Time.Reading

/-!
# Texts in the Order of Time

The ISO text of an instant shows its fields from the greatest unit to the least, each with its full
width.  Texts are ordered by their first different character, and numbers of one width by their first
different digit; so texts of the years 0 to 9999 are ordered by these fields, and that is the order of the
milliseconds.
-/

namespace DocQuery

/-! ## The order of texts -/

theorem compareOfLessAndEq_eq {α : Type} [LT α] [DecidableLT α] [DecidableEq α] {a b : α}
    {order : Ordering} (hlt : a < b ↔ order = .lt) (heq : a = b ↔ order = .eq) :
    compareOfLessAndEq a b = order := by
  unfold compareOfLessAndEq
  by_cases h : a < b
  · rw [if_pos h, hlt.1 h]
  · rw [if_neg h]
    by_cases he : a = b
    · rw [if_pos he, heq.1 he]
    · rw [if_neg he]
      cases order with
      | lt => exact absurd (hlt.2 rfl) h
      | eq => exact absurd (heq.2 rfl) he
      | gt => rfl

theorem compare_chars_eq_lt {xs ys : List Char} : compare xs ys = .lt ↔ xs < ys := by
  induction xs generalizing ys with
  | nil => cases ys <;> simp [List.compare_nil_cons]
  | cons x xs ih =>
    cases ys with
    | nil => simp
    | cons y ys =>
      rw [List.compare_cons_cons, Ordering.then_eq_lt, List.cons_lt_cons_iff, ih,
        Std.compare_eq_iff_eq]
      exact or_congr_left compareOfLessAndEq_eq_lt

/-- Texts are ordered as their characters are. -/
theorem compare_text (s t : String) : compare s t = compare s.toList t.toList :=
  compareOfLessAndEq_eq (Iff.trans .rfl compare_chars_eq_lt.symm)
    (String.toList_inj.symm.trans Std.compare_eq_iff_eq.symm)

/-! ## The order of digits -/

namespace Text

theorem compare_digit {c d : Char} (hc : c.isDigit = true) (hd : d.isDigit = true) :
    compare c d = compare (digitValue c) (digitValue d) := by
  have hcode (e : Char) (he : e.isDigit = true) : 48 ≤ e.toNat := (Char.isDigit_iff_toNat.1 he).1
  have hcCode := hcode c hc
  have hdCode := hcode d hd
  have hzero : '0'.toNat = 48 := rfl
  refine compareOfLessAndEq_eq ?_ ?_
  · rw [Nat.compare_eq_lt, digitValue, digitValue]
    show c.toNat < d.toNat ↔ _
    omega
  · rw [Nat.compare_eq_eq, digitValue, digitValue, ← Char.toNat_inj]
    omega

theorem digitsValue_cons (d : Char) (ds : List Char) :
    digitsValue (d :: ds) = digitValue d * 10 ^ ds.length + digitsValue ds := by
  have hone : digitsValue [d] = digitValue d := Nat.zero_add _
  rw [← hone]
  exact digitsValue_append [d] ds

theorem digitsValue_lt {ds : List Char} (h : ∀ c ∈ ds, c.isDigit = true) :
    digitsValue ds < 10 ^ ds.length := by
  induction ds with
  | nil => decide
  | cons d ds ih =>
    have hrest := ih fun c hc ↦ h c (List.mem_cons_of_mem d hc)
    have hdigit : digitValue d + 1 ≤ 10 := by
      have hcode : d.toNat ≤ 57 := (Char.isDigit_iff_toNat.1 (h d List.mem_cons_self)).2
      have hzero : '0'.toNat = 48 := rfl
      unfold digitValue
      omega
    have hmul : (digitValue d + 1) * 10 ^ ds.length ≤ 10 * 10 ^ ds.length :=
      Nat.mul_le_mul_right _ hdigit
    rw [digitsValue_cons, List.length_cons, Nat.pow_succ']
    rw [Nat.succ_mul] at hmul
    omega

/-- Numbers are ordered by their parts above and below a base. -/
theorem compare_mul_add {base p q r s : Nat} (hr : r < base) (hs : s < base) :
    compare (p * base + r) (q * base + s) = (compare p q).then (compare r s) := by
  have hlt {p q r s : Nat} (hr : r < base) (h : p < q) : p * base + r < q * base + s := by
    have hmul : (p + 1) * base ≤ q * base := Nat.mul_le_mul_right _ h
    rw [Nat.succ_mul] at hmul
    omega
  rw [← compare_natCast, ← compare_natCast p, ← compare_natCast r]
  refine compare_eq_then (fun h ↦ ?_) (fun h ↦ ?_) (fun h ↦ ?_)
  · exact Int.ofNat_lt.2 (hlt hr (Int.ofNat_lt.1 h))
  · exact Int.ofNat_lt.2 (hlt hs (Int.ofNat_lt.1 h))
  · rw [Int.ofNat_inj.1 h]
    omega

/-- Digits of one length are ordered as the numbers that they stand for. -/
theorem compare_digits_append {ds es xs ys : List Char} (hlength : ds.length = es.length)
    (hds : ∀ c ∈ ds, c.isDigit = true) (hes : ∀ c ∈ es, c.isDigit = true) :
    compare (ds ++ xs) (es ++ ys) =
      (compare (digitsValue ds) (digitsValue es)).then (compare xs ys) := by
  induction ds generalizing es with
  | nil =>
    obtain rfl := List.length_eq_zero_iff.1 hlength.symm
    rfl
  | cons d ds ih =>
    cases es with
    | nil => cases hlength
    | cons e es =>
      have hlength : ds.length = es.length := Nat.succ.inj hlength
      have hdRest : ∀ c ∈ ds, c.isDigit = true := fun c hc ↦ hds c (List.mem_cons_of_mem d hc)
      have heRest : ∀ c ∈ es, c.isDigit = true := fun c hc ↦ hes c (List.mem_cons_of_mem e hc)
      have hvalues : compare (digitsValue (d :: ds)) (digitsValue (e :: es)) =
          (compare d e).then (compare (digitsValue ds) (digitsValue es)) := by
        rw [digitsValue_cons, digitsValue_cons, hlength,
          compare_digit (hds d List.mem_cons_self) (hes e List.mem_cons_self)]
        exact compare_mul_add (hlength ▸ digitsValue_lt hdRest) (digitsValue_lt heRest)
      rw [List.cons_append, List.cons_append, List.compare_cons_cons, ih hlength hdRest heRest, hvalues,
        Ordering.then_assoc]

/-- Numbers of one width decide about the order of texts that begin with them. -/
theorem compare_paddedDigits_append {width m n : Nat} (hwidth : 0 < width) (hm : m < 10 ^ width)
    (hn : n < 10 ^ width) (xs ys : List Char) :
    compare (paddedDigits width m ++ xs) (paddedDigits width n ++ ys) =
      (compare m n).then (compare xs ys) := by
  have hlength : (paddedDigits width m).length = (paddedDigits width n).length := by
    rw [length_paddedDigits hwidth hm, length_paddedDigits hwidth hn]
  rw [compare_digits_append hlength (fun _ ↦ isDigit_of_mem_paddedDigits)
    (fun _ ↦ isDigit_of_mem_paddedDigits), digitsValue_paddedDigits, digitsValue_paddedDigits]

theorem compare_cons_self (c : Char) (xs ys : List Char) :
    compare (c :: xs) (c :: ys) = compare xs ys := by
  rw [List.compare_cons_cons, Std.compare_self, Ordering.eq_then]

end Text

/-! ## ISO texts -/

namespace Instant

open Text

variable {t u : Instant}

theorem isoText_toList (hyear : 0 ≤ t.date.year ∧ t.date.year ≤ 9999) :
    t.isoText.toList =
      paddedDigits 4 t.date.year.natAbs ++ '-' :: (paddedDigits 2 t.date.month ++
        '-' :: (paddedDigits 2 t.date.day ++ 'T' :: (paddedDigits 2 t.hour ++
          ':' :: (paddedDigits 2 t.minute ++ ':' :: (paddedDigits 2 t.second ++
            '.' :: (paddedDigits 3 (t.subsecond / 1000000) ++ ['Z'])))))) := by
  unfold isoText secondText Date.text
  rw [yearText_eq_padded hyear]
  simp only [String.toList_append, padded, String.toList_ofList, List.append_assoc]
  rfl

/-- In the years 0 to 9999 the ISO texts of instants that are no leap seconds are ordered as the
instants are. -/
theorem compare_isoText (htYear : 0 ≤ t.date.year ∧ t.date.year ≤ 9999)
    (huYear : 0 ≤ u.date.year ∧ u.date.year ≤ 9999) (ht : t.nanos < 1000000000)
    (hu : u.nanos < 1000000000) : compare t.isoText u.isoText = compare t.millis u.millis := by
  have hyears : compare t.date.year.natAbs u.date.year.natAbs = compare t.date.year u.date.year := by
    rw [← compare_natCast, Int.natAbs_of_nonneg htYear.1, Int.natAbs_of_nonneg huYear.1]
  have hyear (v : Instant) (h : 0 ≤ v.date.year ∧ v.date.year ≤ 9999) :
      v.date.year.natAbs < 10 ^ 4 := by omega
  obtain ⟨-, htHour, htMinute, htSecond, htLast⟩ := t.millis_eq ht
  obtain ⟨-, huHour, huMinute, huSecond, huLast⟩ := u.millis_eq hu
  -- field by field, with the characters between them
  rw [compare_text, isoText_toList htYear, isoText_toList huYear,
    compare_paddedDigits_append (by decide) (hyear t htYear) (hyear u huYear), compare_cons_self,
    compare_paddedDigits_append (by decide) t.month_lt u.month_lt, compare_cons_self,
    compare_paddedDigits_append (by decide) t.day_lt u.day_lt, compare_cons_self,
    compare_paddedDigits_append (by decide) (by omega) (by omega), compare_cons_self,
    compare_paddedDigits_append (by decide) (by omega) (by omega), compare_cons_self,
    compare_paddedDigits_append (by decide) (by omega) (by omega), compare_cons_self,
    compare_paddedDigits_append (by decide) (by omega) (by omega), Std.compare_self,
    Ordering.then_eq, hyears, ← shownOrder_eq_compare ht hu, shownOrder, Date.order,
    Ordering.then_assoc, Ordering.then_assoc]

end Instant

end DocQuery
