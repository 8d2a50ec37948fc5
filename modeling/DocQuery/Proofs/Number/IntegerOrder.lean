import DocQuery.Proofs.Number.Integer

/-!
# The Order of Rounded Integers

Beyond `2 ^ 53` an integer can lie between two doubles, and rounding moves it to one of them.  Rounding is
monotone: it can make two integers equal but does not change their order otherwise.  Hence two integers are
compared as doubles as they are themselves, unless they are different and round to the same double, in
which case they are compared as equal.  This does not happen if one of them is less than `2 ^ 53`.

The rounded significand of an integer may be that of the next power of two, where the next step of the
magnitude begins; so the steps join without a gap.
-/

namespace DocQuery

/-- A greater number is not rounded to a smaller one. -/
theorem nearestEven_mono {a b : Nat} (denominator : Nat) (h : a ≤ b) :
    nearestEven a denominator ≤ nearestEven b denominator := by
  have hquotient : a / denominator ≤ b / denominator := Nat.div_le_div_right h
  simp only [nearestEven]
  rcases Nat.lt_or_eq_of_le hquotient with hlt | heq
  · -- rounding up goes at most to the next integer, rounding down not below the quotient
    split <;> split <;> grind
  · have hrest : a % denominator ≤ b % denominator := by
      have ha := Nat.div_add_mod a denominator
      have hb := Nat.div_add_mod b denominator
      rw [heq] at ha
      omega
    rw [heq]
    split <;> split <;> grind

namespace Double

/-! ## Magnitudes of integers -/

theorem roundedSignificand_bounds {n : Nat} (hn : n ≠ 0) :
    fractionCount ≤ roundedSignificand n ∧ roundedSignificand n ≤ 2 * fractionCount := by
  have hpos : 0 < 2 ^ n.log2 := Nat.two_pow_pos _
  constructor
  · have hlow : 2 ^ 52 * 2 ^ n.log2 ≤ n * 2 ^ 52 := by
      rw [Nat.mul_comm]
      exact Nat.mul_le_mul_right _ (Nat.log2_self_le hn)
    calc fractionCount = nearestEven (2 ^ 52 * 2 ^ n.log2) (2 ^ n.log2) :=
          (nearestEven_mul _ hpos).symm
      _ ≤ roundedSignificand n := nearestEven_mono _ hlow
  · have hhigh : n * 2 ^ 52 ≤ 2 * 2 ^ 52 * 2 ^ n.log2 := by
      rw [Nat.mul_right_comm, ← Nat.pow_succ']
      exact Nat.mul_le_mul_right _ (Nat.le_of_lt Nat.lt_log2_self)
    calc roundedSignificand n
        ≤ nearestEven (2 * 2 ^ 52 * 2 ^ n.log2) (2 ^ n.log2) := nearestEven_mono _ hhigh
      _ = 2 * fractionCount := nearestEven_mul _ hpos

/-- A greater number has no smaller magnitude. -/
theorem magnitude_ofRatio_mono {a b : Nat} (h : a ≤ b) (negative other : Bool) :
    (ofRatio negative a 1).magnitude ≤ (ofRatio other b 1).magnitude := by
  by_cases ha0 : a = 0
  · subst ha0
    exact Nat.zero_le _
  have hb0 : b ≠ 0 := by omega
  rw [magnitude_ofRatio_one ha0, magnitude_ofRatio_one hb0]
  refine Nat.le_min.2 ⟨Nat.le_trans (Nat.min_le_left ..) ?_, Nat.min_le_right ..⟩
  have hlog : a.log2 ≤ b.log2 :=
    (Nat.le_log2 hb0).2 (Nat.le_trans (Nat.log2_self_le ha0) h)
  rcases Nat.lt_or_eq_of_le hlog with hlt | heq
  · obtain ⟨-, hhigh⟩ := roundedSignificand_bounds ha0
    obtain ⟨hlow, -⟩ := roundedSignificand_bounds hb0
    have hmul : (a.log2 + 1 + 1022) * fractionCount ≤ (b.log2 + 1022) * fractionCount :=
      Nat.mul_le_mul_right _ (by omega)
    rw [Nat.add_right_comm, Nat.add_mul _ 1] at hmul
    omega
  · have hnearest : roundedSignificand a ≤ roundedSignificand b := by
      unfold roundedSignificand
      rw [heq]
      exact nearestEven_mono _ (Nat.mul_le_mul_right _ h)
    rw [heq]
    exact Nat.add_le_add_left hnearest _

/-- Only zero is rounded to zero. -/
theorem magnitude_ofRatio_pos {n : Nat} (hn : n ≠ 0) (negative : Bool) :
    0 < (ofRatio negative n 1).magnitude := by
  obtain ⟨hlow, -⟩ := roundedSignificand_bounds hn
  have hpos : 0 < fractionCount := by decide
  rw [magnitude_ofRatio_one hn]
  exact Nat.lt_min.2 ⟨by omega, by decide⟩

/-! ## Integers as doubles -/

theorem rank?_ofInt (n : Int) :
    (ofInt n).rank? =
      some (if n < 0 then -((ofInt n).magnitude : Int) else (ofInt n).magnitude) := by
  unfold rank?
  rw [isNaN_ofInt, negative_ofInt, if_neg Bool.false_ne_true]
  simp only [decide_eq_true_eq]

section
variable {x y r s : Int}

/-- A greater integer has no smaller rank. -/
theorem rank_le_of_le (h : x ≤ y) (hr : (ofInt x).rank? = some r)
    (hs : (ofInt y).rank? = some s) : r ≤ s := by
  have hmagnitude {a b : Int} (h : a.natAbs ≤ b.natAbs) :
      (ofInt a).magnitude ≤ (ofInt b).magnitude := magnitude_ofRatio_mono h _ _
  rw [rank?_ofInt, Option.some.injEq] at hr hs
  by_cases hx0 : x < 0
  · rw [if_pos hx0] at hr
    by_cases hy0 : y < 0
    · rw [if_pos hy0] at hs
      have hle := hmagnitude (a := y) (b := x) (by omega)
      omega
    · rw [if_neg hy0] at hs
      omega
  · rw [if_neg hx0] at hr
    rw [if_neg (by omega)] at hs
    have hle := hmagnitude (a := x) (b := y) (by omega)
    omega

/-- Integers have the same rank only as the same double; there is one zero among them. -/
theorem rank_eq_iff (hr : (ofInt x).rank? = some r) (hs : (ofInt y).rank? = some s) :
    r = s ↔ ofInt x = ofInt y := by
  refine ⟨fun heq ↦ ?_, fun heq ↦ Option.some.inj (hr.symm.trans (heq ▸ hs))⟩
  have hpos {a : Int} (h : a < 0) : 0 < (ofInt a).magnitude :=
    magnitude_ofRatio_pos (by omega) _
  rw [rank?_ofInt, Option.some.injEq] at hr hs
  have hboth : (ofInt x).negative = (ofInt y).negative ∧
      (ofInt x).magnitude = (ofInt y).magnitude := by
    rw [negative_ofInt, negative_ofInt, decide_eq_decide]
    by_cases hx0 : x < 0
    · have hlt := hpos hx0
      rw [if_pos hx0] at hr
      split at hs <;> omega
    · rw [if_neg hx0] at hr
      split at hs
      · rename_i hy0
        have hlt := hpos hy0
        omega
      · omega
  exact ext hboth.1 hboth.2

end

/-- The order of two integers as doubles: equal if they round to the same double, and otherwise as they
are. -/
def roundedOrder (x y : Int) : Ordering :=
  if ofInt x = ofInt y then .eq else compare x y

theorem compare?_ofInt_eq_roundedOrder (x y : Int) :
    (ofInt x).compare? (ofInt y) = some (roundedOrder x y) := by
  obtain ⟨r, hr⟩ : ∃ r, (ofInt x).rank? = some r := ⟨_, rank?_ofInt x⟩
  obtain ⟨s, hs⟩ : ∃ s, (ofInt y).rank? = some s := ⟨_, rank?_ofInt y⟩
  have hiff := rank_eq_iff hr hs
  unfold compare? roundedOrder
  rw [hr, hs]
  apply congrArg some
  by_cases heq : ofInt x = ofInt y
  · rw [if_pos heq, Int.compare_eq_eq.2 (hiff.2 heq)]
  · have hranks := mt hiff.1 heq
    rw [if_neg heq]
    rcases Int.lt_trichotomy x y with hlt | rfl | hgt
    · have hle := rank_le_of_le (Int.le_of_lt hlt) hr hs
      rw [Int.compare_eq_lt.2 hlt, Int.compare_eq_lt.2 (by omega)]
    · exact absurd rfl heq
    · have hle := rank_le_of_le (Int.le_of_lt hgt) hs hr
      rw [Int.compare_eq_gt.2 hgt, Int.compare_eq_gt.2 (by omega)]

/-- The order is that of the integers just where they are the same or stay apart. -/
theorem roundedOrder_eq_compare_iff (x y : Int) :
    roundedOrder x y = compare x y ↔ x = y ∨ ofInt x ≠ ofInt y := by
  unfold roundedOrder
  by_cases h : ofInt x = ofInt y
  · rw [if_pos h, eq_comm, Int.compare_eq_eq]
    simp [h]
  · simp [h]

/-! ## Integers that stay apart -/

theorem ofInt_inj {x y : Int} (hx : x.natAbs ≤ 2 ^ 53) (hy : y.natAbs ≤ 2 ^ 53) :
    ofInt x = ofInt y ↔ x = y := by
  refine ⟨fun h ↦ ?_, congrArg ofInt⟩
  rw [← truncate_ofInt hx, h, truncate_ofInt hy]

/-- What lies between two integers that round to the same double rounds to it too. -/
theorem ofInt_eq_of_between {x y z : Int} (hxz : x ≤ z) (hzy : z ≤ y) (h : ofInt x = ofInt y) :
    ofInt x = ofInt z := by
  obtain ⟨r, hr⟩ : ∃ r, (ofInt x).rank? = some r := ⟨_, rank?_ofInt x⟩
  obtain ⟨s, hs⟩ : ∃ s, (ofInt z).rank? = some s := ⟨_, rank?_ofInt z⟩
  have hlow : r ≤ s := rank_le_of_le hxz hr hs
  have hhigh : s ≤ r := rank_le_of_le hzy hs (h ▸ hr)
  exact (rank_eq_iff hr hs).1 (Int.le_antisymm hlow hhigh)

/-- Different integers stay apart if one of them is less than `2 ^ 53`. -/
theorem ofInt_ne_ofInt {x y : Int} (hne : x ≠ y) (hx : x.natAbs < 2 ^ 53) :
    ofInt x ≠ ofInt y := by
  intro heq
  -- otherwise all integers up to the other one would round to the same double
  obtain ⟨z, hz, hxz⟩ : ∃ z, z.natAbs ≤ 2 ^ 53 ∧ x ≠ z ∧ ofInt x = ofInt z := by
    by_cases hy : y.natAbs ≤ 2 ^ 53
    · exact ⟨y, hy, hne, heq⟩
    rcases Int.lt_or_le y 0 with hy0 | hy0
    · refine ⟨-2 ^ 53, Nat.le_refl _, by omega, ?_⟩
      rw [heq]
      exact ofInt_eq_of_between (by omega) (by omega) heq.symm
    · exact ⟨2 ^ 53, Nat.le_refl _, by omega, ofInt_eq_of_between (by omega) (by omega) heq⟩
  exact hxz.1 ((ofInt_inj (Nat.le_of_lt hx) hz).1 hxz.2)

/-- Up to `2 ^ 53` doubles are compared as the integers are. -/
theorem compare?_ofInt {x y : Int} (hx : x.natAbs ≤ 2 ^ 53) (hy : y.natAbs ≤ 2 ^ 53) :
    (ofInt x).compare? (ofInt y) = some (compare x y) := by
  rw [compare?_ofInt_eq_roundedOrder, (roundedOrder_eq_compare_iff x y).2]
  by_cases h : x = y
  · exact .inl h
  · exact .inr (mt (ofInt_inj hx hy).1 h)

end Double

end DocQuery
