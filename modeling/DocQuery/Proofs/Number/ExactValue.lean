import DocQuery.Proofs.Number.Integer

/-!
# The Values of Doubles

The value of a finite double is its significand, moved by a power of two.  Rounded to a double, a quotient
of this form gives the double itself again: its leading digit stands where the steps above the least
exponent say, so that nothing of the significand is cut off.  Hence finite doubles of the same value agree
in all but the sign of a zero, and a product with one is the other factor.

The quotient may be written in different ways, since a common power of two can be taken out of it.
-/

namespace DocQuery.Double

/-! ## Common powers of two -/

theorem log2_mul_two_pow {n : Nat} (hn : n ≠ 0) (k : Nat) : (n * 2 ^ k).log2 = n.log2 + k := by
  have hpos : 0 < 2 ^ k := Nat.two_pow_pos k
  refine (Nat.log2_eq_iff (Nat.mul_ne_zero hn (Nat.ne_of_gt hpos))).2 ⟨?_, ?_⟩
  · rw [Nat.pow_add]
    exact Nat.mul_le_mul_right _ (Nat.log2_self_le hn)
  · rw [Nat.add_right_comm, Nat.pow_add]
    exact Nat.mul_lt_mul_of_pos_right Nat.lt_log2_self hpos

section
variable {numerator denominator : Nat}

theorem leadingExponent_mul_two_pow (hnumerator : numerator ≠ 0) (hdenominator : denominator ≠ 0)
    (k : Nat) :
    leadingExponent (numerator * 2 ^ k) (denominator * 2 ^ k) =
      leadingExponent numerator denominator := by
  have hestimate : (((numerator * 2 ^ k).log2 : Nat) : Int) - ((denominator * 2 ^ k).log2 : Nat) =
      (numerator.log2 : Int) - denominator.log2 := by
    rw [log2_mul_two_pow hnumerator, log2_mul_two_pow hdenominator]
    omega
  simp only [leadingExponent]
  rw [hestimate, Nat.mul_right_comm numerator, Nat.mul_right_comm denominator]
  simp only [Nat.mul_lt_mul_right (Nat.two_pow_pos k)]

/-- A common power of two makes no difference to a rounded quotient. -/
theorem ofRatio_mul_two_pow (negative : Bool) (hdenominator : denominator ≠ 0) (k : Nat) :
    ofRatio negative (numerator * 2 ^ k) (denominator * 2 ^ k) =
      ofRatio negative numerator denominator := by
  have hpos : 0 < 2 ^ k := Nat.two_pow_pos k
  by_cases hnumerator : numerator = 0
  · rw [hnumerator, Nat.zero_mul, ofRatio, ofRatio, if_pos rfl, if_pos rfl]
  unfold ofRatio
  rw [if_neg hnumerator, if_neg (Nat.mul_ne_zero hnumerator (Nat.ne_of_gt hpos)),
    leadingExponent_mul_two_pow hnumerator hdenominator]
  generalize 1074 = q
  dsimp only
  rw [Nat.mul_right_comm numerator, Nat.mul_right_comm denominator, nearestEven_mul_mul _ _ hpos]

/-- Over a power of two the leading digit of a quotient is that of the numerator, moved. -/
theorem leadingExponent_two_pow (hnumerator : numerator ≠ 0) (k : Nat) :
    leadingExponent numerator (2 ^ k) = (numerator.log2 : Int) - k := by
  have hlog : (2 ^ k).log2 = k := Nat.log2_two_pow
  rcases leadingExponent_cases numerator (2 ^ k) with ⟨he, -⟩ | ⟨-, hlt⟩
  · rw [he, hlog]
  · -- both sides would have their leading digits at the same place
    rw [hlog, Nat.pow_eq, Nat.pow_eq, ← Nat.pow_add] at hlt
    have hle : 2 ^ (k + (numerator.log2 - k)) ≤ numerator * 2 ^ (k - numerator.log2) := by
      calc 2 ^ (k + (numerator.log2 - k)) = 2 ^ numerator.log2 * 2 ^ (k - numerator.log2) := by
            rw [← Nat.pow_add]
            congr 1
            omega
        _ ≤ numerator * 2 ^ (k - numerator.log2) :=
            Nat.mul_le_mul_right _ (Nat.log2_self_le hnumerator)
    exact absurd hlt (Nat.not_lt.2 hle)

end

/-! ## Significands and steps -/

theorem magnitude_eq (x : Double) : x.magnitude = x.scale * fractionCount + x.significand := by
  have hdiv := Nat.div_add_mod x.magnitude fractionCount
  unfold scale significand
  by_cases h : x.magnitude < fractionCount
  · rw [if_pos h, Nat.div_eq_of_lt h]
    omega
  · have hpos : 1 ≤ x.magnitude / fractionCount :=
      (Nat.one_le_div_iff (by decide)).2 (Nat.le_of_not_lt h)
    have hmul : (x.magnitude / fractionCount - 1) * fractionCount + fractionCount =
        fractionCount * (x.magnitude / fractionCount) := by
      rw [← Nat.succ_mul, Nat.succ_eq_add_one, Nat.sub_add_cancel hpos, Nat.mul_comm]
    rw [if_neg h]
    omega

/-- A significand that is not of full length stands at the least exponent. -/
theorem scale_eq_zero_of_significand_lt {x : Double} (h : x.significand < fractionCount) :
    x.scale = 0 := by
  unfold significand at h
  split at h
  · rename_i hlt
    rw [scale, Nat.div_eq_of_lt hlt]
  · omega

/-- The leading digit of a significand stands at the fifty-third place, or below it at the least
exponent. -/
theorem toNat_log2_significand {x : Double} (h : x.significand ≠ 0) :
    ((x.significand.log2 : Int) + x.scale - 52).toNat = x.scale := by
  have hcount : fractionCount = 2 ^ 52 := rfl
  have hlt : x.significand.log2 < 53 := (Nat.log2_lt h).2 x.significand_lt
  by_cases hfull : x.significand < fractionCount
  · have hlow : x.significand.log2 < 52 := (Nat.log2_lt h).2 (hcount ▸ hfull)
    rw [scale_eq_zero_of_significand_lt hfull]
    omega
  · have hhigh : 52 ≤ x.significand.log2 := (Nat.le_log2 h).2 (hcount ▸ Nat.le_of_not_lt hfull)
    omega

/-- The value of a double is its significand, moved by so many places as the steps are away from the one
at which it is a whole number. -/
theorem exists_absoluteRatio_eq (x : Double) :
    ∃ up down, x.absoluteRatio = (x.significand * 2 ^ up, 2 ^ down) ∧
      x.scale + down = 1074 + up := by
  unfold absoluteRatio
  split
  · exact ⟨0, 1074 - x.scale, by rw [Nat.pow_zero, Nat.mul_one, Nat.pow_eq], by omega⟩
  · exact ⟨x.scale - 1074, 0, by rw [Nat.pow_zero, Nat.pow_eq], by omega⟩

/-! ## Rounding a value -/

/-- The leading digit of a value stands where the steps above the least exponent say. -/
theorem toNat_leadingExponent_absoluteRatio {x : Double} (h : x.significand ≠ 0) :
    (leadingExponent x.absoluteRatio.1 x.absoluteRatio.2 + 1022).toNat = x.scale := by
  obtain ⟨up, down, hratio, hplaces⟩ := x.exists_absoluteRatio_eq
  have hmoved : x.significand * 2 ^ up ≠ 0 :=
    Nat.mul_ne_zero h (Nat.ne_of_gt (Nat.two_pow_pos up))
  rw [hratio, leadingExponent_two_pow hmoved, log2_mul_two_pow h]
  calc (((x.significand.log2 + up : Nat) : Int) - down + 1022).toNat
      = ((x.significand.log2 : Int) + x.scale - 52).toNat := by
        congr 1
        omega
    _ = x.scale := toNat_log2_significand h

theorem magnitude_ofRatio_absoluteRatio {x : Double} (h : x.isFinite = true) (negative : Bool) :
    (ofRatio negative x.absoluteRatio.1 x.absoluteRatio.2).magnitude = x.magnitude := by
  obtain ⟨up, down, hratio, hplaces⟩ := x.exists_absoluteRatio_eq
  have hmagnitude := x.magnitude_eq
  by_cases hzero : x.significand = 0
  · have hscale : x.scale = 0 := scale_eq_zero_of_significand_lt (by rw [hzero]; decide)
    rw [hratio, hmagnitude, hzero, hscale, Nat.zero_mul]
    rfl
  · have hmoved : x.significand * 2 ^ up ≠ 0 :=
      Nat.mul_ne_zero hzero (Nat.ne_of_gt (Nat.two_pow_pos up))
    have hsteps := toNat_leadingExponent_absoluteRatio hzero
    -- the power stays a variable, so that it is not computed
    have hnearest (q : Nat) (hq : x.scale + down = q + up) :
        nearestEven (x.significand * 2 ^ up * Nat.pow 2 q) (2 ^ down * Nat.pow 2 x.scale) =
          x.significand := by
      rw [Nat.pow_eq, Nat.pow_eq, Nat.mul_assoc, ← Nat.pow_add, ← Nat.pow_add, Nat.add_comm down, hq,
        Nat.add_comm up]
      exact nearestEven_mul _ (Nat.two_pow_pos _)
    have hfinite : x.magnitude < infiniteMagnitude := of_decide_eq_true h
    rw [hratio] at hsteps ⊢
    unfold ofRatio
    rw [if_neg hmoved, hsteps]
    generalize 1074 = q at hplaces ⊢
    dsimp only
    rw [hnearest q hplaces, ← hmagnitude]
    exact Nat.min_eq_left (Nat.le_of_lt hfinite)

/-- A finite double is the double nearest to its own value. -/
theorem ofRatio_absoluteRatio {x : Double} (h : x.isFinite = true) :
    ofRatio x.negative x.absoluteRatio.1 x.absoluteRatio.2 = x :=
  ext (negative_ofRatio _ _ _) (magnitude_ofRatio_absoluteRatio h _)

/-- Finite doubles of the same value without sign have the same magnitude. -/
theorem magnitude_eq_of_absoluteRatio {x y : Double} (hx : x.isFinite = true)
    (hy : y.isFinite = true)
    (h : x.absoluteRatio.1 * y.absoluteRatio.2 = y.absoluteRatio.1 * x.absoluteRatio.2) :
    x.magnitude = y.magnitude := by
  obtain ⟨_, i, hxratio, -⟩ := x.exists_absoluteRatio_eq
  obtain ⟨_, j, hyratio, -⟩ := y.exists_absoluteRatio_eq
  have hi : x.absoluteRatio.2 = 2 ^ i := by rw [hxratio]
  have hj : y.absoluteRatio.2 = 2 ^ j := by rw [hyratio]
  calc x.magnitude
      = (ofRatio false x.absoluteRatio.1 x.absoluteRatio.2).magnitude :=
        (magnitude_ofRatio_absoluteRatio hx false).symm
    _ = (ofRatio false (x.absoluteRatio.1 * 2 ^ j) (2 ^ i * 2 ^ j)).magnitude := by
        rw [← hi, ofRatio_mul_two_pow false x.absoluteRatio_snd_ne_zero]
    _ = (ofRatio false (y.absoluteRatio.1 * 2 ^ i) (2 ^ j * 2 ^ i)).magnitude := by
        rw [← hj, h, hi, Nat.mul_comm (2 ^ i)]
    _ = (ofRatio false y.absoluteRatio.1 y.absoluteRatio.2).magnitude := by
        rw [← hj, ofRatio_mul_two_pow false y.absoluteRatio_snd_ne_zero]
    _ = y.magnitude := magnitude_ofRatio_absoluteRatio hy false

/-- The product of a finite double and one is the double. -/
theorem scale10_zero {x : Double} (h : x.isFinite = true) : x.scale10 0 = x := by
  have hone : (tenTo 0).absoluteRatio = (2 ^ 52, 2 ^ 52) := by decide +kernel
  have hproduct : x.scale10 0 = x.product (tenTo 0) := by
    unfold scale10
    rw [if_neg (by decide), if_pos (by decide)]
    rfl
  have hnegative : (x.negative != (tenTo 0).negative) = x.negative := Bool.bne_false _
  rw [hproduct, product, hone, hnegative, ofRatio_mul_two_pow _ x.absoluteRatio_snd_ne_zero,
    ofRatio_absoluteRatio h]

end DocQuery.Double
