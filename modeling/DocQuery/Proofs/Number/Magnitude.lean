import DocQuery.Number.Scaling

/-!
# Magnitudes of Rounded Quotients

A quotient below a power of two is rounded to a double that is not much greater.  `magnitude_ofRatio_le`
states this with the magnitude, from which finiteness can be read off.
-/

namespace DocQuery

theorem nearestEven_le {numerator denominator bound : Nat} (hpos : 0 < denominator)
    (h : numerator ≤ bound * denominator) : nearestEven numerator denominator ≤ bound := by
  obtain ⟨hnear, -⟩ := nearestEven_near numerator denominator hpos
  apply Nat.le_of_lt_succ
  apply Nat.lt_of_mul_lt_mul_right (a := denominator)
  rw [Nat.succ_mul]
  omega

namespace Double

/-- A number that is rounded to a double is not lost. -/
theorem isNaN_ofMagnitude (negative : Bool) (magnitude : Nat) :
    (ofMagnitude negative magnitude).isNaN = false :=
  decide_eq_false (Nat.not_lt.2 (Nat.min_le_right _ _))

theorem isNaN_ofInt (n : Int) : (ofInt n).isNaN = false := by
  unfold ofInt ofRatio
  split
  · exact isNaN_ofMagnitude _ _
  · exact isNaN_ofMagnitude _ _

@[simp]
theorem negative_ofRatio (negative : Bool) (numerator denominator : Nat) :
    (ofRatio negative numerator denominator).negative = negative := by
  unfold ofRatio
  split <;> rfl

theorem ext {x y : Double} (hnegative : x.negative = y.negative)
    (hmagnitude : x.magnitude = y.magnitude) : x = y := by
  cases x
  cases y
  cases hnegative
  cases hmagnitude
  rfl

section
variable {numerator denominator : Nat}

/-- The leading digit stands where the lengths of numerator and denominator say, or one place below. -/
theorem leadingExponent_cases (numerator denominator : Nat) :
    let a := numerator.log2
    let b := denominator.log2
    (leadingExponent numerator denominator = (a : Int) - b ∧
        denominator * Nat.pow 2 (a - b) ≤ numerator * Nat.pow 2 (b - a)) ∨
      (leadingExponent numerator denominator = (a : Int) - b - 1 ∧
        numerator * Nat.pow 2 (b - a) < denominator * Nat.pow 2 (a - b)) := by
  intro a b
  have hup : ((a : Int) - b).toNat = a - b := by omega
  have hdown : (-((a : Int) - b)).toNat = b - a := by omega
  unfold leadingExponent
  simp only [decide_eq_true_eq]
  rw [hup, hdown]
  by_cases h : numerator * Nat.pow 2 (b - a) < denominator * Nat.pow 2 (a - b)
  · rw [if_pos h]
    exact .inr ⟨rfl, h⟩
  · rw [if_neg h]
    exact .inl ⟨rfl, Nat.le_of_not_lt h⟩

/-- The leading digit of a quotient stands below every power of two that the quotient is below. -/
theorem leadingExponent_lt (hnumerator : numerator ≠ 0) {k : Nat}
    (h : numerator < denominator * Nat.pow 2 k) :
    leadingExponent numerator denominator < k := by
  rw [Nat.pow_eq] at h
  let a := numerator.log2
  let b := denominator.log2
  apply Int.lt_of_not_ge
  intro hk
  rcases leadingExponent_cases numerator denominator with ⟨he, hle⟩ | ⟨he, -⟩
  · have hdown : b - a = 0 := by omega
    have hup : 2 ^ k ≤ 2 ^ (a - b) := Nat.pow_le_pow_right (by decide) (by omega)
    have hcontra : denominator * 2 ^ k ≤ numerator := by
      calc
        denominator * 2 ^ k ≤ denominator * 2 ^ (a - b) := Nat.mul_le_mul_left _ hup
        _ ≤ numerator * 2 ^ (b - a) := hle
        _ = numerator := by rw [hdown, Nat.pow_zero, Nat.mul_one]
    omega
  · have hcontra : denominator * 2 ^ k ≤ numerator := by
      calc
        denominator * 2 ^ k ≤ 2 ^ (b + 1) * 2 ^ k :=
          Nat.mul_le_mul_right _ (Nat.le_of_lt Nat.lt_log2_self)
        _ = 2 ^ (b + 1 + k) := (Nat.pow_add ..).symm
        _ ≤ 2 ^ a := Nat.pow_le_pow_right (by decide) (by omega)
        _ ≤ numerator := Nat.log2_self_le hnumerator
    omega

/-- Scaled so that its leading digit stands at the fifty-third place or below, a quotient is at most
`2 ^ 53`. -/
theorem scaled_le (hdenominator : denominator ≠ 0) {p q : Nat} (hq : q = p + 52) :
    numerator * Nat.pow 2 q ≤
      2 * fractionCount *
        (denominator * Nat.pow 2 (leadingExponent numerator denominator + p).toNat) := by
  let a := numerator.log2
  let b := denominator.log2
  let steps := (leadingExponent numerator denominator + p).toNat
  have hcount : 2 * fractionCount = 2 ^ 53 := rfl
  have hassoc : 2 ^ 53 * (denominator * 2 ^ steps) = denominator * 2 ^ (steps + 53) := by
    rw [Nat.pow_add, Nat.mul_comm, Nat.mul_assoc]
  rw [Nat.pow_eq, Nat.pow_eq, hcount, hassoc]
  rcases leadingExponent_cases numerator denominator with ⟨he, -⟩ | ⟨he, hlt⟩
  · calc
      numerator * 2 ^ q ≤ 2 ^ (a + 1) * 2 ^ q :=
        Nat.mul_le_mul_right _ (Nat.le_of_lt Nat.lt_log2_self)
      _ = 2 ^ (a + 1 + q) := (Nat.pow_add ..).symm
      _ ≤ 2 ^ (b + (steps + 53)) := Nat.pow_le_pow_right (by decide) (by omega)
      _ = 2 ^ b * 2 ^ (steps + 53) := Nat.pow_add ..
      _ ≤ denominator * 2 ^ (steps + 53) := Nat.mul_le_mul_right _ (Nat.log2_self_le hdenominator)
  · -- The comparison has a power of two on one of its sides; the other side takes it over.
    apply Nat.le_of_mul_le_mul_right (c := 2 ^ (a - b)) ?_ (Nat.two_pow_pos _)
    calc
      numerator * 2 ^ q * 2 ^ (a - b) = numerator * 2 ^ (q + (a - b)) := by
        rw [Nat.mul_assoc, ← Nat.pow_add]
      _ ≤ numerator * 2 ^ (b - a + (steps + 53)) :=
        Nat.mul_le_mul_left _ (Nat.pow_le_pow_right (by decide) (by omega))
      _ = numerator * 2 ^ (b - a) * 2 ^ (steps + 53) := by rw [Nat.pow_add, Nat.mul_assoc]
      _ ≤ denominator * 2 ^ (a - b) * 2 ^ (steps + 53) :=
        Nat.mul_le_mul_right _ (Nat.le_of_lt hlt)
      _ = denominator * 2 ^ (steps + 53) * 2 ^ (a - b) := Nat.mul_right_comm ..

end

theorem magnitude_ofRatio_le (negative : Bool) {numerator denominator k : Nat}
    (hdenominator : denominator ≠ 0) (h : numerator < denominator * Nat.pow 2 k) :
    (ofRatio negative numerator denominator).magnitude ≤ (k + 1023) * fractionCount := by
  by_cases hnumerator : numerator = 0
  · subst hnumerator
    exact Nat.zero_le _
  · let steps := (leadingExponent numerator denominator + 1022).toNat
    have hlead := leadingExponent_lt hnumerator h
    have hsteps : steps ≤ k + 1021 := by omega
    have hpos : 0 < denominator * Nat.pow 2 steps :=
      Nat.mul_pos (Nat.pos_of_ne_zero hdenominator) (Nat.two_pow_pos _)
    have hnearest (q : Nat) (hq : q = 1022 + 52) :
        nearestEven (numerator * Nat.pow 2 q) (denominator * Nat.pow 2 steps) ≤
          2 * fractionCount :=
      nearestEven_le hpos (scaled_le hdenominator hq)
    have hmagnitude : (ofRatio negative numerator denominator).magnitude ≤
        steps * fractionCount + 2 * fractionCount := by
      unfold ofRatio
      rw [if_neg hnumerator]
      generalize hplaces : 1074 = q
      exact Nat.le_trans (Nat.min_le_left _ _) (Nat.add_le_add_left (hnearest q hplaces.symm) _)
    have hmul : steps * fractionCount ≤ (k + 1021) * fractionCount := Nat.mul_le_mul_right _ hsteps
    calc
      (ofRatio negative numerator denominator).magnitude ≤
          steps * fractionCount + 2 * fractionCount := hmagnitude
      _ ≤ (k + 1021) * fractionCount + 2 * fractionCount := Nat.add_le_add_right hmul _
      _ = (k + 1023) * fractionCount := (Nat.add_mul ..).symm

theorem isFinite_of_magnitude_le {x : Double} {k : Nat} (hk : k ≤ 1023)
    (h : x.magnitude ≤ (k + 1023) * fractionCount) : x.isFinite = true := by
  have hmul : (k + 1023) * fractionCount ≤ 2046 * fractionCount := Nat.mul_le_mul_right _ (by omega)
  have hinfinite : 2046 * fractionCount < infiniteMagnitude := by decide
  unfold isFinite
  rw [decide_eq_true_eq]
  omega

/-! ## Values -/

theorem significand_lt (x : Double) : x.significand < 2 * fractionCount := by
  have hmod := Nat.mod_lt x.magnitude (show 0 < fractionCount by decide)
  unfold significand
  split <;> omega

theorem absoluteRatio_snd_ne_zero (x : Double) : x.absoluteRatio.2 ≠ 0 := by
  unfold absoluteRatio
  simp only [Nat.pow_eq]
  split
  · exact Nat.ne_of_gt (Nat.two_pow_pos _)
  · exact Nat.one_ne_zero

end Double

end DocQuery
