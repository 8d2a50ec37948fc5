import Mathlib.Algebra.Group.Nat.Defs
import DocQuery.Proofs.Number.Magnitude

/-!
# Integers as Doubles

With the leading digit of an integer at the place `e`, the significand of its double is the integer moved
to the fifty-third place and rounded, and the magnitude counts the `e + 1022` steps above the least
exponent.

Nothing is lost when an integer of at most `2 ^ 53` is rounded: the significand is the moved integer
itself, and the integer part of the double is the integer again.
-/

namespace DocQuery

/-! ## Rounding quotients -/

theorem nearestEven_mul (n : Nat) {denominator : Nat} (h : 0 < denominator) :
    nearestEven (n * denominator) denominator = n := by
  unfold nearestEven
  rw [Nat.mul_mod_left, Nat.mul_div_cancel n h]
  exact if_pos h

/-- Rounding depends on the quotient only. -/
theorem nearestEven_mul_mul {k : Nat} (n denominator : Nat) (hk : 0 < k) :
    nearestEven (n * k) (denominator * k) = nearestEven n denominator := by
  have hrest : 2 * (n * k % (denominator * k)) = 2 * (n % denominator) * k := by
    rw [Nat.mul_mod_mul_right, Nat.mul_assoc]
  simp only [nearestEven]
  rw [hrest, Nat.mul_div_mul_right _ _ hk]
  simp only [Nat.mul_lt_mul_right hk]

namespace Double

/-! ## Magnitudes -/

/-- The leading binary digit of an integer. -/
theorem leadingExponent_one {n : Nat} (h : n ≠ 0) : leadingExponent n 1 = n.log2 := by
  have hlog : Nat.log2 1 = 0 := by decide
  rcases leadingExponent_cases n 1 with ⟨he, -⟩ | ⟨-, hlt⟩
  · rw [he, hlog]
    omega
  · rw [hlog, Nat.pow_eq, Nat.pow_eq, Nat.zero_sub, Nat.sub_zero, Nat.pow_zero, Nat.mul_one,
      Nat.one_mul] at hlt
    exact absurd (Nat.log2_self_le h) (Nat.not_le.2 hlt)

/-- The significand of an integer as a double: the integer, moved to the fifty-third place and rounded. -/
def roundedSignificand (n : Nat) : Nat := nearestEven (n * 2 ^ 52) (2 ^ n.log2)

theorem magnitude_ofRatio_one {n : Nat} (hn : n ≠ 0) (negative : Bool) :
    (ofRatio negative n 1).magnitude =
      min ((n.log2 + 1022) * fractionCount + roundedSignificand n) infiniteMagnitude := by
  have hsteps : (leadingExponent n 1 + 1022).toNat = n.log2 + 1022 := by
    rw [leadingExponent_one hn]
    omega
  -- the powers stay variables, so that they are not computed
  have hnearest (p q : Nat) (hq : q = p + 52) :
      nearestEven (n * Nat.pow 2 q) (1 * Nat.pow 2 (n.log2 + p)) = roundedSignificand n := by
    rw [hq, Nat.pow_eq, Nat.pow_eq, Nat.one_mul, Nat.add_comm p, Nat.pow_add, Nat.pow_add,
      ← Nat.mul_assoc, nearestEven_mul_mul _ _ (Nat.two_pow_pos p)]
    rfl
  unfold ofRatio
  rw [if_neg hn, hsteps]
  generalize hplaces : 1074 = q
  dsimp only
  rw [hnearest 1022 q hplaces.symm]
  rfl

/-! ## Exact significands -/

/-- The significand of the double that an integer is: the integer, moved to the fifty-third place. -/
structure IsSignificandOf (n m : Nat) : Prop where
  ne_zero : n ≠ 0
  moved : n * 2 ^ 52 = m * 2 ^ n.log2

section
variable {n m : Nat} (h : IsSignificandOf n m)
include h

theorem IsSignificandOf.bounds : fractionCount ≤ m ∧ m < 2 * fractionCount := by
  have hlow : 2 ^ n.log2 * 2 ^ 52 ≤ m * 2 ^ n.log2 := by
    rw [← h.moved]
    exact Nat.mul_le_mul_right _ (Nat.log2_self_le h.ne_zero)
  have hhigh : m * 2 ^ n.log2 < 2 ^ (n.log2 + 1) * 2 ^ 52 := by
    rw [← h.moved]
    exact Nat.mul_lt_mul_of_pos_right Nat.lt_log2_self (Nat.two_pow_pos _)
  rw [Nat.mul_comm] at hlow
  rw [Nat.pow_succ, Nat.mul_assoc, Nat.mul_comm] at hhigh
  exact ⟨Nat.le_of_mul_le_mul_right hlow (Nat.two_pow_pos _), Nat.lt_of_mul_lt_mul_left hhigh⟩

theorem IsSignificandOf.roundedSignificand_eq : roundedSignificand n = m := by
  unfold roundedSignificand
  rw [h.moved, nearestEven_mul m (Nat.two_pow_pos _)]

theorem IsSignificandOf.magnitude_eq (hlog : n.log2 ≤ 53) (negative : Bool) :
    (ofRatio negative n 1).magnitude = (n.log2 + 1022) * fractionCount + m := by
  obtain ⟨-, hhigh⟩ := h.bounds
  have hfinite : (n.log2 + 1022) * fractionCount + m ≤ infiniteMagnitude := by
    have hmul : (n.log2 + 1022) * fractionCount ≤ 1075 * fractionCount :=
      Nat.mul_le_mul_right _ (by omega)
    have hinfinite : 1077 * fractionCount ≤ infiniteMagnitude := by decide
    omega
  rw [magnitude_ofRatio_one h.ne_zero, h.roundedSignificand_eq]
  exact Nat.min_eq_left hfinite

end

/-- Up to `2 ^ 53` every integer has a significand. -/
theorem exists_isSignificandOf {n : Nat} (hn : n ≠ 0) (hle : n ≤ 2 ^ 53) :
    ∃ m, IsSignificandOf n m := by
  by_cases hlt : n < 2 ^ 53
  · have hlog : n.log2 < 53 := (Nat.log2_lt hn).2 hlt
    refine ⟨n * 2 ^ (52 - n.log2), hn, ?_⟩
    rw [Nat.mul_assoc, ← Nat.pow_add, Nat.sub_add_cancel (Nat.le_of_lt_succ hlog)]
  · have hmax : n = 2 ^ 53 := Nat.le_antisymm hle (Nat.le_of_not_lt hlt)
    subst hmax
    exact ⟨2 ^ 52, hn, by decide⟩

theorem log2_le_of_le {n : Nat} (hn : n ≠ 0) (hle : n ≤ 2 ^ 53) : n.log2 ≤ 53 := by
  have hlt : n < 2 ^ 54 := Nat.lt_of_le_of_lt hle (by decide)
  exact Nat.le_of_lt_succ ((Nat.log2_lt hn).2 hlt)

/-! ## The integer part -/

/-- A magnitude of so many steps above the least exponent, with a significand. -/
theorem scale_eq_and_significand_eq {x : Double} {steps m : Nat}
    (h : x.magnitude = steps * fractionCount + m) (hlow : fractionCount ≤ m)
    (hhigh : m < 2 * fractionCount) : x.scale = steps ∧ x.significand = m := by
  have hpos : 0 < fractionCount := by decide
  obtain ⟨fraction, rfl⟩ := Nat.exists_eq_add_of_le hlow
  have hfraction : fraction < fractionCount := by omega
  have hmagnitude : x.magnitude = fraction + fractionCount * (steps + 1) := by
    rw [h, Nat.mul_succ, Nat.mul_comm]
    omega
  constructor
  · unfold scale
    rw [hmagnitude, Nat.add_mul_div_left _ _ hpos, Nat.div_eq_of_lt hfraction, Nat.zero_add]
    rfl
  · unfold significand
    rw [if_neg (by omega), hmagnitude, Nat.add_mul_mod_self_left, Nat.mod_eq_of_lt hfraction,
      Nat.add_comm]

theorem IsSignificandOf.absoluteRatio_eq {n m : Nat} (h : IsSignificandOf n m)
    (hlog : n.log2 ≤ 53) (negative : Bool) :
    let x := ofRatio negative n 1
    x.absoluteRatio.1 = n * x.absoluteRatio.2 := by
  intro x
  obtain ⟨hlow, hhigh⟩ := h.bounds
  obtain ⟨hscale, hsignificand⟩ :=
    scale_eq_and_significand_eq (h.magnitude_eq hlog negative) hlow hhigh
  have hmoved := h.moved
  have hpos : 0 < 2 ^ n.log2 := Nat.two_pow_pos _
  unfold absoluteRatio
  simp only [Nat.pow_eq]
  rw [hscale, hsignificand]
  split
  · show m = n * 2 ^ (1074 - (n.log2 + 1022))
    have hplaces : 1074 - (n.log2 + 1022) + n.log2 = 52 := by omega
    apply Nat.eq_of_mul_eq_mul_right hpos
    rw [Nat.mul_assoc, ← Nat.pow_add, hplaces, hmoved]
  · show m * 2 ^ (n.log2 + 1022 - 1074) = n * 1
    have hplaces : n.log2 = n.log2 + 1022 - 1074 + 52 := by omega
    apply Nat.eq_of_mul_eq_mul_right (Nat.two_pow_pos 52)
    rw [Nat.mul_one, Nat.mul_assoc, ← Nat.pow_add, ← hplaces, hmoved]

theorem negative_ofInt (n : Int) : (ofInt n).negative = decide (n < 0) :=
  negative_ofRatio _ _ _

/-- An integer of at most `2 ^ 53` is the integer part of its double. -/
theorem truncate_ofInt {n : Int} (h : n.natAbs ≤ 2 ^ 53) : (ofInt n).truncate = n := by
  by_cases hn : n.natAbs = 0
  · rw [Int.natAbs_eq_zero.1 hn]
    decide +kernel
  obtain ⟨m, hm⟩ := exists_isSignificandOf hn h
  have hratio : (ofInt n).absoluteRatio.1 = n.natAbs * (ofInt n).absoluteRatio.2 :=
    hm.absoluteRatio_eq (log2_le_of_le hn h) _
  have hpos : 0 < (ofInt n).absoluteRatio.2 := Nat.pos_of_ne_zero (absoluteRatio_snd_ne_zero _)
  unfold truncate
  rw [hratio, Nat.mul_div_cancel _ hpos, negative_ofInt]
  by_cases hlt : n < 0
  · rw [if_pos (decide_eq_true hlt)]
    omega
  · rw [if_neg (by simpa using hlt)]
    omega

theorem isFinite_ofInt {n : Int} (h : n.natAbs ≤ 2 ^ 53) : (ofInt n).isFinite = true := by
  have hlt : n.natAbs < 1 * Nat.pow 2 54 := Nat.lt_of_le_of_lt h (by decide)
  exact isFinite_of_magnitude_le (by decide) (magnitude_ofRatio_le _ Nat.one_ne_zero hlt)

theorem saturate_ofInt {n : Int} (h : n.natAbs ≤ 2 ^ 53) : (ofInt n).saturate.toInt = n := by
  unfold saturate
  rw [isNaN_ofInt, if_neg Bool.false_ne_true, isFinite_ofInt h, if_pos rfl, truncate_ofInt h]
  rw [if_neg (by omega), if_neg (by omega)]
  exact Int64.toInt_ofInt_of_le (by omega) (by omega)

end Double

end DocQuery
