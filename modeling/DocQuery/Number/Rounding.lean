import DocQuery.Number.Double

/-!
# Rounding to Doubles

`Double.ofRatio` is the double nearest to a quotient of natural numbers; a quotient halfway between
two doubles goes to the one with the even significand, and one beyond the greatest double goes to
infinity.  Every conversion into doubles of the library is made of it: integers have the denominator
one, and products and quotients of doubles are rounded quotients of their values.

With the quotient scaled by `2 ^ 1074` and `s` steps above the least exponent, the magnitude of the
result is `s * 2 ^ 52` plus the rounded significand, also where rounding carries into the exponent.
-/

namespace DocQuery

/-- The integer nearest to a quotient; halves go to the even neighbour. -/
def nearestEven (numerator denominator : Nat) : Nat :=
  let quotient := numerator / denominator
  let twice := 2 * (numerator % denominator)
  if twice < denominator then quotient
  else if denominator < twice then quotient + 1
  else if quotient % 2 = 0 then quotient
  else quotient + 1

/-- The nearest integer is at most half a unit away. -/
theorem nearestEven_near (numerator denominator : Nat) (h : 0 < denominator) :
    2 * (nearestEven numerator denominator * denominator) ≤ 2 * numerator + denominator ∧
      2 * numerator ≤ 2 * (nearestEven numerator denominator * denominator) + denominator := by
  have hdiv := Nat.div_add_mod numerator denominator
  have hmod := Nat.mod_lt numerator h
  rw [Nat.mul_comm] at hdiv
  have hsucc := Nat.add_mul (numerator / denominator) 1 denominator
  simp only [nearestEven]
  split
  · omega
  · split
    · omega
    · split <;> omega

namespace Double

/-- The exponent of the leading binary digit of a positive quotient. -/
def leadingExponent (numerator denominator : Nat) : Int :=
  let estimate : Int := (numerator.log2 : Int) - denominator.log2
  let isTooGreat := decide
    (numerator * Nat.pow 2 (-estimate).toNat < denominator * Nat.pow 2 estimate.toNat)
  if isTooGreat then estimate - 1 else estimate

/-- The double nearest to a quotient. -/
def ofRatio (negative : Bool) (numerator denominator : Nat) : Double :=
  if numerator = 0 then ofMagnitude negative 0
  else
    let steps := (leadingExponent numerator denominator + 1022).toNat
    ofMagnitude negative
      (steps * fractionCount +
        nearestEven (numerator * Nat.pow 2 1074) (denominator * Nat.pow 2 steps))

/-- The double nearest to an integer. -/
def ofInt (n : Int) : Double :=
  ofRatio (decide (n < 0)) n.natAbs 1

end Double

end DocQuery
