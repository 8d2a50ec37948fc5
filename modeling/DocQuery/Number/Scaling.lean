import DocQuery.Number.Rounding

/-!
# Scaling by Powers of Ten

`Double.scale10` moves the decimal point of a double.  It multiplies with the double nearest to a
power of ten, or divides by it, and rounds once more.  A result can therefore lie a few units beside
the nearest double, and one beyond the greatest double is infinite.

Powers beyond `10 ^ 308` are no doubles.  Multiplied with them everything but zero is infinite; a
division by them is a row of divisions by `10 ^ 308` and one by what remains.
-/

namespace DocQuery.Double

/-- The product of two finite doubles, rounded. -/
def product (x y : Double) : Double :=
  ofRatio (x.negative != y.negative) (x.absoluteRatio.1 * y.absoluteRatio.1)
    (x.absoluteRatio.2 * y.absoluteRatio.2)

/-- The quotient of two finite doubles, the second of them not zero, rounded. -/
def quotient (x y : Double) : Double :=
  ofRatio (x.negative != y.negative) (x.absoluteRatio.1 * y.absoluteRatio.2)
    (x.absoluteRatio.2 * y.absoluteRatio.1)

/-- The greatest power of ten that is a finite double has this exponent. -/
def greatestTen : Nat := 308

/-- The double nearest to a power of ten. -/
def tenTo (exponent : Nat) : Double := ofRatio false (Nat.pow 10 exponent) 1

/-- A double divided so many times by the greatest power of ten; zero stays zero. -/
def divideRepeatedly : Nat → Double → Double
  | 0, x => x
  | times + 1, x =>
    if x.magnitude = 0 then x else divideRepeatedly times (x.quotient (tenTo greatestTen))

/-- A finite double multiplied with a power of ten. -/
def scale10 (x : Double) (exponent : Int) : Double :=
  if exponent < 0 then
    let below := exponent.natAbs - 1
    (divideRepeatedly (below / greatestTen) x).quotient (tenTo (below % greatestTen + 1))
  else if exponent.toNat ≤ greatestTen then x.product (tenTo exponent.toNat)
  else if x.magnitude = 0 then x
  else ofMagnitude x.negative infiniteMagnitude

end DocQuery.Double
