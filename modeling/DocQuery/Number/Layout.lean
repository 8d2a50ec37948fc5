import DocQuery.Number.Shortest

/-!
# Texts of Doubles

The plain text of a double never has an exponent and drops the point of a whole number: `2`,
`0.00001`, `-0`.  It is what a number contributes to searched text and to messages.
-/

namespace DocQuery

namespace Decimal

/-- The digits of the decimal with a point and as many zeros as its place needs. -/
def positional (d : Decimal) : String :=
  let digits := d.digits
  if 0 ≤ d.exponent then String.ofList (digits ++ List.replicate d.exponent.toNat '0')
  else
    let fraction := (-d.exponent).toNat
    let padded := List.replicate (fraction + 1 - digits.length) '0' ++ digits
    let whole := padded.length - fraction
    String.ofList (padded.take whole ++ '.' :: padded.drop whole)

end Decimal

namespace Double

/-- The sign of a text. -/
def signText (x : Double) : String := if x.negative then "-" else ""

/-- The plain text of a double: positional, without a point on whole numbers.  Of two shortest
decimals that are equally near the greater one is written. -/
def plainText (x : Double) : String :=
  if x.isNaN then "NaN"
  else x.signText ++
    if !x.isFinite then "inf"
    else if x.magnitude = 0 then "0"
    else (x.shortest .up).positional

end Double

end DocQuery
