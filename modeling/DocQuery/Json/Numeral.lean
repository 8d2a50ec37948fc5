import DocQuery.Number.Scaling
import DocQuery.Number.Shortest
import DocQuery.Text.Digits

/-!
# JSON Numerals

A numeral as it is written: a sign, a whole part, fraction digits and an exponent.  Without fraction
and exponent it names an integer when it fits sixty-four bits, and `-0` is the negative zero.

Every other numeral names a double.  Its first digits, as many as stay below `2 ^ 64`, make a whole
number, the significand.  Digits of the whole part that are left over count as places, and digits of
the fraction that are left over do not count at all.  The double nearest to the significand is then
scaled by the power of ten that the places and the exponent give.

The numeral of a double has the fewest digits that read back, of two equally near decimals the one
with an even last digit.  It always has a fraction or an exponent, and it has an exponent exactly
when the leading digit stands below `10 ^ -5` or above `10 ^ 15`.
-/

namespace DocQuery

/-- A JSON number as it is written. -/
structure Numeral where
  negative : Bool
  whole : Nat
  /-- The digits after the point, none if there is no point. -/
  fraction : List (Fin 10)
  /-- The exponent, if one is written. -/
  exponent : Option Int
deriving DecidableEq

namespace Numeral

/-- A digit as a character. -/
def digitChar (d : Fin 10) : Char := Char.ofNat ('0'.toNat + d)

/-- The decimal digit that a character is, zero for all other characters. -/
def digitOf (c : Char) : Fin 10 :=
  ⟨(c.toNat - '0'.toNat) % 10, Nat.mod_lt _ (by decide)⟩

/-- Whether neither fraction nor exponent is written. -/
def isInteger (n : Numeral) : Bool := n.fraction.isEmpty && n.exponent.isNone

/-- The integer that a numeral names, if it is written as one and fits sixty-four bits. -/
def int? (n : Numeral) : Option Int64 :=
  let value : Int := if n.negative then -(n.whole : Int) else n.whole
  if n.isInteger && !(n.negative && n.whole = 0) &&
      -0x8000000000000000 ≤ value && value < 0x8000000000000000 then
    some (Int64.ofInt value)
  else none

/-- The least number that is no significand, `2 ^ 64`. -/
def significandLimit : Nat := 0x10000000000000000

/-- The first digits of a whole part, as many as stay below the limit, and the number of digits that
are left over. -/
def leadingDigits (whole : Nat) : Nat × Nat :=
  let excess := (Nat.toDigits 10 whole).length - 20
  let leading := whole / Nat.pow 10 excess
  if leading < significandLimit then (leading, excess) else (leading / 10, excess + 1)

/-- Appends fraction digits to a significand until the next one would reach the limit, and gives the
number of digits that were appended. -/
def appendDigits (significand : Nat) : List (Fin 10) → Nat × Nat
  | [] => (significand, 0)
  | d :: rest =>
    if 10 * significand + d.val < significandLimit then
      let (extended, count) := appendDigits (10 * significand + d.val) rest
      (extended, count + 1)
    else (significand, 0)

/-- The double that a numeral names; it is infinite when the numeral is too great. -/
def double (n : Numeral) : Double :=
  let (leading, places) := leadingDigits n.whole
  let (significand, count) := appendDigits leading n.fraction
  (Double.ofRatio n.negative significand 1).scale10 (n.exponent.getD 0 + places - count)

/-- The numeral of an integer. -/
def ofInt (n : Int) : Numeral := ⟨decide (n < 0), n.natAbs, [], none⟩

/-- The positional and the exponential numeral of a decimal. -/
def ofDecimal (negative : Bool) (d : Decimal) : Numeral :=
  let digits := d.digits
  let toFraction (cs : List Char) : List (Fin 10) :=
    if cs.isEmpty then [0] else cs.map digitOf
  let lead := d.leading
  if lead < -5 ∨ 16 ≤ lead then
    { negative
      whole := Text.digitsValue (digits.take 1)
      fraction := (digits.drop 1).map digitOf
      exponent := some lead }
  else if lead < 0 then
    { negative
      whole := 0
      fraction := toFraction (List.replicate (-lead - 1).toNat '0' ++ digits)
      exponent := none }
  else
    let padded := digits ++ List.replicate d.exponent.toNat '0'
    { negative
      whole := Text.digitsValue (padded.take (lead + 1).toNat)
      fraction := toFraction (padded.drop (lead + 1).toNat)
      exponent := none }

/-- The numeral of a finite double. -/
def ofDouble (x : Double) : Numeral :=
  if x.magnitude = 0 then ⟨x.negative, 0, [0], none⟩
  else ofDecimal x.negative (x.shortest .even)

/-- The text of a numeral; an exponent always has a sign. -/
def text (n : Numeral) : String :=
  let sign := if n.negative then "-" else ""
  let fraction :=
    if n.fraction.isEmpty then "" else "." ++ String.ofList (n.fraction.map digitChar)
  let exponent :=
    match n.exponent with
    | none => ""
    | some e => (if e < 0 then "e-" else "e+") ++ Text.padded 1 e.natAbs
  sign ++ Text.padded 1 n.whole ++ fraction ++ exponent

end Numeral

end DocQuery
