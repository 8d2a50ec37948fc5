import DocQuery.Number.Double

/-!
# Shortest Decimal Digits

The numbers that round to a finite double form an interval around it, whose ends belong to it when
the significand is even.  `Double.shortest` finds the fewest decimal digits that name a number of
that interval and, among those, the nearest to the double.  It tries one digit, then two, and so on:
if a grid of decimal numbers meets the interval at all, one of the two grid points next to the
double lies in it.  Seventeen digits always suffice.

Where both neighbours are equally near, the answer depends on the format that asks: `Tie` says which
one is taken.
-/

namespace DocQuery

/-- The choice between two decimals that are equally near. -/
inductive Tie where
  /-- Take the greater one. -/
  | up
  /-- Take the one whose last digit is even. -/
  | even
deriving DecidableEq, Repr

/-- A decimal number: a coefficient times a power of ten. -/
structure Decimal where
  /-- The digits, read as one number. -/
  coefficient : Nat
  /-- The power of ten of the last digit. -/
  exponent : Int
deriving DecidableEq, Repr

namespace Decimal

/-- The decimal digits of the coefficient. -/
def digits (d : Decimal) : List Char := Nat.toDigits 10 d.coefficient

/-- The power of ten at which the leading digit stands. -/
def leading (d : Decimal) : Int := (d.digits.length : Int) - 1 + d.exponent

/-- Drops at most `steps` final zeros of the coefficient. -/
def dropZeros : Nat → Decimal → Decimal
  | 0, d => d
  | steps + 1, d =>
    if d.coefficient % 10 = 0 ∧ d.coefficient ≠ 0 then
      dropZeros steps ⟨d.coefficient / 10, d.exponent + 1⟩
    else d

end Decimal

/-- The interval of numbers that round to a double, and the double itself, over one denominator. -/
structure RoundingInterval where
  lower : Nat
  value : Nat
  upper : Nat
  denominator : Nat
  /-- Whether the ends round to the double as well. -/
  closed : Bool

namespace RoundingInterval

/-- The interval of a finite double.  The lower end is nearer below a power of two, where the
spacing of doubles halves. -/
def ofDouble (x : Double) : RoundingInterval :=
  let m := x.significand
  let below := if m = Double.fractionCount ∧ 0 < x.scale then 1 else 2
  let up := Nat.pow 2 (x.scale - 1076)
  { lower := (4 * m - below) * up
    value := 4 * m * up
    upper := (4 * m + 2) * up
    denominator := Nat.pow 2 (1076 - x.scale)
    closed := m % 2 = 0 }

/-- Whether `coefficient * ten / part` lies in the interval. -/
def holds (i : RoundingInterval) (coefficient ten part : Nat) : Bool :=
  let point := coefficient * ten * i.denominator
  if i.closed then decide (i.lower * part ≤ point ∧ point ≤ i.upper * part)
  else decide (i.lower * part < point ∧ point < i.upper * part)

/-- The coefficient on the grid of multiples of `ten / part` that lies in the interval and is
nearest to the double. -/
def nearest? (i : RoundingInterval) (tie : Tie) (ten part : Nat) : Option Nat :=
  let unit := ten * i.denominator
  let low := i.value * part / unit
  let twice := 2 * (i.value * part % unit)
  let high := low + 1
  let preferHigh :=
    if twice < unit then false
    else if unit < twice then true
    else match tie with
      | .up => true
      | .even => low % 2 = 1
  match i.holds low ten part, i.holds high ten part with
  | true, true => some (if preferHigh then high else low)
  | true, false => some low
  | false, true => some high
  | false, false => none

/-- The power of ten at which the leading digit of the double stands. -/
def leading (i : RoundingInterval) : Int :=
  ((Nat.toDigits 10 (i.value * Nat.pow 10 330 / i.denominator)).length : Int) - 331

/-- The first grid with a point in the interval, among the grids of more and more digits. -/
def search (i : RoundingInterval) (tie : Tie) (lead : Int) : Nat → Nat → Decimal
  | 0, count => ⟨i.value, lead - count⟩
  | tries + 1, count =>
    let power : Int := lead + 1 - count
    match i.nearest? tie (Nat.pow 10 power.toNat) (Nat.pow 10 (-power).toNat) with
    | some coefficient => Decimal.dropZeros 17 ⟨coefficient, power⟩
    | none => search i tie lead tries (count + 1)

end RoundingInterval

/-- The shortest decimal that names a finite double other than zero, without its sign. -/
def Double.shortest (x : Double) (tie : Tie) : Decimal :=
  let i := RoundingInterval.ofDouble x
  i.search tie i.leading 17 1

end DocQuery
