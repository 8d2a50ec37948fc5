/-!
# Binary Doubles

A `Double` is a sign and a sixty-three bit magnitude, the two parts of a binary64 word.  Words of
one sign are ordered by their magnitude, so the order of doubles is the order of one signed integer:
`Double.rank?` gives that integer, identifies the two zeros and is undefined exactly at NaN.
Comparison and equality of doubles are comparison and equality of ranks.

A finite double is an integer significand times a power of two; `significand` and `exponent` read
the two off, and `truncate` drops the fraction of the value they stand for.
-/

namespace DocQuery

/-- A double: a sign, and the exponent and fraction fields of the word read as one number. -/
structure Double where
  /-- The sign bit. -/
  negative : Bool
  /-- The sixty-three bits below the sign. -/
  magnitude : Nat
  /-- The magnitude fits below the sign bit. -/
  magnitude_lt : magnitude < 0x8000000000000000
deriving DecidableEq

namespace Double

/-! ## Words -/

/-- The magnitude of the infinities; greater magnitudes are NaN. -/
def infiniteMagnitude : Nat := 0x7FF0000000000000

/-- The double that a word stands for. -/
def ofBits (word : UInt64) : Double where
  negative := decide (0x8000000000000000 ≤ word.toNat)
  magnitude := word.toNat % 0x8000000000000000
  magnitude_lt := Nat.mod_lt _ (by decide)

/-- The word of a double. -/
def toBits (x : Double) : UInt64 :=
  UInt64.ofNat (if x.negative then 0x8000000000000000 + x.magnitude else x.magnitude)

/-- Positive zero. -/
def zero : Double := ⟨false, 0, by decide⟩

/-- The quiet NaN of positive sign that stands for every NaN. -/
def nan : Double := ⟨false, 0x7FF8000000000000, by decide⟩

/-- The double of a sign and a magnitude; magnitudes from the infinite one on mean infinity. -/
def ofMagnitude (negative : Bool) (magnitude : Nat) : Double where
  negative := negative
  magnitude := min magnitude infiniteMagnitude
  magnitude_lt := Nat.lt_of_le_of_lt (Nat.min_le_right _ _) (by decide)

/-- NaN lies above infinity. -/
def isNaN (x : Double) : Bool := infiniteMagnitude < x.magnitude

/-- Finite doubles lie below infinity. -/
def isFinite (x : Double) : Bool := x.magnitude < infiniteMagnitude

/-- The double of opposite sign. -/
def neg (x : Double) : Double := { x with negative := !x.negative }

/-! ## Order -/

/-- The signed integer that places a double in the order of doubles. -/
def rank? (x : Double) : Option Int :=
  if x.isNaN then none
  else some (if x.negative then -(x.magnitude : Int) else x.magnitude)

/-- The order of two doubles, undefined when one of them is NaN. -/
def compare? (x y : Double) : Option Ordering :=
  match x.rank?, y.rank? with
  | some a, some b => some (compare a b)
  | _, _ => none

/-- Equality of doubles: the zeros are equal and NaN equals nothing. -/
def same (x y : Double) : Bool :=
  x.compare? y == some .eq

/-! ## Value -/

/-- The number of doubles between two neighbouring powers of two, `2 ^ 52`. -/
def fractionCount : Nat := 0x10000000000000

/-- The integer significand of a finite double. -/
def significand (x : Double) : Nat :=
  if x.magnitude < fractionCount then x.magnitude
  else x.magnitude % fractionCount + fractionCount

/-- The exponent above the least one, which is that of the subnormal doubles. -/
def scale (x : Double) : Nat := x.magnitude / fractionCount - 1

/-- The power of two that the significand of a finite double is multiplied with. -/
def exponent (x : Double) : Int := (x.scale : Int) - 1074

/-- The value of a finite double without its sign, as a numerator and a denominator. -/
def absoluteRatio (x : Double) : Nat × Nat :=
  if x.scale < 1074 then (x.significand, Nat.pow 2 (1074 - x.scale))
  else (x.significand * Nat.pow 2 (x.scale - 1074), 1)

/-- The integer part of a finite double, rounded toward zero. -/
def truncate (x : Double) : Int :=
  let whole : Nat := x.absoluteRatio.1 / x.absoluteRatio.2
  if x.negative then -(whole : Int) else whole

/-- The nearest sixty-four bit integer toward zero: NaN gives zero and values that do not fit give
the nearest bound. -/
def saturate (x : Double) : Int64 :=
  if x.isNaN then 0
  else
    let whole : Int :=
      if x.isFinite then x.truncate
      else if x.negative then -0x8000000000000000
      else 0x8000000000000000
    if whole < -0x8000000000000000 then Int64.minValue
    else if 0x8000000000000000 ≤ whole then Int64.maxValue
    else Int64.ofInt whole

end Double

end DocQuery
