/-!
# Digits

Natural numbers as texts of decimal digits, with and without leading zeros, and the number that a
list of digits stands for.  Hexadecimal digits are read in either case.
-/

namespace DocQuery.Text

/-- The decimal digits of a number, with zeros in front up to a width. -/
def paddedDigits (width n : Nat) : List Char :=
  let digits := Nat.toDigits 10 n
  List.replicate (width - digits.length) '0' ++ digits

/-- A number with zeros in front up to a width. -/
def padded (width n : Nat) : String := String.ofList (paddedDigits width n)

/-- The value of a decimal digit. -/
def digitValue (c : Char) : Nat := c.toNat - '0'.toNat

/-- The number that a list of decimal digits stands for. -/
def digitsValue (digits : List Char) : Nat :=
  digits.foldl (fun value c ↦ 10 * value + digitValue c) 0

/-- The value of a hexadecimal digit. -/
def hexDigitValue? (c : Char) : Option Nat :=
  if '0' ≤ c ∧ c ≤ '9' then some (c.toNat - '0'.toNat)
  else if 'a' ≤ c ∧ c ≤ 'f' then some (c.toNat - 'a'.toNat + 10)
  else if 'A' ≤ c ∧ c ≤ 'F' then some (c.toNat - 'A'.toNat + 10)
  else none

/-- The number that hexadecimal digits stand for. -/
def hexDigitsValue? (digits : List Char) : Option Nat :=
  digits.foldlM (fun value c ↦ (hexDigitValue? c).map (16 * value + ·)) 0

/-- The decimal text of an integer. -/
def integer (n : Int) : String :=
  if n < 0 then "-" ++ padded 1 n.natAbs else padded 1 n.natAbs

end DocQuery.Text
