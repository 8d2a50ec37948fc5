import DocQuery.Text.Blank
import DocQuery.Text.Digits
import DocQuery.Time.Instant

/-!
# Reading Instants

Four notations are tried in turn and the first that reads the whole text wins:

* the strict notation with full width fields and `Z` or an offset `+HH:MM`;
* the loose notation with an offset whose colon may be missing;
* the loose notation without an offset, read as UTC;
* a loose date alone, read as its midnight in UTC.

In the loose notations blanks may precede every number, numbers may be shorter than their width, and
the year may have any number of digits after an explicit sign.
-/

namespace DocQuery

open Text

/-- A scanner consumes a part of the text from its start, or fails. -/
abbrev Scan (α : Type) := StateT (List Char) Option α

namespace Scan

/-! ## Pieces -/

/-- Consumes one given character. -/
def char (expected : Char) : Scan Unit
  | c :: rest => if c = expected then some ((), rest) else none
  | [] => none

/-- Consumes one of the given characters. -/
def oneOf (expected : List Char) : Scan Char
  | c :: rest => if c ∈ expected then some (c, rest) else none
  | [] => none

/-- Consumes the characters at the start that are in a class. -/
def skip (inClass : Char → Bool) : Scan Unit := fun cs ↦ some ((), cs.dropWhile inClass)

/-- Consumes the digits at the start, at least one and at most `most`. -/
def digits (most : Nat) : Scan (List Char) := fun cs ↦
  let found := (cs.take most).takeWhile Char.isDigit
  if found.isEmpty then none else some (found, cs.drop found.length)

/-- Consumes all digits at the start, at least one. -/
def allDigits : Scan (List Char) := fun cs ↦
  let found := cs.takeWhile Char.isDigit
  if found.isEmpty then none else some (found, cs.drop found.length)

/-- Consumes exactly `count` digits. -/
def exactly (count : Nat) : Scan Nat := do
  let found ← digits count
  if found.length = count then pure (digitsValue found) else failure

/-- Consumes blanks and then a number of at most `width` digits. -/
def number (width : Nat) : Scan Nat := do
  skip isBlank
  return digitsValue (← digits width)

/-- Succeeds at the end of the text. -/
def finish : Scan Unit
  | [] => some ((), [])
  | _ :: _ => none

/-- Reads a whole text. -/
def whole {α : Type} (scan : Scan α) (text : String) : Option α :=
  ((do let a ← scan; finish; return a : Scan α).run text.toList).map (·.1)

/-! ## Fields -/

/-- The nanoseconds of a list of fraction digits; those after the ninth do not count. -/
def nanosOfDigits (fraction : List Char) : Nat :=
  digitsValue ((fraction ++ List.replicate 9 '0').take 9)

/-- A point and at least one digit, or nothing. -/
def fraction : Scan Nat
  | '.' :: rest => (allDigits.run rest).map fun (found, tail) ↦ (nanosOfDigits found, tail)
  | cs => some (0, cs)

/-- The signs of an offset; the minus sign proper counts as well. -/
def offsetSign : Scan Int := do
  let sign ← oneOf ['+', '-', '\u2212']
  return if sign = '+' then 1 else -1

/-- An offset in seconds, from two digits of hours and, after `separator`, two digits of minutes. -/
def offset (separator : Scan Unit) : Scan Int := do
  let sign ← offsetSign
  let hours ← exactly 2
  separator
  let minutes ← exactly 2
  if hours < 24 ∧ minutes < 60 then return sign * (hours * 3600 + minutes * 60 : Nat)
  else failure

/-- A year: up to four digits, or any number of digits after an explicit sign. -/
def year : Scan Int := do
  skip isBlank
  fun
    | '-' :: rest => (allDigits.run rest).map fun (found, tail) ↦ (-(digitsValue found : Int), tail)
    | '+' :: rest => (allDigits.run rest).map fun (found, tail) ↦ ((digitsValue found : Int), tail)
    | cs => ((digits 4).run cs).map fun (found, tail) ↦ ((digitsValue found : Int), tail)

/-! ## Notations -/

/-- The loose notation of a date. -/
def date : Scan Date := do
  let year ← year
  char '-'
  let month ← number 2
  char '-'
  let day ← number 2
  return { year, month, day }

/-- The loose notation of a date and a time of day. -/
def dateTime : Scan LocalTime := do
  let date ← date
  char 'T'
  let hour ← number 2
  char ':'
  let minute ← number 2
  char ':'
  let second ← number 2
  let nanos ← fraction
  return { date, hour, minute, second, nanos }

/-- The loose notation with an offset, before and inside of which blanks may stand. -/
def offsetDateTime : Scan LocalTime := do
  let t ← dateTime
  skip isBlank
  let offset ← offset (skip fun c ↦ c = ':' || isBlank c)
  return { t with offset }

/-- The strict notation. -/
def strictDateTime : Scan LocalTime := do
  let year ← exactly 4
  char '-'
  let month ← exactly 2
  char '-'
  let day ← exactly 2
  let _ ← oneOf ['T', 't', ' ']
  let hour ← exactly 2
  char ':'
  let minute ← exactly 2
  char ':'
  let second ← exactly 2
  let nanos ← fraction
  let offset ← fun
    | 'Z' :: rest => some ((0 : Int), rest)
    | 'z' :: rest => some (0, rest)
    | cs => (offset (char ':')).run cs
  return { date := { year, month, day }, hour, minute, second, nanos, offset }

end Scan

/-- The instant that a text names. -/
def Instant.ofText? (text : String) : Option Instant :=
  (Scan.whole Scan.strictDateTime text).bind LocalTime.instant? <|>
  (Scan.whole Scan.offsetDateTime text).bind LocalTime.instant? <|>
  (Scan.whole Scan.dateTime text).bind LocalTime.instant? <|>
  (Scan.whole Scan.date text).bind fun date ↦ LocalTime.instant? { date }

end DocQuery
