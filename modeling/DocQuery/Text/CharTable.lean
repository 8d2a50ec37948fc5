/-!
# Tables of Characters

A property of characters is a list of `Span`s and a map of characters a list of `Shift`s.  Letters
of one case often alternate with those of the other, so both kinds of entry take every `step`-th
code point of their range.
-/

namespace DocQuery.Text

/-- The code points `first`, `first + step`, up to `last`. -/
structure Span where
  first : Nat
  last : Nat
  step : Nat

/-- Whether a span has a code point. -/
def Span.holds (s : Span) (code : Nat) : Bool :=
  s.first ≤ code && code ≤ s.last && (code - s.first) % s.step == 0

/-- The code points of a span. -/
def Span.codes (s : Span) : List Nat :=
  (List.range ((s.last - s.first) / s.step + 1)).map fun i ↦ s.first + i * s.step

/-- Whether a character is in one of the spans. -/
def inSpans (table : List Span) (c : Char) : Bool :=
  table.any fun s ↦ s.holds c.toNat

/-- The code points of a span, moved so that `first` becomes `target`. -/
structure Shift extends Span where
  target : Nat

/-- The image of a code point under a shift. -/
def Shift.image (s : Shift) (code : Nat) : Char :=
  Char.ofNat (s.target + (code - s.first))

/-- The image of a character under the first shift that has it. -/
def shifted? (table : List Shift) (c : Char) : Option Char :=
  (table.find? fun s ↦ s.holds c.toNat).map fun s ↦ s.image c.toNat

/-- The characters of a list of shifts that are sent to `image`. -/
def shiftedTo (table : List Shift) (image : Char) : List Char :=
  table.filterMap fun s ↦
    let code := s.first + (image.toNat - s.target)
    if s.target ≤ image.toNat && s.holds code then some (Char.ofNat code) else none

end DocQuery.Text
