import DocQuery.Regex.CharSet

/-!
# Ranges of Code Points

A set of characters as an ascending list of ranges of code points, no two of which overlap or
touch.  Surrogates, which are no characters, may be inside of a range.

A text is read a byte at a time, so a range is divided further: `CodeRange.blocks` are the parts in
which every byte of the encoding varies on its own, and `CodeRange.byteRanges` says between which
bounds.
-/

namespace DocQuery

/-- The code points from `first` to `last`. -/
structure CodeRange where
  first : Nat
  last : Nat
deriving BEq

namespace CodeRange

/-! ## Lists of ranges -/

/-- The greatest code point. -/
def greatest : Nat := 0x10ffff

/-- Adds a range to an ascending list; ranges that overlap or touch become one. -/
def insert (r : CodeRange) : List CodeRange → List CodeRange
  | [] => [r]
  | s :: rest =>
    if r.last + 1 < s.first then r :: s :: rest
    else if s.last + 1 < r.first then s :: insert r rest
    else insert ⟨min r.first s.first, max r.last s.last⟩ rest

/-- The code points of two lists. -/
def union (ranges others : List CodeRange) : List CodeRange := ranges.foldr insert others

/-- The code points from `start` on that are in none of the ranges. -/
def gaps (start : Nat) : List CodeRange → List CodeRange
  | [] => if start ≤ greatest then [⟨start, greatest⟩] else []
  | r :: rest =>
    if start < r.first then ⟨start, r.first - 1⟩ :: gaps (r.last + 1) rest
    else gaps (r.last + 1) rest

/-- The code points that are in none of the ranges. -/
def complement (ranges : List CodeRange) : List CodeRange := gaps 0 ranges

/-- The code points that are in both of two lists. -/
def intersection (ranges others : List CodeRange) : List CodeRange :=
  complement (union (complement ranges) (complement others))

/-- The ranges of a table. -/
def ofSpan (s : Text.Span) : List CodeRange :=
  if s.step = 1 then [⟨s.first, s.last⟩] else s.codes.map fun code ↦ ⟨code, code⟩

/-- The code points of the characters that are equal to one in the ranges. -/
def fold (rule : Text.CaseRule) (ranges : List CodeRange) : List CodeRange :=
  let has (c : Char) : Bool := ranges.any fun r ↦ r.first ≤ c.toNat && c.toNat ≤ r.last
  let added := Text.casedChars.filter fun c ↦ (rule.orbit c).any has
  union (added.map fun c ↦ ⟨c.toNat, c.toNat⟩) ranges

/-! ## Bytes -/

/-- The part of a range between two bounds. -/
def between (first last : Nat) (r : CodeRange) : List CodeRange :=
  if max first r.first ≤ min last r.last then [⟨max first r.first, min last r.last⟩] else []

/-- Divides a range where a block of code points begins or ends that the range does not cover. -/
def divide (unit : Nat) (r : CodeRange) : List CodeRange :=
  if r.first / unit = r.last / unit then [r]
  else
    let start := (r.first + unit - 1) / unit * unit
    let stop := (r.last + 1) / unit * unit
    between r.first (start - 1) r ++ between start (stop - 1) r ++ between stop r.last r

/-- The parts of a range in which the bytes vary on their own. -/
def blocks (r : CodeRange) : List CodeRange :=
  let long :=
    between 0x80 0x7ff r ++ between 0x800 0xd7ff r ++ between 0xe000 0xffff r ++
      between 0x10000 greatest r
  let parts := (long.flatMap (divide 0x40)).flatMap (divide 0x1000)
  between 0 0x7f r ++ parts.flatMap (divide 0x40000)

/-- The bytes of a code point. -/
def bytes (code : Nat) : List Nat :=
  let more (unit : Nat) : Nat := 0x80 + code / unit % 0x40
  if code < 0x80 then [code]
  else if code < 0x800 then [0xc0 + code / 0x40, more 1]
  else if code < 0x10000 then [0xe0 + code / 0x1000, more 0x40, more 1]
  else [0xf0 + code / 0x40000, more 0x1000, more 0x40, more 1]

/-- The bounds of every byte in a block. -/
def byteRanges (block : CodeRange) : List (Nat × Nat) :=
  (bytes block.first).zip (bytes block.last)

end CodeRange

/-- The ranges of a set. -/
def CharSet.codeRanges : CharSet → List CodeRange
  | empty => []
  | range first last => if first ≤ last then [⟨first.toNat, last.toNat⟩] else []
  | table spans => CodeRange.union (spans.flatMap CodeRange.ofSpan) []
  | complement s => CodeRange.complement s.codeRanges
  | union s t => CodeRange.union s.codeRanges t.codeRanges
  | intersection s t => CodeRange.intersection s.codeRanges t.codeRanges
  | folded rule s => CodeRange.fold rule s.codeRanges

end DocQuery
