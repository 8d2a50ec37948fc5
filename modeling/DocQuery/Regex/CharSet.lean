import DocQuery.Text.Blank
import DocQuery.Text.CaseFold
import DocQuery.Text.Category
import DocQuery.Text.Property

/-!
# Sets of Characters

The sets that a regular expression can ask a character to be in, made from ranges and tables by the
operations on sets.  A folded set has every character that is equal to one of the set under a rule
for case; a complement that ignores case is the complement of a folded set.
-/

namespace DocQuery

/-- A set of characters. -/
inductive CharSet where
  /-- No character. -/
  | empty
  /-- The characters between two, both included. -/
  | range (first last : Char)
  /-- The characters of a table. -/
  | table (spans : List Text.Span)
  /-- The characters that are not in a set. -/
  | complement (s : CharSet)
  /-- The characters in one of two sets. -/
  | union (s t : CharSet)
  /-- The characters in both of two sets. -/
  | intersection (s t : CharSet)
  /-- The characters that are equal to one in a set. -/
  | folded (rule : Text.CaseRule) (s : CharSet)

namespace CharSet

/-- Whether a set has a character. -/
def has : CharSet → Char → Bool
  | empty, _ => false
  | range first last, c => first ≤ c && c ≤ last
  | table spans, c => Text.inSpans spans c
  | complement s, c => !s.has c
  | union s t, c => s.has c || t.has c
  | intersection s t, c => s.has c && t.has c
  | folded rule s, c => (rule.orbit c).any fun d ↦ s.has d

/-! ## Operations -/

/-- The set of one character. -/
def single (c : Char) : CharSet := range c c

/-- The characters in some of the sets. -/
def unions (sets : List CharSet) : CharSet := sets.foldr union empty

/-- The characters in some of the ranges. -/
def ranges (bounds : List (Char × Char)) : CharSet :=
  unions (bounds.map fun (first, last) ↦ range first last)

/-- The characters of the first set that are not in the second. -/
def difference (s t : CharSet) : CharSet := intersection s (complement t)

/-- The characters in exactly one of two sets. -/
def symmetricDifference (s t : CharSet) : CharSet := union (difference s t) (difference t s)

/-- The characters that are equal to one in a set under a rule for case. -/
def fold (rule : Text.CaseRule) (s : CharSet) : CharSet :=
  match rule with
  | .exact => s
  | rule => folded rule s

/-! ## Sets of Unicode -/

open Text.Category in
/-- Letters. -/
def letter : CharSet :=
  unions
    [table lowercaseLetter, table uppercaseLetter, table otherLetter, table modifierLetter,
      table titlecaseLetter]

open Text.Category in
/-- Marks, which belong to the character before. -/
def mark : CharSet := unions [table nonspacingMark, table spacingMark, table enclosingMark]

/-- Blank characters. -/
def blank : CharSet :=
  unions [single ' ', range '\t' '\r', table Text.blankSpans]

/-- Decimal digits. -/
def decimal : CharSet := table Text.Category.decimalNumber

/-- Lower-case characters. -/
def lowercase : CharSet :=
  union (table Text.Category.lowercaseLetter) (table Text.Property.otherLowercase)

/-- Upper-case characters. -/
def uppercase : CharSet :=
  union (table Text.Category.uppercaseLetter) (table Text.Property.otherUppercase)

/-- Alphabetic characters. -/
def alphabetic : CharSet :=
  unions
    [letter, table Text.Category.letterNumber, lowercase, uppercase,
      table Text.Property.otherAlphabetic]

/-- Characters of words. -/
def word : CharSet :=
  unions
    [alphabetic, decimal, mark, table Text.Category.connectorPunctuation,
      table Text.Property.joinControl]

/-! ## Sets of ASCII -/

/-- The ASCII characters. -/
def ascii : CharSet := range '\x00' '\x7f'

/-- Decimal digits of ASCII. -/
def asciiDecimal : CharSet := range '0' '9'

/-- Blank characters of ASCII. -/
def asciiBlank : CharSet := union (single ' ') (range '\t' '\r')

/-- Characters of words of ASCII. -/
def asciiWord : CharSet := ranges [('a', 'z'), ('A', 'Z'), ('0', '9'), ('_', '_')]

end CharSet

end DocQuery
