import DocQuery.Query.Expression

/-!
# Patterns for Literal Text

The regular expression that finds a given text in one of the four ways of `TextMatch`.  Characters
with a meaning in regular expressions are escaped, and anchors tie the text to the start, to the end
or to both.
-/

namespace DocQuery.Literal

/-- The characters with a meaning in regular expressions. -/
def specials : List Char :=
  ['.', '*', '+', '?', '^', '$', '\x7b', '\x7d', '(', ')', '|', '[', ']', '\\']

/-- A character as a part of a pattern. -/
def escapeChar (c : Char) : List Char := if c ∈ specials then ['\\', c] else [c]

/-- The pattern that a text itself is. -/
def escape (raw : String) : String := String.ofList (raw.toList.flatMap escapeChar)

/-- The pattern that finds a text in a given way. -/
def pattern (raw : String) : TextMatch → String
  | .startsWith => "^" ++ escape raw
  | .endsWith => escape raw ++ "$"
  | .includes => escape raw
  | .exact => "^" ++ escape raw ++ "$"

end DocQuery.Literal
