import DocQuery.Text.CharTable

/-!
# Blank Characters

The Unicode property *White_Space*.
-/

namespace DocQuery.Text

/-- Blank characters beyond ASCII. -/
def blankSpans : List Span := [
  ⟨0x85, 0x85, 1⟩, ⟨0xA0, 0xA0, 1⟩, ⟨0x1680, 0x1680, 1⟩, ⟨0x2000, 0x200A, 1⟩, ⟨0x2028, 0x2029, 1⟩,
  ⟨0x202F, 0x202F, 1⟩, ⟨0x205F, 0x205F, 1⟩, ⟨0x3000, 0x3000, 1⟩]

/-- Whether a character is blank. -/
def isBlank (c : Char) : Bool :=
  if c.toNat < 0x80 then c = ' ' || (9 ≤ c.toNat && c.toNat ≤ 13) else inSpans blankSpans c

end DocQuery.Text
