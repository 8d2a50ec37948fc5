import DocQuery.Filter.Pattern
import DocQuery.Regex.Reading

/-!
# Reading Literal Patterns

The pattern of a literal text is read as the characters of the text one after the other, between the
anchors that its way of matching asks for: every character with a meaning in patterns is escaped, and
an escape of such a character stands for the character.

Nothing but its size can keep such a pattern from being accepted, since its parts are not nested.
-/

namespace DocQuery

open Regex

namespace Literal

/-- The expressions for the characters of a text. -/
def characters (ignoreCase : Bool) (raw : List Char) : List Regex :=
  raw.map (Mode.char { ignoreCase })

/-- The expressions that a literal pattern consists of. -/
def parts (ignoreCase : Bool) (raw : String) : TextMatch → List Regex
  | .startsWith => .anchor .textStart :: characters ignoreCase raw.toList
  | .endsWith => characters ignoreCase raw.toList ++ [.anchor .textEnd]
  | .includes => characters ignoreCase raw.toList
  | .exact => .anchor .textStart :: characters ignoreCase raw.toList ++ [.anchor .textEnd]

/-- The expression that a literal pattern stands for. -/
def regex (ignoreCase : Bool) (raw : String) (mode : TextMatch) : Regex :=
  Regex.sequence (parts ignoreCase raw mode)

theorem length_le_flatMap_escapeChar (raw : List Char) :
    raw.length ≤ (raw.flatMap escapeChar).length := by
  induction raw with
  | nil => exact Nat.le_refl _
  | cons c rest ih =>
    have hescape : 1 ≤ (escapeChar c).length := by
      unfold escapeChar
      split <;> simp
    rw [List.flatMap_cons, List.length_append, List.length_cons]
    omega

end Literal

open Literal

/-! ## Lexemes -/

namespace Regex

/-- Characters with a meaning in patterns stand for themselves after a backslash. -/
theorem isEscapable_of_mem_specials {c : Char} (h : c ∈ specials) : isEscapable c = true := by
  have hall : specials.all isEscapable = true := by decide
  exact List.all_eq_true.1 hall c h

/-- A character without a meaning in patterns is read as itself. -/
theorem readLexeme_of_not_mem_specials (s : LexState) {c : Char} (h : c ∉ specials)
    (rest : List Char) : readLexeme s c rest = some (.leaf (s.mode.char c), s, rest) := by
  unfold readLexeme
  split <;> first | rfl | exact absurd h (by decide)

theorem readLexeme_backslash (s : LexState) {c : Char} (h : c ∈ specials) (rest : List Char) :
    readLexeme s '\\' (c :: rest) = some (.leaf (s.mode.char c), s, rest) := by
  simp [readLexeme, Escape.read, isEscapable_of_mem_specials h, Lexeme.ofEscape]

variable {s : LexState} (hplain : s.mode.verbose = false)
include hplain

theorem readLexemes_cons (fuel : Nat) (c : Char) (rest : List Char) :
    readLexemes (fuel + 1) s (c :: rest) =
      (readLexeme s c rest).bind fun found ↦
        (readLexemes fuel found.2.1 found.2.2).map (found.1 :: ·) := by
  rw [readLexemes]
  simp only [Mode.skip, hplain, Bool.false_eq_true, if_false]
  cases readLexeme s c rest <;> rfl

/-- An escaped character is read as the character. -/
theorem readLexemes_escapeChar (fuel : Nat) (c : Char) (rest : List Char) :
    readLexemes (fuel + 1) s (escapeChar c ++ rest) =
      (readLexemes fuel s rest).map (.leaf (s.mode.char c) :: ·) := by
  unfold escapeChar
  split
  · rename_i h
    rw [List.cons_append, List.singleton_append, readLexemes_cons hplain,
      readLexeme_backslash s h]
    rfl
  · rename_i h
    rw [List.singleton_append, readLexemes_cons hplain, readLexeme_of_not_mem_specials s h]
    rfl

/-- An escaped text is read as its characters. -/
theorem readLexemes_escape (fuel : Nat) (raw rest : List Char) :
    readLexemes (raw.length + fuel) s (raw.flatMap escapeChar ++ rest) =
      (readLexemes fuel s rest).map ((raw.map fun c ↦ .leaf (s.mode.char c)) ++ ·) := by
  induction raw with
  | nil => simp
  | cons c raw ih =>
    have hfuel : (c :: raw).length + fuel = raw.length + fuel + 1 := by
      rw [List.length_cons]
      omega
    rw [hfuel, List.flatMap_cons, List.append_assoc, readLexemes_escapeChar hplain, ih,
      Option.map_map]
    rfl

omit hplain

/-- The characters of a text, and what may stand around them, are read one by one. -/
theorem readLexemes_pattern (ignoreCase : Bool) (raw : String) (mode : TextMatch) :
    readLexemes ((pattern raw mode).toList.length + 1) { mode := { ignoreCase } }
        (pattern raw mode).toList =
      some ((parts ignoreCase raw mode).map Lexeme.leaf) := by
  let s : LexState := { mode := { ignoreCase } }
  have hplain : s.mode.verbose = false := rfl
  have hlength := length_le_flatMap_escapeChar raw.toList
  -- what is left of the fuel after the characters is enough for an anchor and the end
  obtain ⟨extra, hextra⟩ := Nat.le.dest hlength
  have hstart : readLexeme s '^' = fun rest ↦ some (.leaf (.anchor .textStart), s, rest) := rfl
  have hend : readLexemes (extra + 2) s ['$'] = some [.leaf (.anchor .textEnd)] := rfl
  have hdone : readLexemes (extra + 1) s [] = some [] := rfl
  have hchars (fuel : Nat) (rest : List Char) :=
    readLexemes_escape hplain fuel raw.toList rest
  cases mode with
  | includes =>
    have hpattern : (pattern raw .includes).toList = raw.toList.flatMap escapeChar := by
      simp [pattern, escape]
    rw [hpattern, ← hextra, Nat.add_assoc, ← List.append_nil (raw.toList.flatMap escapeChar),
      hchars, hdone]
    simp [parts, characters, s, Function.comp_def]
  | startsWith =>
    have hpattern : (pattern raw .startsWith).toList = '^' :: raw.toList.flatMap escapeChar := by
      simp [pattern, escape]
    rw [hpattern, List.length_cons, readLexemes_cons hplain, hstart, Option.bind_some, ← hextra,
      Nat.add_assoc, ← List.append_nil (raw.toList.flatMap escapeChar), hchars, hdone]
    simp [parts, characters, s, Function.comp_def]
  | endsWith =>
    have hpattern : (pattern raw .endsWith).toList = raw.toList.flatMap escapeChar ++ ['$'] := by
      simp [pattern, escape]
    rw [hpattern, List.length_append, ← hextra, List.length_singleton, Nat.add_assoc,
      Nat.add_assoc, hchars, hend]
    simp [parts, characters, s, Function.comp_def]
  | exact =>
    have hpattern : (pattern raw .exact).toList =
        '^' :: (raw.toList.flatMap escapeChar ++ ['$']) := by
      simp [pattern, escape]
    rw [hpattern, List.length_cons, readLexemes_cons hplain, hstart, Option.bind_some,
      List.length_append, ← hextra, List.length_singleton, Nat.add_assoc, Nat.add_assoc, hchars,
      hend]
    simp [parts, characters, s, Function.comp_def]

/-! ## Structure -/

/-- Expressions without parts are put together in a row. -/
theorem assemble_leaves (items : List Regex) (frame : Frame)
    (hdirective : frame.endsInDirective = false) :
    assemble frame [] (items.map Lexeme.leaf) =
      some (Frame.regex { frame with
        items := (items.map fun r ↦ { value := r }).reverse ++ frame.items }) := by
  induction items generalizing frame with
  | nil => simp [assemble]
  | cons r rest ih =>
    have hrest := ih (frame.push { value := r }) rfl
    simp only [List.map_cons, Lexeme.leaf, assemble] at hrest ⊢
    rw [hrest]
    simp [Frame.push, hdirective]

/-- Parts that have no parts of their own are at most one level deep. -/
theorem joinDepth_replicate_zero (n : Nat) : joinDepth (List.replicate n 0) ≤ 1 := by
  match n with
  | 0 => exact Nat.zero_le _
  | 1 => exact Nat.zero_le _
  | n + 2 =>
    have hmax : (List.replicate (n + 2) 0).foldl max 0 = 0 := by
      induction n with
      | zero => rfl
      | succ n ih => exact ih
    simp only [List.replicate_succ, joinDepth] at hmax ⊢
    omega

/-- Expressions without parts are read as their sequence. -/
theorem assemble_sequence (items : List Regex) :
    ∃ r : Nested Regex, assemble {} [] (items.map Lexeme.leaf) = some r ∧
      r.value = sequence items ∧ r.depth ≤ 1 := by
  refine ⟨_, assemble_leaves items {} rfl, ?_, ?_⟩
  · simp [Frame.regex, Frame.last, List.map_reverse, Function.comp_def]
  · have hdepths : (items.map fun _ ↦ (0 : Nat)).reverse = List.replicate items.length 0 := by
      rw [List.map_const', List.reverse_replicate]
    have hdepth := joinDepth_replicate_zero items.length
    rw [← hdepths] at hdepth
    simpa [Frame.regex, Frame.last, joinDepth, Function.comp_def] using hdepth

/-- A literal pattern is read as the expression it stands for, if there is memory enough. -/
theorem ofPattern?_pattern (ignoreCase : Bool) (raw : String) (mode : TextMatch) :
    ofPattern? ignoreCase (pattern raw mode) =
      if (Literal.regex ignoreCase raw mode).fits then some (Literal.regex ignoreCase raw mode)
      else none := by
  obtain ⟨r, hread, hvalue, hdepth⟩ := assemble_sequence (parts ignoreCase raw mode)
  have hshallow : r.depth ≤ greatestDepth := Nat.le_trans hdepth (by decide)
  unfold ofPattern?
  simp only [readLexemes_pattern, Option.bind_some, hread]
  simp only [hvalue, hshallow, decide_true, Bool.true_and]
  rfl

end Regex

end DocQuery
