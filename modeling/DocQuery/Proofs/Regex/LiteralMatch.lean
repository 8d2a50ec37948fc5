import DocQuery.Proofs.Regex.LiteralPattern

/-!
# What Literal Patterns Find

The expression of a literal pattern matches a text exactly where characters that are the same under the
rule for case stand in it, at the start, at the end, as the whole or anywhere, as the way of matching
asks for.

An expression takes places of a text to places.  The characters of a pattern take the place before some
characters to the place behind them if they are the same, and an anchor keeps the first or the last
place alone.
-/

namespace DocQuery

/-! ## The same characters -/

/-- Two texts have the same characters under a rule for case. -/
inductive SameText (rule : Text.CaseRule) : List Char → List Char → Prop
  | nil : SameText rule [] []
  | cons {c d : Char} {rest others : List Char} (hfirst : rule.same c d = true)
      (hrest : SameText rule rest others) : SameText rule (c :: rest) (d :: others)

theorem Text.CaseRule.same_self (rule : Text.CaseRule) (c : Char) : rule.same c c = true := by
  cases rule with
  | exact => exact beq_self_eq_true c
  | ascii => exact beq_self_eq_true _
  | simple => exact beq_self_eq_true _

namespace SameText

variable {rule : Text.CaseRule} {text other : List Char}

theorem refl (rule : Text.CaseRule) (text : List Char) : SameText rule text text := by
  induction text with
  | nil => exact .nil
  | cons c rest ih => exact .cons (rule.same_self c) ih

theorem length_eq (h : SameText rule text other) : text.length = other.length := by
  induction h with
  | nil => rfl
  | cons _ _ ih => rw [List.length_cons, List.length_cons, ih]

/-- Where case counts, only a text itself has its characters. -/
theorem eq_of_exact (h : SameText .exact text other) : text = other := by
  induction h with
  | nil => rfl
  | cons hfirst _ ih => rw [eq_of_beq hfirst, ih]

/-- Texts are taken apart at a place. -/
theorem append_iff {behind after : List Char} (h : text.length = other.length) :
    SameText rule (text ++ behind) (other ++ after) ↔
      SameText rule text other ∧ SameText rule behind after := by
  constructor
  · intro hsame
    induction text generalizing other with
    | nil =>
      obtain rfl := List.length_eq_zero_iff.1 h.symm
      exact ⟨.nil, hsame⟩
    | cons c rest ih =>
      cases other with
      | nil => exact absurd h (by simp)
      | cons d others =>
        cases hsame with
        | cons hfirst hrest =>
          obtain ⟨hfront, hback⟩ := ih (Nat.succ.inj h) hrest
          exact ⟨.cons hfirst hfront, hback⟩
  · rintro ⟨hfront, hback⟩
    induction hfront with
    | nil => exact hback
    | cons hfirst _ ih => exact .cons hfirst (ih (Nat.succ.inj h))

/-- What stands behind the same text. -/
theorem of_append_left {behind after : List Char}
    (h : SameText rule (text ++ behind) (text ++ after)) : SameText rule behind after :=
  ((append_iff rfl).1 h).2

end SameText

/-- The rule for case of a literal pattern. -/
def Literal.caseRule (ignoreCase : Bool) : Text.CaseRule := Regex.Mode.caseRule { ignoreCase }

namespace TextMatch

/-- Whether the text has to stand at the start. -/
def tiesStart : TextMatch → Bool
  | startsWith => true
  | exact => true
  | _ => false

/-- Whether the text has to stand at the end. -/
def tiesEnd : TextMatch → Bool
  | endsWith => true
  | exact => true
  | _ => false

/-- Whether the characters of a literal text stand in a text in one of the ways of matching. -/
def Finds (mode : TextMatch) (rule : Text.CaseRule) (raw text : List Char) : Prop :=
  ∃ before found behind, text = before ++ (found ++ behind) ∧ SameText rule raw found ∧
    (mode.tiesStart = true → before = []) ∧ (mode.tiesEnd = true → behind = [])

variable {mode : TextMatch} {rule : Text.CaseRule} {raw text : List Char}

theorem finds_self (mode : TextMatch) (rule : Text.CaseRule) (raw : List Char) :
    mode.Finds rule raw raw :=
  ⟨[], raw, [], by simp, .refl rule raw, fun _ ↦ rfl, fun _ ↦ rfl⟩

theorem Finds.length_le (h : mode.Finds rule raw text) : raw.length ≤ text.length := by
  obtain ⟨before, found, behind, rfl, hsame, -, -⟩ := h
  rw [List.length_append, List.length_append, ← hsame.length_eq]
  omega

/-- A text of the same length is found as a whole. -/
theorem Finds.sameText (h : mode.Finds rule raw text) (hlength : text.length ≤ raw.length) :
    SameText rule raw text := by
  obtain ⟨before, found, behind, rfl, hsame, -, -⟩ := h
  rw [List.length_append, List.length_append, ← hsame.length_eq] at hlength
  obtain rfl := List.length_eq_zero_iff.1 (show before.length = 0 by omega)
  obtain rfl := List.length_eq_zero_iff.1 (show behind.length = 0 by omega)
  rwa [List.nil_append, List.append_nil]

end TextMatch

/-! ## Places -/

namespace Regex

variable {text : List Char}

theorem reach_sequence_append (text : Array Char) (parts others : List Regex) (places : Places) :
    reach text (sequence (parts ++ others)) places =
      reach text (sequence others) (reach text (sequence parts) places) := by
  induction parts generalizing places with
  | nil => rfl
  | cons part rest ih => exact ih (reach text part places)

/-- A character is passed where one that is the same stands. -/
theorem mem_reach_char {rule : Text.CaseRule} {c : Char} {places : Places} {place : Nat} :
    place ∈ reach text.toArray (.char rule c) places ↔
      ∃ before d behind, text = before ++ d :: behind ∧ rule.same c d = true ∧
        before.length ∈ places ∧ place = before.length + 1 := by
  rw [reach, List.mem_filterMap]
  constructor
  · rintro ⟨start, hstart, hafter⟩
    unfold after? at hafter
    split at hafter
    · rename_i d hd
      split at hafter
      · rename_i hsame
        rw [List.getElem?_toArray] at hd
        obtain ⟨hlt, hget⟩ := List.getElem?_eq_some_iff.1 hd
        have hlength : (text.take start).length = start := by
          rw [List.length_take]
          omega
        refine ⟨text.take start, d, text.drop (start + 1), ?_, hsame, ?_, ?_⟩
        · rw [← hget, List.getElem_cons_drop, List.take_append_drop]
        · rwa [hlength]
        · rw [hlength]
          exact (Option.some.inj hafter).symm
      · cases hafter
    · cases hafter
  · rintro ⟨before, d, behind, rfl, hsame, hstart, rfl⟩
    refine ⟨before.length, hstart, ?_⟩
    unfold after?
    rw [List.getElem?_toArray, List.getElem?_append_right (Nat.le_refl _), Nat.sub_self,
      List.getElem?_cons_zero]
    exact if_pos hsame

/-- The characters of a text are passed where the same ones stand. -/
theorem mem_reach_characters {ignoreCase : Bool} {raw : List Char} {places : Places} {place : Nat}
    (hplaces : ∀ start ∈ places, start ≤ text.length) :
    place ∈ reach text.toArray (sequence (Literal.characters ignoreCase raw)) places ↔
      ∃ before found behind, text = before ++ (found ++ behind) ∧
        SameText (Literal.caseRule ignoreCase) raw found ∧ before.length ∈ places ∧
          place = before.length + found.length := by
  induction raw generalizing places with
  | nil =>
    constructor
    · intro (hplace : place ∈ places)
      have hlength : (text.take place).length = place :=
        List.length_take_of_le (hplaces place hplace)
      refine ⟨text.take place, [], text.drop place, ?_, .nil, ?_, ?_⟩
      · rw [List.nil_append, List.take_append_drop]
      · rwa [hlength]
      · rw [hlength, List.length_nil, Nat.add_zero]
    · rintro ⟨before, found, behind, -, hsame, hstart, rfl⟩
      rw [← hsame.length_eq]
      exact hstart
  | cons c rest ih =>
    have hnext : ∀ start ∈ reach text.toArray (.char (Literal.caseRule ignoreCase) c) places,
        start ≤ text.length := by
      intro start hstart
      obtain ⟨before, d, behind, rfl, -, -, rfl⟩ := mem_reach_char.1 hstart
      rw [List.length_append, List.length_cons]
      omega
    refine (ih hnext).trans ⟨?_, ?_⟩
    · rintro ⟨passed, found, behind, rfl, hsame, hpassed, rfl⟩
      obtain ⟨before, d, others, htext, hd, hstart, hlength⟩ := mem_reach_char.1 hpassed
      have hsplit : passed ++ (found ++ behind) = (before ++ [d]) ++ others := by
        rw [htext, List.append_assoc, List.singleton_append]
      have hends : passed.length = (before ++ [d]).length := by
        rw [hlength, List.length_append, List.length_singleton]
      obtain ⟨rfl, -⟩ := List.append_inj hsplit hends
      refine ⟨before, d :: found, behind, ?_, .cons hd hsame, hstart, ?_⟩
      · rw [List.append_assoc, List.singleton_append, List.cons_append]
      · rw [hlength, List.length_cons]
        omega
    · rintro ⟨before, found, behind, rfl, hsame, hstart, rfl⟩
      cases hsame with
      | @cons _ d _ found hd hsame =>
        refine ⟨before ++ [d], found, behind, ?_, hsame, mem_reach_char.2 ?_, ?_⟩
        · rw [List.append_assoc, List.singleton_append, List.cons_append]
        · refine ⟨before, d, found ++ behind, rfl, hd, hstart, ?_⟩
          rw [List.length_append, List.length_singleton]
        · rw [List.length_append, List.length_singleton, List.length_cons]
          omega

/-- Of the places of a text only the first one is its start. -/
theorem mem_reach_textStart {place : Nat} :
    place ∈ reach text.toArray (.anchor .textStart) (List.range (text.length + 1)) ↔
      place = 0 := by
  rw [reach, List.mem_filter, List.mem_range, Anchor.holdsAt, Anchor.holds]
  constructor
  · rintro ⟨hplace, hstart⟩
    by_cases hzero : place = 0
    · exact hzero
    · rw [if_neg hzero, List.getElem?_toArray, Option.isNone_iff_eq_none,
        List.getElem?_eq_none_iff] at hstart
      omega
  · rintro rfl
    exact ⟨Nat.succ_pos _, rfl⟩

theorem mem_reach_textEnd {places : Places} {place : Nat} :
    place ∈ reach text.toArray (.anchor .textEnd) places ↔
      place ∈ places ∧ text.length ≤ place := by
  rw [reach, List.mem_filter, Anchor.holdsAt, Anchor.holds, List.getElem?_toArray,
    Option.isNone_iff_eq_none, List.getElem?_eq_none_iff]

end Regex

/-! ## Searches -/

open Regex

namespace Literal

variable {ignoreCase : Bool} {raw : String} {mode : TextMatch} {text : List Char} {place : Nat}

/-- The anchors of a literal pattern are those that its way of matching asks for. -/
theorem parts_eq (ignoreCase : Bool) (raw : String) (mode : TextMatch) :
    parts ignoreCase raw mode =
      (if mode.tiesStart then [.anchor .textStart] else []) ++
        characters ignoreCase raw.toList ++ if mode.tiesEnd then [.anchor .textEnd] else [] := by
  cases mode <;> simp [parts, TextMatch.tiesStart, TextMatch.tiesEnd]

/-- The places where a literal pattern begins to look for its characters. -/
def starts (mode : TextMatch) (text : List Char) : Places :=
  reach text.toArray (sequence (if mode.tiesStart then [.anchor .textStart] else []))
    (List.range (text.length + 1))

theorem mem_starts :
    place ∈ starts mode text ↔ place ≤ text.length ∧ (mode.tiesStart = true → place = 0) := by
  unfold starts
  cases mode.tiesStart with
  | false =>
    rw [← Nat.lt_succ_iff, ← List.mem_range]
    exact ⟨fun hplace ↦ ⟨hplace, Bool.noConfusion⟩, And.left⟩
  | true =>
    refine mem_reach_textStart.trans ⟨?_, fun hplace ↦ hplace.2 rfl⟩
    rintro rfl
    exact ⟨Nat.zero_le _, fun _ ↦ rfl⟩

/-- A literal pattern ends where its characters do, and at the end of the text if it is tied to it. -/
theorem mem_reach_regex :
    place ∈ reach text.toArray (regex ignoreCase raw mode) (List.range (text.length + 1)) ↔
      place ∈ reach text.toArray (sequence (characters ignoreCase raw.toList)) (starts mode text) ∧
        (mode.tiesEnd = true → text.length ≤ place) := by
  rw [regex, parts_eq, reach_sequence_append, reach_sequence_append, ← starts]
  cases mode.tiesEnd with
  | false => exact ⟨fun hplace ↦ ⟨hplace, Bool.noConfusion⟩, And.left⟩
  | true =>
    refine mem_reach_textEnd.trans (and_congr_right fun _ ↦ ?_)
    exact ⟨fun h _ ↦ h, fun h ↦ h rfl⟩

/-- A literal pattern matches a text exactly where it finds its characters as its way of matching asks
for. -/
theorem isMatch_regex_iff {s : String} :
    (regex ignoreCase raw mode).isMatch s = true ↔
      mode.Finds (caseRule ignoreCase) raw.toList s.toList := by
  rw [isMatch, Bool.not_eq_true', List.isEmpty_eq_false_iff_exists_mem, List.size_toArray]
  have hstarts : ∀ start ∈ starts mode s.toList, start ≤ s.toList.length :=
    fun start hstart ↦ (mem_starts.1 hstart).1
  constructor
  · rintro ⟨place, hplace⟩
    obtain ⟨hplace, hend⟩ := mem_reach_regex.1 hplace
    obtain ⟨before, found, behind, htext, hsame, hstart, rfl⟩ :=
      (mem_reach_characters hstarts).1 hplace
    refine ⟨before, found, behind, htext, hsame, ?_, ?_⟩
    · exact fun h ↦ List.length_eq_zero_iff.1 ((mem_starts.1 hstart).2 h)
    · intro h
      have hlength := hend h
      rw [htext, List.length_append, List.length_append] at hlength
      exact List.length_eq_zero_iff.1 (by omega)
  · rintro ⟨before, found, behind, htext, hsame, hstart, hend⟩
    have hlength : s.toList.length = before.length + (found.length + behind.length) := by
      rw [htext, List.length_append, List.length_append]
    refine ⟨before.length + found.length, mem_reach_regex.2 ⟨?_, ?_⟩⟩
    · refine (mem_reach_characters hstarts).2 ⟨before, found, behind, htext, hsame, ?_, rfl⟩
      exact mem_starts.2 ⟨by omega, fun h ↦ List.length_eq_zero_iff.2 (hstart h)⟩
    · intro h
      rw [hlength, List.length_eq_zero_iff.2 (hend h)]
      omega

end Literal

end DocQuery
