import DocQuery.Proofs.Filter.Distinction

/-!
# What Comparisons of Texts Select

A comparison of texts means its text literally, whatever characters stand in it.  Characters are seen as
they are or, where case is ignored, by their case foldings; seen like this, the text has to be the field,
its beginning, its end or a part of it.  Equality selects the documents of which this holds, inequality all
others, those with a missing field or another value than a text included.

Nothing is searched for in the plain comparison of whole texts with regard to case, which has the same
meaning nonetheless.
-/

namespace DocQuery

/-- How the characters of a comparison are seen: as they are or by their case foldings. -/
def TextOptions.seen (o : TextOptions) : Char → Char := if o.caseSensitive then id else Text.fold

/-- Whether a text stands in another in a way of matching. -/
def TextMatch.Holds (mode : TextMatch) (raw text : List Char) : Prop :=
  match mode with
  | exact => text = raw
  | startsWith => raw <+: text
  | endsWith => raw <:+ text
  | includes => raw <:+: text

instance (mode : TextMatch) (raw text : List Char) : Decidable (mode.Holds raw text) :=
  match mode with
  | .exact => inferInstanceAs (Decidable (text = raw))
  | .startsWith => inferInstanceAs (Decidable (raw <+: text))
  | .endsWith => inferInstanceAs (Decidable (raw <:+ text))
  | .includes => inferInstanceAs (Decidable (raw <:+: text))

/-- Whether a field is a text in which the text of a comparison stands, with its characters as they are
seen. -/
def Property.isIn (p : Property) : Option Bson → Bool
  | some (.string s) =>
    decide (p.options.mode.Holds (p.value.text.toList.map p.options.seen)
      (s.toList.map p.options.seen))
  | _ => false

/-! ## Characters as they are seen -/

/-- The ways of matching say where a text may stand. -/
theorem TextMatch.holds_iff {mode : TextMatch} {raw text : List Char} :
    mode.Holds raw text ↔
      ∃ before behind, text = before ++ (raw ++ behind) ∧
        (mode.tiesStart = true → before = []) ∧ (mode.tiesEnd = true → behind = []) := by
  cases mode with
  | exact => simp [Holds, tiesStart, tiesEnd]
  | startsWith => simp [Holds, tiesStart, tiesEnd, List.IsPrefix, eq_comm]
  | endsWith => simp [Holds, tiesStart, tiesEnd, List.IsSuffix, eq_comm]
  | includes => simp [Holds, tiesStart, tiesEnd, List.IsInfix, eq_comm]

theorem TextOptions.same_iff (o : TextOptions) (c d : Char) :
    (Literal.caseRule !o.caseSensitive).same c d = true ↔ o.seen c = o.seen d := by
  unfold seen
  cases o.caseSensitive with
  | false => exact beq_iff_eq
  | true => exact beq_iff_eq

/-- Texts have the same characters where they are seen as the same text. -/
theorem TextOptions.sameText_iff (o : TextOptions) {raw found : List Char} :
    SameText (Literal.caseRule !o.caseSensitive) raw found ↔ raw.map o.seen = found.map o.seen := by
  induction raw generalizing found with
  | nil =>
    rw [List.map_nil, eq_comm, List.map_eq_nil_iff]
    constructor
    · rintro ⟨⟩
      rfl
    · rintro rfl
      exact .nil
  | cons c rest ih =>
    rw [List.map_cons, eq_comm, List.map_eq_cons_iff]
    constructor
    · rintro (_ | ⟨hfirst, hrest⟩)
      exact ⟨_, _, rfl, ((o.same_iff _ _).1 hfirst).symm, (ih.1 hrest).symm⟩
    · rintro ⟨d, others, rfl, hfirst, hrest⟩
      exact .cons ((o.same_iff c d).2 hfirst.symm) (ih.2 hrest.symm)

/-- A comparison finds its text where it stands as it is seen. -/
theorem Property.finds_iff (p : Property) (text : List Char) :
    p.Finds text ↔
      p.options.mode.Holds (p.value.text.toList.map p.options.seen) (text.map p.options.seen) := by
  unfold Finds TextMatch.Finds
  rw [TextMatch.holds_iff]
  constructor
  · rintro ⟨before, found, behind, rfl, hsame, hstart, hend⟩
    refine ⟨before.map p.options.seen, behind.map p.options.seen, ?_, ?_, ?_⟩
    · rw [p.options.sameText_iff.1 hsame, List.map_append, List.map_append]
    · exact fun h ↦ by rw [hstart h, List.map_nil]
    · exact fun h ↦ by rw [hend h, List.map_nil]
  · rintro ⟨front, back, htext, hstart, hend⟩
    obtain ⟨before, others, rfl, rfl, hothers⟩ := List.map_eq_append_iff.1 htext
    obtain ⟨found, behind, rfl, hfound, rfl⟩ := List.map_eq_append_iff.1 hothers
    refine ⟨before, found, behind, rfl, p.options.sameText_iff.2 hfound.symm, ?_, ?_⟩
    · exact fun h ↦ List.map_eq_nil_iff.1 (hstart h)
    · exact fun h ↦ List.map_eq_nil_iff.1 (hend h)

/-! ## Selected documents -/

namespace Property

variable {p : Property}

/-- A field that is no text is not equal to one. -/
theorem holds_textEquality_of_ne {field : Option Bson} (h : ∀ s, field ≠ some (.string s)) :
    p.textEquality.holds field = false := by
  have hmatches (r : Regex) : r.matchesField field = false := by
    unfold Regex.matchesField
    split
    · exact absurd rfl (h _)
    · rfl
  have hequals (raw : String) : fieldEquals field (.string raw) = false := by
    match field with
    | none => rfl
    | some b => cases b <;> first | rfl | exact absurd rfl (h _)
  unfold textEquality
  split
  · exact hequals _
  · rw [Condition.holds]
    cases Pattern.regex? _ with
    | none => rfl
    | some r => exact hmatches r

/-- Equality with a text holds of the fields in which the text stands. -/
theorem holds_textEquality (hread : p.textEquality.IsReadable) (field : Option Bson) :
    p.textEquality.holds field = p.isIn field := by
  unfold isIn
  split
  · rename_i s
    rw [Bool.eq_iff_iff, holds_textEquality_iff hread, finds_iff, decide_eq_true_iff]
  · rename_i hother
    exact holds_textEquality_of_ne hother

/-- The clauses of a comparison of texts are read without an error, to whether the text stands in the
field for equality and to the opposite for inequality, if a search is not too large. -/
theorem clause_selects_text (p : Property) (path : TokenPath) (htext : p.ComparesText)
    (hkey : isOperatorName p.key = false) (hfits : p.PatternFits) :
    (p.symbol = .eq → ∃ tree, p.clause path = .ok tree ∧
        ∀ doc, Document.matches doc tree.toDocument = .ok (p.isIn (Fields.get? p.key doc))) ∧
      (p.symbol = .ne → ∃ tree, p.clause path = .ok tree ∧
        ∀ doc, Document.matches doc tree.toDocument = .ok !p.isIn (Fields.get? p.key doc)) := by
  have hread := htext.isReadable_textEquality hfits
  constructor
  · intro hsymbol
    refine ⟨_, htext.clause_of_eq hsymbol path, fun doc ↦ ?_⟩
    rw [matches_clause doc hkey hread, holds_textEquality hread]
  · intro hsymbol
    refine ⟨_, htext.clause_of_ne hsymbol path, fun doc ↦ ?_⟩
    rw [matches_clause doc hkey (isReadable_textInequality_iff.2 hread), holds_textInequality,
      holds_textEquality hread]

/-- A part that has a point in it, between letters that have unusual foldings: the Kelvin sign and the long
s. -/
theorem clause_selects_text_foldedPart :
    let p : Property := { key := "name", value := .string "k.\u017f", options := { includes := true } }
    p.ComparesText ∧ isOperatorName p.key = false ∧ p.PatternFits ∧ p.symbol = .eq ∧
      ∃ tree, p.clause [] = .ok tree ∧
        Document.matches [("name", .string "0\u212a.S")] tree.toDocument = .ok true ∧
          Document.matches [("name", .string "kas")] tree.toDocument = .ok false := by
  intro p
  have htext : p.ComparesText := ⟨rfl, rfl, rfl⟩
  have hkey : isOperatorName p.key = false := by decide
  have hfits : p.PatternFits := fun _ ↦ by decide +kernel
  obtain ⟨tree, hclause, hmatches⟩ := (clause_selects_text p [] htext hkey hfits).1 rfl
  have hfound : p.isIn (some (.string "0\u212a.S")) = true := by decide +kernel
  have hother : p.isIn (some (.string "kas")) = false := by decide +kernel
  refine ⟨htext, hkey, hfits, rfl, tree, hclause, ?_, ?_⟩
  · exact (hmatches _).trans (congrArg Except.ok hfound)
  · exact (hmatches _).trans (congrArg Except.ok hother)

end Property

end DocQuery
