import DocQuery.Proofs.Filter.Meaning

/-!
# Equal and Not Equal

The symbols of equality and inequality are read as such in comparisons of texts only.  A comparison with
an absent value or with an instant, or under a type other than text and number, has one condition for
all symbols, and one of numbers has none for inequality.

The main statement is that the two clauses of a comparison choose complementary documents exactly where
texts are compared, by a search that is not too large.  Everywhere else where both symbols have a clause,
it is the same clause.
-/

namespace DocQuery

/-- Whether every document is selected by one of two trees and not by the other, without an error. -/
def MatchTree.Complements (one other : MatchTree) : Prop :=
  ∀ doc, ∃ truth, one.Means doc truth ∧ other.Means doc !truth

/-- No tree complements itself. -/
theorem MatchTree.not_complements_self (tree : MatchTree) : ¬tree.Complements tree := by
  intro h
  obtain ⟨truth, hone, hother⟩ := h []
  have hsame : truth = !truth := hone.selects.symm.trans hother.selects
  cases truth <;> cases hsame

namespace Property

/-- Whether a comparison is one of texts: for values that are neither absent nor instants. -/
def ComparesText (p : Property) : Prop :=
  p.valueType = .string ∧ p.value.isAbsent = false ∧ p.value.instant? = none

/-- A comparison with another symbol. -/
def withSymbol (p : Property) (symbol : Symbol) : Property := { p with symbol }

/-- The condition of equality with a text. -/
def textEquality (p : Property) : Condition :=
  if p.options.mode = .exact ∧ p.options.caseSensitive then .equals (.string p.value.text)
  else .contains
    { regex := Literal.pattern p.value.text p.options.mode, ignoreCase := !p.options.caseSensitive }

/-- The condition of inequality with a text. -/
def textInequality (p : Property) : Condition :=
  if p.options.mode = .exact ∧ p.options.caseSensitive then .compare .ne (.string p.value.text)
  else .lacks
    { regex := Literal.pattern p.value.text p.options.mode, ignoreCase := !p.options.caseSensitive }

variable {p : Property} {path : TokenPath}

/-! ## Comparisons of texts -/

theorem ComparesText.condition_eq (h : p.ComparesText) :
    (p.withSymbol .eq).condition path = .ok p.textEquality := by
  obtain ⟨htype, habsent, hinstant⟩ := h
  simp [withSymbol, condition, htype, habsent, hinstant, textCondition, textEquality]

theorem ComparesText.condition_ne (h : p.ComparesText) :
    (p.withSymbol .ne).condition path = .ok p.textInequality := by
  obtain ⟨htype, habsent, hinstant⟩ := h
  simp [withSymbol, condition, htype, habsent, hinstant, textCondition, textInequality]

/-- A field satisfies the inequality where it does not satisfy the equality. -/
theorem holds_textInequality (p : Property) (field : Option Bson) :
    p.textInequality.holds field = !p.textEquality.holds field := by
  unfold textInequality textEquality
  split <;> rfl

/-- The clauses of a comparison of texts are complementary, if a search is not too large. -/
theorem ComparesText.complements (h : p.ComparesText) (hfits : p.PatternFits)
    (hkey : isOperatorName p.key = false) :
    (MatchTree.clause p.key p.textEquality).Complements
      (MatchTree.clause p.key p.textInequality) := by
  have hread {symbol : Symbol} {c : Condition}
      (hcondition : (p.withSymbol symbol).condition [] = .ok c) : c.IsReadable := by
    refine condition_isReadable (p := p.withSymbol symbol) ?_ hfits hcondition
    exact fun hstring ↦ absurd h.1 hstring
  intro doc
  have heq := matches_clause doc hkey (hread h.condition_eq)
  have hne := matches_clause doc hkey (hread h.condition_ne)
  rw [holds_textInequality] at hne
  exact ⟨_, heq, hne⟩

/-- A search that is too large fails for every document, and so does its negation. -/
theorem exists_matches_eq_error (hfits : ¬p.PatternFits) (hkey : isOperatorName p.key = false)
    (doc : Document) :
    ∃ e, Document.matches doc (MatchTree.clause p.key p.textEquality).toDocument = .error e ∧
      Document.matches doc (MatchTree.clause p.key p.textInequality).toDocument = .error e := by
  obtain ⟨⟨-, -, -, hplain⟩, hlarge⟩ := Classical.not_imp.1 hfits
  let pattern : Pattern :=
    { regex := Literal.pattern p.value.text p.options.mode, ignoreCase := !p.options.caseSensitive }
  have hrefused : pattern.regex? = none := by
    simp only [Pattern.regex?, pattern, Regex.ofPattern?_pattern, if_neg hlarge]
  have hsearch (field : Option Bson) :
      pattern.search field = .error (.filter (.badRegex pattern.regex)) := by
    rw [Pattern.search, hrefused]
  have heq : p.textEquality = .contains pattern := if_neg hplain
  have hne : p.textInequality = .lacks pattern := if_neg hplain
  refine ⟨.filter (.badRegex pattern.regex), ?_, ?_⟩
  · rw [heq, MatchTree.toDocument, matches_single doc hkey, Condition.toBson,
      fieldMatches_toDocument, hsearch]
  · rw [hne, MatchTree.toDocument, matches_single doc hkey, fieldMatches_lacks, hsearch]
    rfl

/-! ## Other comparisons -/

/-- A comparison that is not one of texts has the same condition under both symbols, if it has one. -/
theorem condition_ne_eq (h : ¬p.ComparesText) {eq ne : Condition}
    (heq : (p.withSymbol .eq).condition path = .ok eq)
    (hne : (p.withSymbol .ne).condition path = .ok ne) : ne = eq := by
  have hsame (c : Condition) (heq' : (p.withSymbol .eq).condition path = .ok c)
      (hne' : (p.withSymbol .ne).condition path = .ok c) : ne = eq :=
    (Except.ok.inj (hne.symm.trans hne')).trans (Except.ok.inj (heq'.symm.trans heq))
  cases habsent : p.value.isAbsent with
  | true =>
    refine hsame .null ?_ ?_
    · simp [withSymbol, condition, habsent]
    · simp [withSymbol, condition, habsent]
  | false =>
    cases hinstant : p.value.instant? with
    | some t =>
      refine hsame (.equals (.string t.isoText)) ?_ ?_
      · simp [withSymbol, condition, habsent, hinstant]
      · simp [withSymbol, condition, habsent, hinstant]
    | none =>
      cases htype : p.valueType with
      | string => exact absurd ⟨htype, habsent, hinstant⟩ h
      | number =>
        -- inequality of numbers has no condition
        simp [withSymbol, condition, habsent, hinstant, htype, comparator?] at hne
      | date | boolean | object | array =>
        refine hsame (.equals p.value.toBson) ?_ ?_
        · simp [withSymbol, condition, habsent, hinstant, htype]
        · simp [withSymbol, condition, habsent, hinstant, htype]

/-! ## Both symbols -/

/-- Where equality and inequality both have a clause, the two clauses are complementary exactly in
comparisons of texts with a search that is not too large, and in other comparisons than those of texts
they are the same. -/
theorem clause_complements_iff (p : Property) (path : TokenPath) {eq ne : MatchTree}
    (hkey : isOperatorName p.key = false)
    (heq : (p.withSymbol .eq).clause path = .ok eq)
    (hne : (p.withSymbol .ne).clause path = .ok ne) :
    (eq.Complements ne ↔ p.ComparesText ∧ p.PatternFits) ∧ (¬p.ComparesText → ne = eq) := by
  obtain ⟨eqCondition, heqCondition, rfl⟩ := map_eq_ok.1 heq
  obtain ⟨neCondition, hneCondition, rfl⟩ := map_eq_ok.1 hne
  have heqText (h : p.ComparesText) : eqCondition = p.textEquality :=
    Except.ok.inj (heqCondition.symm.trans h.condition_eq)
  have hneText (h : p.ComparesText) : neCondition = p.textInequality :=
    Except.ok.inj (hneCondition.symm.trans h.condition_ne)
  have hsame (h : ¬p.ComparesText) :
      MatchTree.clause p.key neCondition = MatchTree.clause p.key eqCondition := by
    rw [condition_ne_eq h heqCondition hneCondition]
  refine ⟨⟨fun h ↦ ?_, ?_⟩, hsame⟩
  · have htext : p.ComparesText := by
      refine Classical.byContradiction fun hother ↦ ?_
      exact MatchTree.not_complements_self _ (hsame hother ▸ h)
    refine ⟨htext, Classical.byContradiction fun hlarge ↦ ?_⟩
    obtain ⟨truth, hmeans, -⟩ := h []
    obtain ⟨e, herror, -⟩ := exists_matches_eq_error hlarge hkey []
    rw [heqText htext] at hmeans
    exact absurd (herror.symm.trans hmeans) (by simp)
  · rintro ⟨htext, hfits⟩
    rw [heqText htext, hneText htext]
    exact htext.complements hfits hkey

/-- A search that ignores case, with its two clauses. -/
theorem clause_complements_iff_ignoreCase :
    let p : Property := { key := "name", value := .string "a.b", options := { startsWith := true } }
    let pattern : Pattern := { regex := Literal.pattern "a.b" .startsWith, ignoreCase := true }
    isOperatorName p.key = false ∧
      (p.withSymbol .eq).clause [] = .ok (.clause "name" (.contains pattern)) ∧
        (p.withSymbol .ne).clause [] = .ok (.clause "name" (.lacks pattern)) ∧
          (MatchTree.clause "name" (.contains pattern)).Complements
            (.clause "name" (.lacks pattern)) := by
  intro p pattern
  have hkey : isOperatorName p.key = false := by decide
  have heq : (p.withSymbol .eq).clause [] = .ok (.clause "name" (.contains pattern)) := by rfl
  have hne : (p.withSymbol .ne).clause [] = .ok (.clause "name" (.lacks pattern)) := by rfl
  refine ⟨hkey, heq, hne, ?_⟩
  refine (clause_complements_iff p [] hkey heq hne).1.2 ⟨⟨rfl, rfl, rfl⟩, ?_⟩
  exact fun _ ↦ by decide +kernel

/-- An absent value, an instant and a truth value have clauses under both symbols that select the same
document. -/
theorem clause_ne_not_complements :
    let isSelected (p : Property) (symbol : Symbol) (doc : Document) : Prop :=
      isOperatorName p.key = false ∧
        ∃ tree, (p.withSymbol symbol).clause [] = .ok tree ∧
          Document.matches doc tree.toDocument = .ok true
    let absent : Property := { key := "note", value := .null }
    let instant : Property := { key := "at", value := .time { seconds := 0, nanos := 0 } }
    let truth : Property := { key := "done", value := .bool true, valueType := .boolean }
    (isSelected absent .eq [] ∧ isSelected absent .ne []) ∧
      (isSelected instant .eq [("at", .string "1970-01-01T00:00:00.000Z")] ∧
        isSelected instant .ne [("at", .string "1970-01-01T00:00:00.000Z")]) ∧
        isSelected truth .eq [("done", .bool true)] ∧
          isSelected truth .ne [("done", .bool true)] := by
  refine ⟨⟨⟨by decide, _, rfl, rfl⟩, ⟨by decide, _, rfl, rfl⟩⟩,
    ⟨⟨by decide, _, rfl, ?_⟩, ⟨by decide, _, rfl, ?_⟩⟩,
    ⟨by decide, _, rfl, rfl⟩, ⟨by decide, _, rfl, rfl⟩⟩
  · rfl
  · rfl

end Property

end DocQuery
