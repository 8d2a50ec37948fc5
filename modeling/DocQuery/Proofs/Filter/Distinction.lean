import DocQuery.Proofs.Filter.Complement
import DocQuery.Proofs.Filter.Replacement
import DocQuery.Proofs.Regex.LiteralMatch
import DocQuery.Proofs.Store.Identity

/-!
# Telling Clauses Apart

Two clauses on one field are read alike if their conditions are, for every value that the field may have.
So one value of the field is enough to tell them apart, where both conditions are read as they are meant.

An equality with a text selects the texts in which the characters of its own text stand as its options ask
for, whether it is a search or not.  Every search finds more than one text, and so does a comparison of
the order of texts.
-/

namespace DocQuery

variable {field : String} {c d : Condition}

/-! ## Clauses on one field -/

/-- A condition that is no list is refused under every name but that of a field. -/
theorem conditionPasses_of_not_array {condition : Bson} (h : ∀ items, condition ≠ .array items)
    (doc : Document) (name : String) :
    conditionPasses doc name condition =
      match ConditionName.of name with
      | .field => fieldMatches (Fields.get? name doc) condition
      | .unknownOperator => .error (.filter (.topLevelOperator name))
      | _ => .error (.filter (.needsArray name)) := by
  unfold conditionPasses
  cases condition with
  | array items => exact absurd rfl (h items)
  | _ => cases ConditionName.of name <;> rfl

/-- Clauses are read alike if their conditions are, where no condition is a list. -/
theorem MatchTree.readsLike_clause (hc : ∀ items, c.toBson ≠ .array items)
    (hd : ∀ items, d.toBson ≠ .array items)
    (h : ∀ value, fieldMatches value c.toBson = fieldMatches value d.toBson) :
    (MatchTree.clause field c).ReadsLike (.clause field d) := by
  intro doc
  rw [toDocument, toDocument, matches_singleton, matches_singleton, conditionPasses_of_not_array hc,
    conditionPasses_of_not_array hd, h]

/-- Clauses that are read alike have conditions that are, unless the field is spelled like an
operator. -/
theorem MatchTree.ReadsLike.fieldMatches_eq (h : (MatchTree.clause field c).ReadsLike (.clause field d))
    (hfield : isOperatorName field = false) (value : Option Bson) :
    fieldMatches value c.toBson = fieldMatches value d.toBson := by
  have hread (doc : Document) (hvalue : Fields.get? field doc = value) :
      fieldMatches value c.toBson = fieldMatches value d.toBson := by
    have hdoc := h doc
    rwa [toDocument, toDocument, matches_single doc hfield, matches_single doc hfield, hvalue] at hdoc
  cases value with
  | none => exact hread [] rfl
  | some x => exact hread [(field, x)] (if_pos rfl)

/-- Of two clauses that are read alike both are read without an error, if one is. -/
theorem MatchTree.ReadsLike.isReadable (h : (MatchTree.clause field c).ReadsLike (.clause field d))
    (hfield : isOperatorName field = false) (hc : c.IsReadable)
    (hd : ∀ value, d = .equals value → isOperatorDocument value = false) : d.IsReadable := by
  have hread := h.fieldMatches_eq hfield none
  rw [fieldMatches_toBson none hc] at hread
  have hsearch (p : Pattern) (truth : Bool) (hp : p.search none = .ok truth) :
      p.regex?.isSome = true := by
    unfold Pattern.search at hp
    cases hregex : p.regex? with
    | some r => rfl
    | none =>
      rw [hregex] at hp
      cases hp
  cases d with
  | null => exact trivial
  | equals value => exact hd value rfl
  | compare op value => exact trivial
  | contains p =>
    rw [Condition.toBson, fieldMatches_toDocument] at hread
    exact hsearch p _ hread.symm
  | lacks p =>
    rw [fieldMatches_lacks] at hread
    obtain ⟨truth, htruth, -⟩ := map_eq_ok.1 hread.symm
    exact hsearch p truth htruth

/-- Clauses that are read alike, as they are meant, hold for the same values. -/
theorem MatchTree.ReadsLike.holds_eq (h : (MatchTree.clause field c).ReadsLike (.clause field d))
    (hfield : isOperatorName field = false) (hc : c.IsReadable) (hd : d.IsReadable)
    (value : Option Bson) : c.holds value = d.holds value := by
  have hread := h.fieldMatches_eq hfield value
  rw [fieldMatches_toBson value hc, fieldMatches_toBson value hd] at hread
  exact Except.ok.inj hread

/-! ## Equality with a text -/

theorem fieldEquals_string (s raw : String) :
    fieldEquals (some (.string s)) (.string raw) = true ↔ s = raw := by
  rw [fieldEquals_identity (a := .string s) (b := .string raw) rfl rfl, decide_eq_true_iff,
    Identity.text.injEq]

namespace TextMatch

variable {mode : TextMatch} {rule : Text.CaseRule} {raw text : List Char}

/-- A search for a text that ends with a letter finds another text as well, unless it asks for this very
text. -/
theorem exists_finds_ne {front : List Char} {caseSensitive : Bool} (hraw : raw = front ++ ['Z'])
    (h : ¬(mode = .exact ∧ caseSensitive = true)) :
    ∃ text, text ≠ raw ∧ mode.Finds (Literal.caseRule !caseSensitive) raw text := by
  have hself := SameText.refl (Literal.caseRule !caseSensitive) raw
  cases mode with
  | startsWith | includes =>
    exact ⟨raw ++ ['x'], by simp, [], raw, ['x'], rfl, hself, fun _ ↦ rfl, Bool.noConfusion⟩
  | endsWith =>
    exact ⟨'x' :: raw, by simp, ['x'], raw, [], by simp, hself, Bool.noConfusion, fun _ ↦ rfl⟩
  | exact =>
    obtain rfl : caseSensitive = false := by simpa using h
    have hsame : SameText (Literal.caseRule true) (front ++ ['Z']) (front ++ ['z']) :=
      (SameText.append_iff rfl).2 ⟨.refl _ _, .cons (by decide) .nil⟩
    rw [hraw]
    exact ⟨front ++ ['z'], by simp, [], front ++ ['z'], [], by simp, hsame, fun _ ↦ rfl, fun _ ↦ rfl⟩

end TextMatch

namespace Property

variable {p : Property} {path : TokenPath}

theorem isOperatorDocument_of_textEquality {value : Bson} (h : p.textEquality = .equals value) :
    isOperatorDocument value = false := by
  unfold textEquality at h
  split at h
  · rw [← Condition.equals.inj h]
    rfl
  · cases h

theorem textInequality_ne_equals (value : Bson) : p.textInequality ≠ .equals value := by
  unfold textInequality
  split
  · exact Condition.noConfusion
  · exact Condition.noConfusion

theorem isReadable_textInequality_iff :
    p.textInequality.IsReadable ↔ p.textEquality.IsReadable := by
  unfold textInequality textEquality
  split
  · exact ⟨fun _ ↦ rfl, fun _ ↦ trivial⟩
  · exact Iff.rfl

theorem ComparesText.clause_of_eq (h : p.ComparesText) (hsymbol : p.symbol = .eq) (path : TokenPath) :
    p.clause path = .ok (.clause p.key p.textEquality) := by
  have hself : p.withSymbol .eq = p := by rw [withSymbol, ← hsymbol]
  have hcondition : (p.withSymbol .eq).condition path = .ok p.textEquality := h.condition_eq
  rw [hself] at hcondition
  rw [clause, hcondition]
  rfl

theorem ComparesText.clause_of_ne (h : p.ComparesText) (hsymbol : p.symbol = .ne) (path : TokenPath) :
    p.clause path = .ok (.clause p.key p.textInequality) := by
  have hself : p.withSymbol .ne = p := by rw [withSymbol, ← hsymbol]
  have hcondition : (p.withSymbol .ne).condition path = .ok p.textInequality := h.condition_ne
  rw [hself] at hcondition
  rw [clause, hcondition]
  rfl

theorem ComparesText.isReadable_textEquality (h : p.ComparesText) (hfits : p.PatternFits) :
    p.textEquality.IsReadable := by
  have hcondition : (p.withSymbol .eq).condition [] = .ok p.textEquality := h.condition_eq
  exact condition_isReadable (p := p.withSymbol .eq) (fun hstring ↦ absurd h.1 hstring) hfits hcondition

theorem textCondition_eq_ok (h : p.textCondition path = .ok c) :
    p.symbol = .eq ∧ c = p.textEquality ∨ p.symbol = .ne ∧ c = p.textInequality := by
  unfold textCondition at h
  cases hsymbol : p.symbol with
  | eq =>
    rw [hsymbol] at h
    exact .inl ⟨rfl, (Except.ok.inj h).symm⟩
  | ne =>
    rw [hsymbol] at h
    exact .inr ⟨rfl, (Except.ok.inj h).symm⟩
  | _ =>
    rw [hsymbol] at h
    cases h

/-- A field that is missing is not equal to a text. -/
theorem holds_textEquality_none (p : Property) : p.textEquality.holds none = false := by
  unfold textEquality
  split
  · rfl
  · rw [Condition.holds]
    cases Pattern.regex? _ <;> rfl

/-- Whether a text has the text of a comparison where its options ask for it. -/
def Finds (p : Property) (text : List Char) : Prop :=
  p.options.mode.Finds (Literal.caseRule !p.options.caseSensitive) p.value.text.toList text

/-- An equality with a text selects the texts that it finds. -/
theorem holds_textEquality_iff (hread : p.textEquality.IsReadable) (s : String) :
    p.textEquality.holds (some (.string s)) = true ↔ p.Finds s.toList := by
  unfold textEquality at hread ⊢
  unfold Finds
  by_cases hplain : p.options.mode = .exact ∧ p.options.caseSensitive = true
  · rw [if_pos hplain, hplain.1, hplain.2]
    refine (fieldEquals_string s p.value.text).trans ⟨?_, ?_⟩
    · rintro rfl
      exact ⟨[], p.value.text.toList, [], by simp, .refl _ _, fun _ ↦ rfl, fun _ ↦ rfl⟩
    · rintro ⟨before, found, behind, htext, hsame, hstart, hend⟩
      rw [hstart rfl, hend rfl, List.nil_append, List.append_nil, ← hsame.eq_of_exact] at htext
      exact String.toList_inj.1 htext
  · rw [if_neg hplain] at hread ⊢
    obtain ⟨r, hr⟩ := Option.isSome_iff_exists.1 hread
    have hregex := hr
    rw [Pattern.regex?, Regex.ofPattern?_pattern] at hregex
    split at hregex
    · cases hregex
      rw [Condition.holds, hr, Option.any_some, Regex.matchesField]
      exact Literal.isMatch_regex_iff
    · cases hregex

/-- An equality with a text that selects a single text is plain, and this is its own text. -/
theorem eq_of_holds_textEquality {front : List Char} {only : String}
    (hraw : p.value.text.toList = front ++ ['Z']) (hread : p.textEquality.IsReadable)
    (h : ∀ s, p.textEquality.holds (some (.string s)) = true → s = only) :
    p.value.text = only ∧ p.options.mode = .exact ∧ p.options.caseSensitive = true := by
  have hfound (text : List Char) (hfinds : p.Finds text) : String.ofList text = only := by
    refine h _ ((holds_textEquality_iff hread _).2 ?_)
    rwa [String.toList_ofList]
  have hself := hfound _ (TextMatch.finds_self _ _ _)
  rw [String.ofList_toList] at hself
  refine ⟨hself, ?_⟩
  by_cases hplain : p.options.mode = .exact ∧ p.options.caseSensitive = true
  · exact hplain
  obtain ⟨text, hne, hfinds⟩ := TextMatch.exists_finds_ne hraw hplain
  have hother := hfound text hfinds
  rw [← hself] at hother
  exact absurd (by rw [← hother, String.toList_ofList]) hne

end Property

/-! ## Order of texts -/

/-- A comparison of the order of texts is passed by the text with something behind it or by the empty
one. -/
theorem Comparator.exists_holds {op : Comparator} (heq : op ≠ .eq) (hne : op ≠ .ne) {raw : String}
    (hraw : raw ≠ "") :
    op.holds (some (.string (raw ++ "x"))) (.string raw) = true ∨
      op.holds (some (.string "")) (.string raw) = true := by
  have hcompare (s : String) : Bson.compare? (.string s) (.string raw) = some (compare s raw) := rfl
  have hbehind : raw < raw ++ "x" := by
    change raw.toList < (raw ++ "x").toList
    rw [String.toList_append]
    exact List.lt_iff_exists.2 (.inl ⟨by simp, by simp⟩)
  have hgreater : compare (raw ++ "x") raw = .gt :=
    (compareOfLessAndEq_eq_gt String.le_antisymm String.le_total String.not_le _ _).2 hbehind
  have hbefore : "" < raw := by
    change [] < raw.toList
    cases hchars : raw.toList with
    | nil => exact absurd (String.toList_eq_nil_iff.1 hchars) hraw
    | cons c rest => exact List.nil_lt_cons c rest
  have hless : compare "" raw = .lt := compareOfLessAndEq_eq_lt.2 hbefore
  cases op with
  | eq => exact absurd rfl heq
  | ne => exact absurd rfl hne
  | gt | gte =>
    left
    simp [holds, fieldCompare?, hcompare, hgreater]
  | lt | lte =>
    right
    simp [holds, fieldCompare?, hcompare, hless]

/-- A comparison with a text that selects a single text, which ends with a letter, is equality with this
text. -/
theorem Comparator.eq_of_holds {op : Comparator} (hne : op ≠ .ne) {front : List Char} {raw only : String}
    (hraw : raw ≠ "") (honly : only.toList = front ++ ['Z'])
    (h : ∀ s, op.holds (some (.string s)) (.string raw) = true → s = only) :
    op = .eq ∧ raw = only := by
  by_cases heq : op = .eq
  · refine ⟨heq, h raw ?_⟩
    rw [heq]
    exact (fieldEquals_string raw raw).2 rfl
  rcases exists_holds heq hne hraw with hholds | hholds
  · have htext := congrArg String.toList (h _ hholds)
    rw [honly, String.toList_append] at htext
    exact absurd (List.append_inj_right' htext rfl) (by decide)
  · have htext := congrArg String.toList (h _ hholds)
    rw [honly] at htext
    simp at htext

end DocQuery
