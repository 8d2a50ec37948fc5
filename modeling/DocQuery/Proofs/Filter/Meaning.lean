import DocQuery.Proofs.Filter.Equations
import DocQuery.Proofs.Query.Nesting
import DocQuery.Proofs.Regex.LiteralPattern
import DocQuery.Proofs.Store.Condition

/-!
# What a Query Means

A query can be read directly: a sequence without connectives holds where all of its tokens hold, and
in any other the first connective joins the first token with the whole rest.  A statement holds where
the match document of its own clause selects the document.

The main statement is that a store that is given the match document of the whole query selects by
this reading and never reports an error.  It rests on three facts: rendering a tree keeps its joining
apart from its clauses, a clause on a field is read back as it is meant, and the pattern of a literal
text is a regular expression that can be read.
-/

namespace DocQuery

/-! ## The direct reading -/

/-- What a connective makes of two truths. -/
def Connective.apply : Connective → Bool → Bool → Bool
  | and => Bool.and
  | or => Bool.or

/-- Whether the match document of a tree selects a document. -/
def MatchTree.selects (doc : Document) (tree : MatchTree) : Bool :=
  match Document.matches doc tree.toDocument with
  | .ok selected => selected
  | .error _ => false

/-- Whether the match document of a statement's own clause selects a document. -/
def Statement.holds (dates : DateRendering) (doc : Document) (s : Statement) : Bool :=
  match s.clause dates [] with
  | .ok tree => tree.selects doc
  | .error _ => false

mutual

/-- Whether a token holds of a document. -/
def Token.holds (dates : DateRendering) (doc : Document) : Token → Bool
  | .connective _ => false
  | .statement s => s.holds dates doc
  | .group tokens =>
    if tokens.any Token.isConnective then chainHolds dates doc tokens
    else allHold dates doc tokens

/-- Whether all tokens of a sequence hold. -/
def allHold (dates : DateRendering) (doc : Document) : List Token → Bool
  | [] => true
  | t :: rest => t.holds dates doc && allHold dates doc rest

/-- Whether a chain holds, which its first connective parts in two. -/
def chainHolds (dates : DateRendering) (doc : Document) : List Token → Bool
  | [t] => t.holds dates doc
  | t :: .connective c :: rest => c.apply (t.holds dates doc) (chainHolds dates doc rest)
  | _ => false

end

/-- Whether a query holds of a document. -/
def queryHolds (dates : DateRendering) (doc : Document) (tokens : List Token) : Bool :=
  Token.holds dates doc (.group tokens)

/-! ## Trees as a store reads them -/

/-- The match document of a tree is read without an error, to a given truth. -/
def MatchTree.Means (doc : Document) (tree : MatchTree) (truth : Bool) : Prop :=
  Document.matches doc tree.toDocument = .ok truth

variable {dates : DateRendering} {doc : Document}

theorem MatchTree.Means.selects {tree : MatchTree} {truth : Bool} (h : tree.Means doc truth) :
    tree.selects doc = truth := by
  unfold MatchTree.selects
  rw [h]

theorem checkEntries_toDocuments (name : String) (trees : List MatchTree) :
    checkEntries name (MatchTree.toDocuments trees) = .ok () := by
  induction trees with
  | nil => rfl
  | cons tree rest ih => exact ih

theorem matches_and (trees : List MatchTree) :
    Document.matches doc (MatchTree.and trees).toDocument =
      matchesEvery doc (MatchTree.toDocuments trees) := by
  have hname : ConditionName.of "$and" = .and := by decide
  rw [MatchTree.toDocument, matches_singleton]
  unfold conditionPasses
  rw [hname]
  simp only [checkEntries_toDocuments]
  rfl

theorem matches_or (trees : List MatchTree) :
    Document.matches doc (MatchTree.or trees).toDocument =
      matchesSome doc (MatchTree.toDocuments trees) := by
  have hname : ConditionName.of "$or" = .or := by decide
  rw [MatchTree.toDocument, matches_singleton]
  unfold conditionPasses
  rw [hname]
  simp only [checkEntries_toDocuments]
  rfl

/-- Joining two trees joins what they mean. -/
theorem MatchTree.Means.join {left right : MatchTree} {a b : Bool} (c : Connective)
    (hleft : left.Means doc a) (hright : right.Means doc b) :
    (c.join left right).Means doc (c.apply a b) := by
  unfold MatchTree.Means at hleft hright ⊢
  cases c with
  | and =>
    rw [Connective.join, matches_and, MatchTree.toDocuments, matchesEvery_cons,
      entryMatches_document, hleft, MatchTree.toDocuments, matchesEvery_cons,
      entryMatches_document, hright]
    cases a <;> cases b <;> rfl
  | or =>
    rw [Connective.join, matches_or, MatchTree.toDocuments, matchesSome_cons,
      entryMatches_document, hleft, MatchTree.toDocuments, matchesSome_cons,
      entryMatches_document, hright]
    cases a <;> cases b <;> rfl

/-! ## Sequences -/

/-- Wherever the compiler makes a tree of a token, the tree means that the token holds. -/
def Token.IsFaithful (dates : DateRendering) (doc : Document) (t : Token) : Prop :=
  ∀ path tree, compileToken dates path t = .ok tree → tree.Means doc (t.holds dates doc)

theorem compileAll_means {tokens : List Token} (h : ∀ t ∈ tokens, t.IsFaithful dates doc)
    {path : TokenPath} {index : Nat} {trees : List MatchTree}
    (hcompile : compileAll dates path index tokens = .ok trees) :
    (MatchTree.and trees).Means doc (allHold dates doc tokens) := by
  unfold MatchTree.Means
  rw [matches_and]
  induction tokens generalizing index trees with
  | nil =>
    rw [compileAll_nil] at hcompile
    obtain rfl := Except.ok.inj hcompile
    rfl
  | cons first rest ih =>
    rw [compileAll_cons, bind_eq_ok] at hcompile
    obtain ⟨tree, hfirst, hcompile⟩ := hcompile
    obtain ⟨others, hothers, rfl⟩ := map_eq_ok.1 hcompile
    have hmeans := h first (List.mem_cons_self ..) _ _ hfirst
    have hrest := ih (fun t ht ↦ h t (List.mem_cons_of_mem _ ht)) hothers
    unfold MatchTree.Means at hmeans
    rw [MatchTree.toDocuments, matchesEvery_cons, entryMatches_document, hmeans, hrest, allHold]
    cases first.holds dates doc <;> rfl

theorem compileChain_means {tokens : List Token} (hchain : Chain tokens)
    (h : ∀ t ∈ tokens, t.IsFaithful dates doc) {path : TokenPath} {index : Nat}
    {tree : MatchTree} (hcompile : compileChain dates path index tokens = .ok tree) :
    tree.Means doc (chainHolds dates doc tokens) := by
  induction hchain generalizing index tree with
  | @single t ht =>
    rw [compileChain_single] at hcompile
    rw [chainHolds]
    exact h t (List.mem_cons_self ..) _ _ hcompile
  | @link first c rest hfirst hrest ih =>
    obtain ⟨left, right, hleft, hright, rfl⟩ := (compileChain_link_eq_ok_iff hrest).1 hcompile
    have hmeans := h first (List.mem_cons_self ..) _ _ hleft
    have hothers := ih (fun t ht ↦ h t (by simp [ht])) hright
    rw [chainHolds]
    exact hmeans.join c hothers

/-! ## Statements -/

/-- Whether a value is an object whose first field has the name of an operator. -/
def Value.isOperatorObject : Value → Bool
  | object ((name, _) :: _) => isOperatorName name
  | _ => false

theorem Value.isOperatorDocument_toBson (v : Value) :
    isOperatorDocument v.toBson = v.isOperatorObject := by
  cases v with
  | int n =>
    rw [toBson, Bson.ofInt]
    split <;> rfl
  | object fields =>
    cases fields with
    | nil => rfl
    | cons field rest => rfl
  | _ => rfl

/-- Whether a statement writes nothing that is spelled like an operator: not its key, and not an
object that is compared by equality. -/
def Statement.IsPlain : Statement → Prop
  | property p =>
    isOperatorName p.key = false ∧
      (p.valueType ≠ .string → p.valueType ≠ .number → p.value.isOperatorObject = false)
  | bound b => isOperatorName b.key = false

/-- Whether a comparison searches for a pattern: it is one of texts, and not for a text that is
plainly the same. -/
def Property.UsesPattern (p : Property) : Prop :=
  p.valueType = .string ∧ p.value.isAbsent = false ∧ p.value.instant? = none ∧
    ¬(p.options.mode = .exact ∧ p.options.caseSensitive = true)

/-- Whether the expression of a comparison's pattern, if there is one, is within the limit on the
size of expressions. -/
def Property.PatternFits (p : Property) : Prop :=
  p.UsesPattern →
    (Literal.regex (!p.options.caseSensitive) p.value.text p.options.mode).fits = true

theorem isReadable_contains {ignoreCase : Bool} {raw : String} {mode : TextMatch}
    (h : (Literal.regex ignoreCase raw mode).fits = true) :
    (Condition.contains { regex := Literal.pattern raw mode, ignoreCase }).IsReadable := by
  rw [Condition.IsReadable, Pattern.regex?, Regex.ofPattern?_pattern, if_pos h]
  rfl

/-- A comparison of texts is read back as it is meant, if its search is not too large. -/
theorem Property.textCondition_isReadable {p : Property} {path : TokenPath} {c : Condition}
    (hfits : ¬(p.options.mode = .exact ∧ p.options.caseSensitive = true) →
      (Literal.regex (!p.options.caseSensitive) p.value.text p.options.mode).fits = true)
    (hcondition : p.textCondition path = .ok c) : c.IsReadable := by
  unfold Property.textCondition at hcondition
  by_cases hexact : p.options.mode = .exact ∧ p.options.caseSensitive = true
  · simp only [if_pos hexact] at hcondition
    cases hsymbol : p.symbol <;> rw [hsymbol] at hcondition <;> cases hcondition
    · exact (rfl : isOperatorDocument (.string p.value.text) = false)
    · exact trivial
  · have hpattern := isReadable_contains (hfits hexact)
    simp only [if_neg hexact] at hcondition
    cases hsymbol : p.symbol <;> rw [hsymbol] at hcondition <;> cases hcondition
    · exact hpattern
    · exact hpattern

/-- The condition of a comparison is read back as it is meant, unless it is an equality with what
looks like operators or a search that is too large. -/
theorem Property.condition_isReadable {p : Property} {path : TokenPath} {c : Condition}
    (hplain : p.valueType ≠ .string → p.valueType ≠ .number → p.value.isOperatorObject = false)
    (hfits : p.PatternFits) (hcondition : p.condition path = .ok c) : c.IsReadable := by
  unfold Property.condition at hcondition
  by_cases habsent : p.value.isAbsent = true
  · rw [if_pos habsent] at hcondition
    cases hcondition
    exact trivial
  · rw [if_neg habsent] at hcondition
    cases hinstant : p.value.instant? with
    | some t =>
      rw [hinstant] at hcondition
      cases hcondition
      exact (rfl : isOperatorDocument (.string t.isoText) = false)
    | none =>
      rw [hinstant] at hcondition
      cases htype : p.valueType with
      | string =>
        rw [htype] at hcondition
        refine Property.textCondition_isReadable (fun hexact ↦ hfits ?_) hcondition
        exact ⟨htype, by simpa using habsent, hinstant, hexact⟩
      | number =>
        rw [htype] at hcondition
        cases hop : Property.comparator? p.symbol with
        | none => simp [hop] at hcondition
        | some op =>
          simp only [hop] at hcondition
          cases hcondition
          exact trivial
      | date | boolean | object | array =>
        rw [htype] at hcondition
        cases hcondition
        rw [Condition.IsReadable, Value.isOperatorDocument_toBson]
        exact hplain (by simp [htype]) (by simp [htype])

/-- The clause of a plain statement means that the statement holds. -/
theorem Statement.clause_means {s : Statement} (hplain : s.IsPlain)
    (hfits : ∀ p, s = .property p → p.PatternFits) {path : TokenPath} {tree : MatchTree}
    (hclause : s.clause dates path = .ok tree) : tree.Means doc (s.holds dates doc) := by
  have hmeans (c : Condition) (hkey : isOperatorName s.key = false) (hc : c.IsReadable)
      (hown : s.clause dates [] = .ok (.clause s.key c)) :
      (MatchTree.clause s.key c).Means doc (s.holds dates doc) := by
    have hread : (MatchTree.clause s.key c).Means doc (c.holds (Fields.get? s.key doc)) :=
      matches_clause doc hkey hc
    rw [Statement.holds, hown]
    simp only [hread.selects]
    exact hread
  cases s with
  | property p =>
    obtain ⟨c, hcondition, rfl⟩ := map_eq_ok.1 hclause
    refine hmeans c hplain.1 ?_ ?_
    · exact Property.condition_isReadable hplain.2 (hfits p rfl) hcondition
    · rw [Statement.clause, Property.clause, Property.condition_path hcondition]
      rfl
  | bound b =>
    obtain rfl := Except.ok.inj hclause
    exact hmeans _ hplain trivial rfl

/-! ## Queries -/

/-- A token is compiled to what it means, if its statements are. -/
theorem Token.isFaithful (t : Token)
    (h : ∀ s : Statement, s.OccursIn [t] → (Token.statement s).IsFaithful dates doc) :
    t.IsFaithful dates doc := by
  induction t using Token.induction with
  | connective c =>
    intro path tree hcompile
    rw [compileToken] at hcompile
    cases hcompile
  | statement s => exact h s (.of_mem (List.mem_singleton_self _))
  | group tokens ih =>
    intro path tree hcompile
    have htokens : ∀ t ∈ tokens, t.IsFaithful dates doc := by
      intro t ht
      refine ih t ht fun s hs ↦ h s ?_
      exact (hs.of_singleton ht).of_group (List.mem_singleton_self _)
    rw [Token.holds]
    cases compileToken_group_eq_ok_iff.1 hcompile with
    | empty => exact (rfl : Document.matches doc [] = .ok true)
    | chain hchain hany htree =>
      rw [if_pos hany]
      exact compileChain_means hchain htokens htree
    | unjoined _ hany htrees =>
      rw [if_neg hany]
      exact compileAll_means htokens htrees

/-- A store that is given the match document of a query selects the documents of which the query
holds and reports no error. -/
theorem matches_compile {tokens : List Token} {dates : DateRendering} {tree : MatchTree}
    (hcompile : compile tokens dates = .ok tree)
    (hplain : ∀ s : Statement, s.OccursIn tokens → s.IsPlain)
    (hfits : ∀ p : Property, (Statement.property p).OccursIn tokens → p.PatternFits)
    (doc : Document) :
    Document.matches doc tree.toDocument = .ok (queryHolds dates doc tokens) := by
  have hgroup : (Token.group tokens).IsFaithful dates doc := by
    apply Token.isFaithful
    intro s hs path tree hclause
    rw [compileToken] at hclause
    rw [Token.holds]
    have hoccurs : s.OccursIn tokens := hs.of_singleton_group
    refine Statement.clause_means (hplain s hoccurs) ?_ hclause
    rintro p rfl
    exact hfits p hoccurs
  exact hgroup [] tree hcompile

/-- A query with a search for a text, both connectives, a group and an equality with an object. -/
def mixedQuery : List Token :=
  [.statement (.property
      { key := "name", value := .string "x", options := { caseSensitive := true, includes := true } }),
    .connective .or,
    .group
      [.statement (.property
          { key := "count", value := .int 3, valueType := .number, symbol := .gt }),
        .statement (.bound { side := .before, key := "due", date := .null })],
    .connective .and,
    .statement (.property { key := "tag", value := .object [("a", .int 1)], valueType := .object })]

/-- The mixed query is one that compiles, with plain statements and a small search. -/
theorem matches_compile_mixedQuery :
    ∃ tree, compile mixedQuery = .ok tree ∧
      (∀ s : Statement, s.OccursIn mixedQuery → s.IsPlain) ∧
        (∀ p : Property, (Statement.property p).OccursIn mixedQuery → p.PatternFits) ∧
          ∀ doc, Document.matches doc tree.toDocument = .ok (queryHolds .native doc mixedQuery) := by
  have hstatements : ∀ s : Statement, s.OccursIn mixedQuery →
      s.IsPlain ∧ ∀ p, s = .property p → p.PatternFits := by
    rw [forall_occursIn_iff]
    refine ⟨?_, ?_⟩
    · intro s hs
      simp only [mixedQuery, List.mem_cons, List.not_mem_nil, Token.statement.injEq, or_false,
        reduceCtorEq, false_or] at hs
      rcases hs with rfl | rfl
      · refine ⟨⟨by decide, fun h ↦ absurd rfl h⟩, ?_⟩
        rintro p ⟨rfl⟩ _
        rfl
      · refine ⟨⟨by decide, fun _ _ ↦ by decide⟩, ?_⟩
        rintro p ⟨rfl⟩ h
        exact absurd h.1 (by decide)
    · intro inner hinner
      obtain rfl : inner = _ := by simpa [mixedQuery] using hinner
      rw [forall_occursIn_iff]
      refine ⟨?_, by simp⟩
      intro s hs
      simp only [List.mem_cons, List.not_mem_nil, Token.statement.injEq, or_false] at hs
      rcases hs with rfl | rfl
      · refine ⟨⟨by decide, fun _ h ↦ absurd rfl h⟩, ?_⟩
        rintro p ⟨rfl⟩ h
        exact absurd h.1 (by decide)
      · refine ⟨(by decide : isOperatorName "due" = false), ?_⟩
        intro p hp
        cases hp
  have hplain (s : Statement) (hs : s.OccursIn mixedQuery) : s.IsPlain := (hstatements s hs).1
  have hfits (p : Property) (hp : (Statement.property p).OccursIn mixedQuery) : p.PatternFits :=
    (hstatements _ hp).2 p rfl
  refine ⟨_, rfl, hplain, hfits, ?_⟩
  exact matches_compile rfl hplain hfits

/-- A name with the text in it is enough for the mixed query. -/
example :
    (compile mixedQuery).map
        (fun tree ↦ Document.matches [("name", .string "lynx")] tree.toDocument) =
      .ok (.ok true) := rfl

/-- The tag alone is not: behind the first connective it is joined with the group. -/
example :
    (compile mixedQuery).map (fun tree ↦
        Document.matches [("name", .string "cat"), ("tag", .document [("a", .int32 1)])]
          tree.toDocument) =
      .ok (.ok false) := rfl

end DocQuery
