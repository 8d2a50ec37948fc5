import DocQuery.Proofs.Filter.Meaning

/-!
# Replacing Statements

A query keeps its form when every statement in it is replaced by another one.  Two results of the compiler
are alike if both are the same error or if both are trees that a store reads alike, document by document
and with the same errors.

The main statement is that a query compiles like its replacement if each of its statements does.  It goes
the way of the compiler: a tree that is put together reads like another one if its parts do, and what is
checked of a sequence depends on nothing but where its connectives stand.
-/

namespace DocQuery

variable {f : Statement → Statement}

/-- The check of a sequence sees its connectives only. -/
theorem checkSequence_replaceAll (tokens : List Token) (path : TokenPath) :
    checkSequence (replaceAll f tokens) path = checkSequence tokens path := by
  have hsame : Token.isConnective ∘ Token.replace f = Token.isConnective :=
    funext Token.isConnective_replace
  have hadjacent (index : Nat) : SequenceRule.adjacent? index (tokens.map (Token.replace f)) =
      SequenceRule.adjacent? index tokens := by
    induction tokens generalizing index with
    | nil => rfl
    | cons first rest ih =>
      cases rest with
      | nil => rfl
      | cons second rest =>
        simp only [List.map_cons, SequenceRule.adjacent?, Token.isConnective_replace] at ih ⊢
        rw [ih]
  have hcount : SequenceRule.connectives (tokens.map (Token.replace f)) =
      SequenceRule.connectives tokens := by
    rw [SequenceRule.connectives, List.filter_map, hsame, List.length_map, SequenceRule.connectives]
  unfold checkSequence
  rw [replaceAll_eq_map]
  simp only [List.head?_map, List.getLast?_map, Option.any_map, Token.isConnective_replace,
    List.length_map, hadjacent, hcount]

/-! ## Results that are alike -/

/-- Two results are alike: they are values that stand in a relation, or they are the same error. -/
inductive Alike {ε α : Type} (relation : α → α → Prop) : Except ε α → Except ε α → Prop
  | ok {a b : α} (h : relation a b) : Alike relation (.ok a) (.ok b)
  | error (e : ε) : Alike relation (.error e) (.error e)

namespace Alike

variable {ε α β : Type} {relation : α → α → Prop} {other : β → β → Prop}
  {result result' : Except ε α}

theorem bind {next next' : α → Except ε β} (h : Alike relation result result')
    (hnext : ∀ a b, relation a b → Alike other (next a) (next' b)) :
    Alike other (result.bind next) (result'.bind next') := by
  cases h with
  | ok h => exact hnext _ _ h
  | error e => exact .error e

theorem map {g g' : α → β} (h : Alike relation result result')
    (hvalues : ∀ a b, relation a b → other (g a) (g' b)) :
    Alike other (result.map g) (result'.map g') := by
  cases h with
  | ok h => exact .ok (hvalues _ _ h)
  | error e => exact .error e

theorem of_eq (hrefl : ∀ a, relation a a) (h : result = result') : Alike relation result result' := by
  subst h
  cases result with
  | ok a => exact .ok (hrefl a)
  | error e => exact .error e

theorem exists_ok {a : α} (h : Alike relation (.ok a) result) : ∃ b, result = .ok b ∧ relation a b := by
  cases h with
  | ok h => exact ⟨_, rfl, h⟩

end Alike

/-- A store reads two trees alike, for every document and with the same errors. -/
def MatchTree.ReadsLike (tree other : MatchTree) : Prop :=
  ∀ doc, Document.matches doc tree.toDocument = Document.matches doc other.toDocument

/-- Two results of the compiler are alike: the same error, or trees that are read alike. -/
abbrev CompilesLike (result other : Except CompileError MatchTree) : Prop :=
  Alike MatchTree.ReadsLike result other

namespace MatchTree.ReadsLike

variable {tree other : MatchTree} {trees others : List MatchTree}

theorem refl (tree : MatchTree) : tree.ReadsLike tree := fun _ ↦ rfl

/-- One tree more that all have to select. -/
theorem and_cons (h : tree.ReadsLike other) (hrest : (MatchTree.and trees).ReadsLike (.and others)) :
    (MatchTree.and (tree :: trees)).ReadsLike (.and (other :: others)) := by
  intro doc
  have hdoc := hrest doc
  rw [matches_and, matches_and] at hdoc ⊢
  rw [MatchTree.toDocuments, MatchTree.toDocuments, matchesEvery_cons, matchesEvery_cons,
    entryMatches_document, entryMatches_document, h doc, hdoc]

theorem or_cons (h : tree.ReadsLike other) (hrest : (MatchTree.or trees).ReadsLike (.or others)) :
    (MatchTree.or (tree :: trees)).ReadsLike (.or (other :: others)) := by
  intro doc
  have hdoc := hrest doc
  rw [matches_or, matches_or] at hdoc ⊢
  rw [MatchTree.toDocuments, MatchTree.toDocuments, matchesSome_cons, matchesSome_cons,
    entryMatches_document, entryMatches_document, h doc, hdoc]

theorem join {left right left' right' : MatchTree} (c : Connective) (hleft : left.ReadsLike left')
    (hright : right.ReadsLike right') : (c.join left right).ReadsLike (c.join left' right') := by
  cases c with
  | and => exact hleft.and_cons (hright.and_cons (refl _))
  | or => exact hleft.or_cons (hright.or_cons (refl _))

end MatchTree.ReadsLike

/-! ## Compiling the replacement -/

variable {dates : DateRendering}

/-- At every place, a token compiles like its replacement. -/
def Token.CompilesAlike (dates : DateRendering) (f : Statement → Statement) (t : Token) : Prop :=
  ∀ path, CompilesLike (compileToken dates path t) (compileToken dates path (t.replace f))

theorem compileAll_alike {tokens : List Token} (h : ∀ t ∈ tokens, t.CompilesAlike dates f)
    (path : TokenPath) (index : Nat) :
    Alike (fun trees others ↦ (MatchTree.and trees).ReadsLike (.and others))
      (compileAll dates path index tokens) (compileAll dates path index (replaceAll f tokens)) := by
  induction tokens generalizing index with
  | nil =>
    rw [replaceAll, compileAll_nil]
    exact .ok (.refl _)
  | cons first rest ih =>
    obtain ⟨hfirst, hrest⟩ := List.forall_mem_cons.1 h
    rw [replaceAll, compileAll_cons, compileAll_cons]
    refine (hfirst _).bind fun tree other htree ↦ (ih hrest _).map fun trees others htrees ↦ ?_
    exact htree.and_cons htrees

theorem compileChain_alike {tokens : List Token} (hchain : Chain tokens)
    (h : ∀ t ∈ tokens, t.CompilesAlike dates f) (path : TokenPath) (index : Nat) :
    CompilesLike (compileChain dates path index tokens)
      (compileChain dates path index (replaceAll f tokens)) := by
  induction hchain generalizing index with
  | @single t ht =>
    simp only [replaceAll, compileChain_single]
    exact h t (List.mem_cons_self ..) _
  | @link first c rest hfirst hrest ih =>
    have hleft := h first (List.mem_cons_self ..) (path.child index)
    have hright := ih (fun t ht ↦ h t (by simp [ht])) (index + 2)
    -- only the order in which the two sides are looked at depends on the length of the rest
    cases hrest with
    | @single last _ =>
      simp only [replaceAll, compileChain_single, Token.replace] at hright ⊢
      rw [compileChain_triple, compileChain_triple]
      exact hleft.bind fun left left' hleft ↦ hright.map fun right right' hright ↦ hleft.join c hright
    | link _ hrest =>
      simp only [replaceAll, Token.replace] at hright ⊢
      rw [compileChain_link _ _ _ first c (by simp),
        compileChain_link _ _ _ (first.replace f) c (by simp)]
      exact hright.bind fun right right' hright ↦ hleft.map fun left left' hleft ↦ hleft.join c hright

/-- A token compiles like its replacement if its statements do. -/
theorem Token.compilesAlike (t : Token)
    (h : ∀ s : Statement, s.OccursIn [t] → (Token.statement s).CompilesAlike dates f) :
    t.CompilesAlike dates f := by
  induction t using Token.induction with
  | connective c => exact fun path ↦ .of_eq .refl rfl
  | statement s => exact h s (.of_mem (List.mem_singleton_self _))
  | group tokens ih =>
    intro path
    have htokens : ∀ t ∈ tokens, t.CompilesAlike dates f := by
      intro t ht
      refine ih t ht fun s hs ↦ h s ?_
      exact (hs.of_singleton ht).of_group (List.mem_singleton_self _)
    have hempty : (replaceAll f tokens).isEmpty = tokens.isEmpty := by
      rw [replaceAll_eq_map, List.isEmpty_map]
    have hany : (replaceAll f tokens).any Token.isConnective = tokens.any Token.isConnective := by
      rw [replaceAll_eq_map, List.any_map]
      exact congrArg tokens.any (funext Token.isConnective_replace)
    rw [Token.replace, compileToken_group, compileToken_group, hempty, hany, checkSequence_replaceAll]
    split
    · exact .ok (.refl _)
    · cases hcheck : checkSequence tokens path with
      | error e => exact .error e
      | ok u =>
        have hjoined := (checkSequence_eq_ok_iff_isJoined tokens path).1 hcheck
        rcases hjoined.chain_or_forall with ⟨hchain, hany⟩ | hnone
        · simp only [Except.bind, hany, if_true]
          exact compileChain_alike hchain htokens path 0
        · have hnone : tokens.any Token.isConnective = false := by simpa using hnone
          simp only [Except.bind, hnone, Bool.false_eq_true, if_false]
          exact (compileAll_alike htokens path 0).map fun _ _ htrees ↦ htrees

/-- A query compiles like its replacement if each of its statements does. -/
theorem compile_replaceAll {tokens : List Token}
    (h : ∀ s : Statement, s.OccursIn tokens →
      ∀ path, CompilesLike (s.clause dates path) ((f s).clause dates path)) :
    CompilesLike (compile tokens dates) (compile (replaceAll f tokens) dates) := by
  refine Token.compilesAlike (.group tokens) (fun s hs path ↦ ?_) []
  rw [Token.replace, compileToken, compileToken]
  exact h s hs.of_singleton_group path

end DocQuery
