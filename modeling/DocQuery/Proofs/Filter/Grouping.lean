import Mathlib.Data.List.Forall2
import DocQuery.Proofs.Filter.Equations
import DocQuery.Proofs.Query.Nesting

/-!
# Grouping to the Right

Connectives group to the right whatever they are, so a tail of a chain means the same inside of a group
of its own.  Such a group moves its tokens to other positions, and a position is seen in errors only: where
a sequence compiles, it compiles to the same tree anywhere.

No grouping loses a statement.  From left to right, the clauses of a tree are those of the statements of
its sequence, each of them once.
-/

namespace DocQuery

variable {dates : DateRendering} {path : TokenPath} {index : Nat} {tokens before rest : List Token}
  {tree : MatchTree}

/-! ## Positions -/

/-- The position of a statement does not matter to its clause. -/
theorem Statement.clause_path {s : Statement} (h : s.clause dates path = .ok tree) (other : TokenPath) :
    s.clause dates other = .ok tree := by
  cases s with
  | property p =>
    obtain ⟨c, hcondition, rfl⟩ := map_eq_ok.1 h
    rw [clause, Property.clause, Property.condition_path hcondition]
    rfl
  | bound b => exact h

/-- Where a token compiles, it compiles to the same tree anywhere. -/
def Token.IsPlaceless (dates : DateRendering) (t : Token) : Prop :=
  ∀ path tree, compileToken dates path t = .ok tree → ∀ other, compileToken dates other t = .ok tree

theorem compileAll_path (h : ∀ t ∈ tokens, t.IsPlaceless dates) {trees : List MatchTree}
    (htrees : compileAll dates path index tokens = .ok trees) (other : TokenPath) (position : Nat) :
    compileAll dates other position tokens = .ok trees := by
  induction tokens generalizing index position trees with
  | nil => rwa [compileAll_nil] at htrees ⊢
  | cons first rest ih =>
    rw [compileAll_cons, bind_eq_ok] at htrees ⊢
    obtain ⟨tree, hfirst, htrees⟩ := htrees
    obtain ⟨others, hothers, hcons⟩ := map_eq_ok.1 htrees
    have hmoved := h first (List.mem_cons_self ..) _ _ hfirst (other.child position)
    have hrest := ih (fun t ht ↦ h t (List.mem_cons_of_mem _ ht)) hothers (position + 1)
    exact ⟨tree, hmoved, map_eq_ok.2 ⟨others, hrest, hcons⟩⟩

theorem compileChain_path (hchain : Chain tokens) (h : ∀ t ∈ tokens, t.IsPlaceless dates)
    (htree : compileChain dates path index tokens = .ok tree) (other : TokenPath) (position : Nat) :
    compileChain dates other position tokens = .ok tree := by
  induction hchain generalizing index position tree with
  | @single t ht =>
    rw [compileChain_single] at htree ⊢
    exact h t (List.mem_cons_self ..) _ _ htree _
  | @link first c rest hfirst hrest ih =>
    rw [compileChain_link_eq_ok_iff hrest] at htree ⊢
    obtain ⟨left, right, hleft, hright, hjoin⟩ := htree
    have hmoved := h first (List.mem_cons_self ..) _ _ hleft (other.child position)
    have hothers := ih (fun t ht ↦ h t (by simp [ht])) hright (position + 2)
    exact ⟨left, right, hmoved, hothers, hjoin⟩

theorem Token.isPlaceless (t : Token) : t.IsPlaceless dates := by
  induction t using Token.induction with
  | connective c =>
    intro path tree h
    rw [compileToken] at h
    cases h
  | statement s =>
    intro path tree h other
    rw [compileToken] at h ⊢
    exact s.clause_path h other
  | group tokens ih =>
    intro path tree h other
    rw [compileToken_group_eq_ok_iff] at h ⊢
    cases h with
    | empty => exact .empty
    | chain hchain hany htree => exact .chain hchain hany (compileChain_path hchain ih htree other 0)
    | unjoined hne hany htrees => exact .unjoined hne hany (compileAll_path ih htrees other 0)

/-! ## The tail of a chain -/

/-- Whether connectives and other tokens take turns in a sequence and a connective is the last. -/
structure EndsJoining (before : List Token) : Prop where
  alternates : before.IsChain fun s t ↦ s.isConnective ≠ t.isConnective
  last : before.getLast?.any Token.isConnective = true

/-- Other tokens than connectives, each with a connective behind it. -/
inductive Links : List Token → Prop
  | nil : Links []
  | link {t : Token} {c : Connective} {more : List Token} (ht : t.isConnective = false)
      (hmore : Links more) : Links (t :: .connective c :: more)

/-- A sequence that ends joining begins with a connective or consists of links. -/
theorem EndsJoining.head_or_links : ∀ {before : List Token}, EndsJoining before →
    before.head?.any Token.isConnective = true ∨ Links before
  | [], h => nomatch h.last
  | [t], h => .inl h.last
  | t :: joint :: more, h => by
    by_cases ht : t.isConnective = true
    · exact .inl ht
    obtain ⟨hdiffer, hmore⟩ := List.isChain_cons_cons.1 h.alternates
    obtain ⟨c, rfl⟩ := joint.isConnective_iff.1 (by simpa [ht] using hdiffer)
    refine .inr (.link (by simpa using ht) ?_)
    cases more with
    | nil => exact .nil
    | cons next more =>
      obtain ⟨hnext, hmore⟩ := List.isChain_cons_cons.1 hmore
      have hends : EndsJoining (next :: more) :=
        ⟨hmore, by simpa [List.getLast?_cons_cons] using h.last⟩
      exact hends.head_or_links.resolve_left (by simpa using hnext)

theorem Links.chain_append (hbefore : Links before) (hrest : Chain rest) : Chain (before ++ rest) := by
  induction hbefore with
  | nil => exact hrest
  | link ht _ ih => exact .link ht ih

/-- A chain with a connective compiles as a group in the same way as by itself. -/
theorem compileToken_group_eq_ok_iff_chain (hchain : Chain tokens)
    (hany : tokens.any Token.isConnective = true) :
    compileToken dates path (.group tokens) = .ok tree ↔ compileChain dates path 0 tokens = .ok tree := by
  rw [compileToken_group_eq_ok_iff]
  constructor
  · intro h
    cases h with
    | empty => exact absurd rfl hchain.ne_nil
    | chain _ _ htree => exact htree
    | unjoined _ hnone => exact absurd hany hnone
  · exact .chain hchain hany

/-- Behind links, a chain and the group of it compile alike. -/
theorem Links.compileChain_append_iff (hbefore : Links before) (hrest : Chain rest)
    (hany : rest.any Token.isConnective = true) :
    compileChain dates path index (before ++ rest) = .ok tree ↔
      compileChain dates path index (before ++ [.group rest]) = .ok tree := by
  induction hbefore generalizing index tree with
  | nil =>
    -- only the positions of the tokens are others inside of the group
    have hplaceless : ∀ t ∈ rest, t.IsPlaceless dates := fun t _ ↦ t.isPlaceless
    rw [List.nil_append, List.nil_append, compileChain_single,
      compileToken_group_eq_ok_iff_chain hrest hany]
    constructor
    · exact fun h ↦ compileChain_path hrest hplaceless h _ _
    · exact fun h ↦ compileChain_path hrest hplaceless h _ _
  | @link t c more ht hmore ih =>
    have hgroup : Chain [.group rest] := .single rfl
    simp only [List.cons_append]
    rw [compileChain_link_eq_ok_iff (hmore.chain_append hrest),
      compileChain_link_eq_ok_iff (hmore.chain_append hgroup)]
    simp only [ih]

/-- A sequence that begins with a connective does not compile. -/
theorem compile_ne_ok_of_head (h : tokens.head?.any Token.isConnective = true) :
    compile tokens dates ≠ .ok tree := by
  intro hcompile
  cases compileToken_group_eq_ok_iff.1 hcompile with
  | empty => exact absurd h (by simp)
  | chain hchain => exact absurd h (by simp [hchain.head?_isConnective])
  | unjoined hne hnone =>
    obtain ⟨first, others, rfl⟩ := List.exists_cons_of_ne_nil hne
    exact hnone (List.any_eq_true.2 ⟨first, List.mem_cons_self .., h⟩)

/-- An alternating rest of at least three tokens can be put into a group of its own. -/
theorem compile_append_iff (hbefore : EndsJoining before) (hrest : Alternates rest)
    (hlength : 3 ≤ rest.length) :
    compile (before ++ rest) dates = .ok tree ↔ compile (before ++ [.group rest]) dates = .ok tree := by
  obtain ⟨joint, hlast, hjoint⟩ := (Option.any_eq_true _ _).1 hbefore.last
  have hmem := List.mem_of_getLast? hlast
  rcases hbefore.head_or_links with hhead | hlinks
  · -- a connective in front is refused, whatever comes behind
    have hrefused (more : List Token) : compile (before ++ more) dates ≠ .ok tree := by
      refine compile_ne_ok_of_head ?_
      rwa [List.head?_append_of_ne_nil _ (List.ne_nil_of_mem hmem)]
    exact iff_of_false (hrefused rest) (hrefused [.group rest])
  · have hchain := Chain.of_alternates hrest
    have hgroup : Chain [.group rest] := .single rfl
    have hany : rest.any Token.isConnective = true :=
      List.any_eq_true.2 ⟨rest[1], List.getElem_mem _, hrest.2 1 (by omega)⟩
    have hbeforeAny (more : List Token) : (before ++ more).any Token.isConnective = true :=
      List.any_eq_true.2 ⟨joint, List.mem_append_left _ hmem, hjoint⟩
    unfold compile
    rw [compileToken_group_eq_ok_iff_chain (hlinks.chain_append hchain) (hbeforeAny rest),
      compileToken_group_eq_ok_iff_chain (hlinks.chain_append hgroup) (hbeforeAny _)]
    exact hlinks.compileChain_append_iff hchain hany

/-! ## The clauses of a tree -/

mutual

/-- The statements of a token, in the order in which they are written. -/
def Token.statements : Token → List Statement
  | .connective _ => []
  | .statement s => [s]
  | .group tokens => statementsOf tokens

/-- The statements of a sequence, in the order in which they are written. -/
def statementsOf : List Token → List Statement
  | [] => []
  | t :: rest => t.statements ++ statementsOf rest

end

namespace MatchTree

mutual

/-- The clauses of a tree, from left to right. -/
def clauses : MatchTree → List MatchTree
  | all => []
  | and children => clausesOf children
  | or children => clausesOf children
  | clause field condition => [clause field condition]

/-- The clauses of several trees, from left to right. -/
def clausesOf : List MatchTree → List MatchTree
  | [] => []
  | tree :: rest => tree.clauses ++ clausesOf rest

end

end MatchTree

/-- The clause that a statement makes wherever it stands. -/
def Statement.Makes (dates : DateRendering) (s : Statement) (clause : MatchTree) : Prop :=
  ∀ path, s.clause dates path = .ok clause

/-- Whether the clauses of a token's tree are those that its statements make. -/
def Token.KeepsClauses (dates : DateRendering) (t : Token) : Prop :=
  ∀ path tree, compileToken dates path t = .ok tree →
    List.Forall₂ (Statement.Makes dates) t.statements tree.clauses

theorem Connective.clauses_join (c : Connective) (left right : MatchTree) :
    (c.join left right).clauses = left.clauses ++ right.clauses := by
  cases c <;> simp only [join, MatchTree.clauses, MatchTree.clausesOf, List.append_nil]

theorem compileAll_clauses (h : ∀ t ∈ tokens, t.KeepsClauses dates) {trees : List MatchTree}
    (htrees : compileAll dates path index tokens = .ok trees) :
    List.Forall₂ (Statement.Makes dates) (statementsOf tokens) (MatchTree.clausesOf trees) := by
  induction tokens generalizing index trees with
  | nil =>
    rw [compileAll_nil] at htrees
    obtain rfl := Except.ok.inj htrees
    exact .nil
  | cons first rest ih =>
    rw [compileAll_cons, bind_eq_ok] at htrees
    obtain ⟨tree, hfirst, htrees⟩ := htrees
    obtain ⟨others, hothers, rfl⟩ := map_eq_ok.1 htrees
    rw [statementsOf, MatchTree.clausesOf]
    exact List.rel_append (h first (List.mem_cons_self ..) _ _ hfirst)
      (ih (fun t ht ↦ h t (List.mem_cons_of_mem _ ht)) hothers)

theorem compileChain_clauses (hchain : Chain tokens) (h : ∀ t ∈ tokens, t.KeepsClauses dates)
    (htree : compileChain dates path index tokens = .ok tree) :
    List.Forall₂ (Statement.Makes dates) (statementsOf tokens) tree.clauses := by
  induction hchain generalizing index tree with
  | @single t ht =>
    rw [compileChain_single] at htree
    rw [statementsOf, statementsOf, List.append_nil]
    exact h t (List.mem_cons_self ..) _ _ htree
  | @link first c rest hfirst hrest ih =>
    obtain ⟨left, right, hleft, hright, rfl⟩ := (compileChain_link_eq_ok_iff hrest).1 htree
    rw [statementsOf, statementsOf, Token.statements, List.nil_append, c.clauses_join]
    exact List.rel_append (h first (List.mem_cons_self ..) _ _ hleft)
      (ih (fun t ht ↦ h t (by simp [ht])) hright)

/-- A statement makes one clause. -/
theorem Statement.clauses_of_clause {s : Statement} (h : s.clause dates path = .ok tree) :
    tree.clauses = [tree] := by
  cases s with
  | property p =>
    obtain ⟨c, -, rfl⟩ := map_eq_ok.1 h
    rfl
  | bound b =>
    obtain rfl := Except.ok.inj h
    rfl

theorem Token.keepsClauses (t : Token) : t.KeepsClauses dates := by
  induction t using Token.induction with
  | connective c =>
    intro path tree h
    rw [compileToken] at h
    cases h
  | statement s =>
    intro path tree h
    rw [compileToken] at h
    rw [statements, s.clauses_of_clause h]
    exact .cons (s.clause_path h) .nil
  | group tokens ih =>
    intro path tree h
    rw [statements]
    cases compileToken_group_eq_ok_iff.1 h with
    | empty => exact .nil
    | chain hchain _ htree => exact compileChain_clauses hchain ih htree
    | unjoined _ _ htrees => exact compileAll_clauses ih htrees

/-- Behind a sequence in which connectives take turns and of which one is the last, an alternating rest of at
least three tokens can be put into a group of its own: either both sequences compile, and to the same tree,
or neither does.

The clauses of the tree of a sequence are those of its statements in the order in which they are written. -/
theorem compile_groups_right (dates : DateRendering) :
    (∀ before rest tree, EndsJoining before → Alternates rest → 3 ≤ rest.length →
      (compile (before ++ rest) dates = .ok tree ↔
        compile (before ++ [.group rest]) dates = .ok tree)) ∧
      ∀ tokens tree, compile tokens dates = .ok tree →
        List.Forall₂ (Statement.Makes dates) (statementsOf tokens) tree.clauses := by
  refine ⟨fun before rest tree ↦ compile_append_iff, fun tokens tree h ↦ ?_⟩
  exact (Token.group tokens).keepsClauses [] tree h

/-- Five comparisons with both connectives and a group without any. -/
theorem compile_groups_right_fiveTexts :
    let text (key : String) : Token :=
      .statement (.property { key, value := .string "x", options := { caseSensitive := true } })
    let before := [text "a", .connective .or]
    let rest := [text "b", .connective .and, .group [text "c", text "d"], .connective .or, text "e"]
    ∃ tree, compile (before ++ rest) = .ok tree ∧ compile (before ++ [.group rest]) = .ok tree ∧
      List.Forall₂ (Statement.Makes .native) (statementsOf (before ++ rest)) tree.clauses := by
  intro text before rest
  have hbefore : EndsJoining before := ⟨by simp [before, text], rfl⟩
  have hrest : Alternates rest := Chain.alternates (.link rfl (.link rfl (.single rfl)))
  have hcompile : compile (before ++ rest) = .ok _ := rfl
  obtain ⟨hgroup, hclauses⟩ := compile_groups_right .native
  refine ⟨_, hcompile, ?_, hclauses _ _ hcompile⟩
  exact (hgroup before rest _ hbefore hrest (by decide)).1 hcompile

end DocQuery
