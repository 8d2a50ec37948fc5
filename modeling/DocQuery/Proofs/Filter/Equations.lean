import DocQuery.Filter.Compile
import DocQuery.Proofs.Filter.Alternation

/-!
# Equations of the Compiler

What the compiler does with one token more, written with the operations of `Except`: a result that
is bound is looked at first, and its error is the one that is reported.  The last two tokens of a
chain are looked at from left to right, the others only after the whole rest of the chain.

The position of a comparison is seen in its error only.
-/

namespace DocQuery

theorem bind_eq_ok {ε α β : Type} {result : Except ε α} {next : α → Except ε β} {b : β} :
    result.bind next = .ok b ↔ ∃ a, result = .ok a ∧ next a = .ok b := by
  cases result <;> simp [Except.bind]

theorem map_eq_ok {ε α β : Type} {result : Except ε α} {f : α → β} {b : β} :
    result.map f = .ok b ↔ ∃ a, result = .ok a ∧ f a = b := by
  cases result <;> simp [Except.map]

theorem bind_eq_error {ε α β : Type} {result : Except ε α} {next : α → Except ε β} {e : ε} :
    result.bind next = .error e ↔ result = .error e ∨ ∃ a, result = .ok a ∧ next a = .error e := by
  cases result <;> simp [Except.bind]

theorem map_eq_error {ε α β : Type} {result : Except ε α} {f : α → β} {e : ε} :
    result.map f = .error e ↔ result = .error e := by
  cases result <;> simp [Except.map]

/-! ## Statements -/

/-- A comparison has a condition wherever it stands, or it is refused wherever it stands. -/
theorem Property.condition_cases (p : Property) :
    (∃ c, ∀ path, p.condition path = .ok c) ∨
      ∀ path, p.condition path = .error (p.symbolError path) := by
  unfold Property.condition
  by_cases habsent : p.value.isAbsent = true
  · exact .inl ⟨.null, fun path ↦ if_pos habsent⟩
  simp only [if_neg habsent]
  cases hinstant : p.value.instant? with
  | some t => exact .inl ⟨.equals (.string t.isoText), fun path ↦ rfl⟩
  | none =>
    cases htype : p.valueType with
    | string =>
      unfold Property.textCondition
      cases hsymbol : p.symbol with
      | eq => exact .inl ⟨_, fun path ↦ rfl⟩
      | ne => exact .inl ⟨_, fun path ↦ rfl⟩
      | gt | gte | lt | lte => exact .inr fun path ↦ rfl
    | number =>
      cases hop : Property.comparator? p.symbol with
      | some op => exact .inl ⟨.compare op p.value.toBson, fun path ↦ rfl⟩
      | none => exact .inr fun path ↦ rfl
    | date | boolean | object | array => exact .inl ⟨.equals p.value.toBson, fun path ↦ rfl⟩

/-- The position of a comparison does not matter to its condition. -/
theorem Property.condition_path {p : Property} {path : TokenPath} {c : Condition}
    (h : p.condition path = .ok c) (other : TokenPath) : p.condition other = .ok c := by
  rcases p.condition_cases with ⟨d, hd⟩ | hrefused
  · exact (hd other).trans ((hd path).symm.trans h)
  · exact absurd ((hrefused path).symm.trans h) (by simp)

/-! ## Sequences and groups -/

variable (dates : DateRendering) (path : TokenPath) (index : Nat)

@[simp]
theorem compileAll_nil : compileAll dates path index [] = .ok [] := by
  rw [compileAll]

theorem compileAll_cons (t : Token) (rest : List Token) :
    compileAll dates path index (t :: rest) =
      (compileToken dates (path.child index) t).bind fun tree ↦
        (compileAll dates path (index + 1) rest).map (tree :: ·) := by
  rw [compileAll]
  cases compileToken dates (path.child index) t with
  | error e => rfl
  | ok tree => cases compileAll dates path (index + 1) rest <;> rfl

theorem compileChain_single (t : Token) :
    compileChain dates path index [t] = compileToken dates (path.child index) t := by
  rw [compileChain]

theorem compileChain_triple (first : Token) (c : Connective) (last : Token) :
    compileChain dates path index [first, .connective c, last] =
      (compileToken dates (path.child index) first).bind fun left ↦
        (compileToken dates (path.child (index + 2)) last).map (c.join left) := by
  rw [compileChain]
  simp only [Token.connective?]
  cases compileToken dates (path.child index) first with
  | error e => rfl
  | ok left => cases compileToken dates (path.child (index + 2)) last <;> rfl

theorem compileChain_link (first : Token) (c : Connective) {rest : List Token}
    (hrest : 2 ≤ rest.length) :
    compileChain dates path index (first :: .connective c :: rest) =
      (compileChain dates path (index + 2) rest).bind fun right ↦
        (compileToken dates (path.child index) first).map (c.join · right) := by
  match rest, hrest with
  | second :: third :: rest, _ =>
    rw [compileChain]
    · cases compileChain dates path (index + 2) (second :: third :: rest) with
      | error e => rfl
      | ok right =>
        simp only [Token.connective?]
        cases compileToken dates (path.child index) first <;> rfl
    · simp

theorem compileToken_group (tokens : List Token) :
    compileToken dates path (.group tokens) =
      if tokens.isEmpty then .ok .all
      else (checkSequence tokens path).bind fun _ ↦
        if tokens.any Token.isConnective then compileChain dates path 0 tokens
        else (compileAll dates path 0 tokens).map .and := by
  rw [compileToken]
  split
  · rfl
  · cases checkSequence tokens path <;> rfl

/-! ## What compiles -/

section
variable {dates : DateRendering} {path : TokenPath} {index : Nat} {tokens : List Token} {tree : MatchTree}

/-- A chain compiles where both sides of its first connective do. -/
theorem compileChain_link_eq_ok_iff {first : Token} {c : Connective} {rest : List Token}
    (hrest : Chain rest) :
    compileChain dates path index (first :: .connective c :: rest) = .ok tree ↔
      ∃ left right, compileToken dates (path.child index) first = .ok left ∧
        compileChain dates path (index + 2) rest = .ok right ∧ c.join left right = tree := by
  -- only the order in which the two sides are looked at depends on the length of the rest
  cases hrest with
  | single _ =>
    simp only [compileChain_triple, compileChain_single, bind_eq_ok, map_eq_ok]
    constructor
    · rintro ⟨left, hleft, right, hright, hjoin⟩
      exact ⟨left, right, hleft, hright, hjoin⟩
    · rintro ⟨left, right, hleft, hright, hjoin⟩
      exact ⟨left, hleft, right, hright, hjoin⟩
  | link _ _ =>
    rw [compileChain_link _ _ _ _ _ (by simp)]
    simp only [bind_eq_ok, map_eq_ok]
    constructor
    · rintro ⟨right, hright, left, hleft, hjoin⟩
      exact ⟨left, right, hleft, hright, hjoin⟩
    · rintro ⟨left, right, hleft, hright, hjoin⟩
      exact ⟨right, hright, left, hleft, hjoin⟩

variable (dates path) in
/-- The ways in which a sequence compiles. -/
inductive CompilesAsGroup : List Token → MatchTree → Prop
  /-- The empty sequence selects everything. -/
  | empty : CompilesAsGroup [] .all
  /-- Connectives join their neighbours. -/
  | chain {tokens : List Token} {tree : MatchTree} (hchain : Chain tokens)
      (hany : tokens.any Token.isConnective = true) (htree : compileChain dates path 0 tokens = .ok tree) :
      CompilesAsGroup tokens tree
  /-- Without connectives all tokens hold at once. -/
  | unjoined {tokens : List Token} {trees : List MatchTree} (hne : tokens ≠ [])
      (hany : ¬tokens.any Token.isConnective = true)
      (htrees : compileAll dates path 0 tokens = .ok trees) : CompilesAsGroup tokens (.and trees)

theorem compileToken_group_eq_ok_iff :
    compileToken dates path (.group tokens) = .ok tree ↔ CompilesAsGroup dates path tokens tree := by
  rw [compileToken_group]
  by_cases hempty : tokens = []
  · subst hempty
    constructor
    · intro h
      obtain rfl : .all = tree := Except.ok.inj h
      exact .empty
    · intro h
      cases h with
      | empty => rfl
      | chain hchain => exact absurd rfl hchain.ne_nil
      | unjoined hne => exact absurd rfl hne
  · rw [if_neg (by simpa using hempty), bind_eq_ok]
    constructor
    · rintro ⟨_, hcheck, htree⟩
      have hjoined := (checkSequence_eq_ok_iff_isJoined tokens path).1 hcheck
      rcases hjoined.chain_or_forall with ⟨hchain, hany⟩ | hnone
      · rw [if_pos hany] at htree
        exact .chain hchain hany htree
      · have hany : ¬tokens.any Token.isConnective = true := by simpa using hnone
        rw [if_neg hany] at htree
        obtain ⟨trees, htrees, rfl⟩ := map_eq_ok.1 htree
        exact .unjoined hempty hany htrees
    · have hcheck (hjoined : IsJoined tokens) : checkSequence tokens path = .ok () :=
        (checkSequence_eq_ok_iff_isJoined tokens path).2 hjoined
      intro h
      cases h with
      | empty => exact absurd rfl hempty
      | chain hchain hany htree =>
        refine ⟨(), hcheck (.inr (.inr hchain.alternates)), ?_⟩
        rwa [if_pos hany]
      | unjoined _ hany htrees =>
        refine ⟨(), hcheck (.inr (.inl (by simpa using hany))), ?_⟩
        rw [if_neg hany, htrees]
        rfl

end

end DocQuery
