import DocQuery.Proofs.Filter.Indexing

/-!
# Which Queries Compile

A query is well-formed when every sequence in it, at any depth, is joined by connectives throughout
or not at all and every comparison in it has a meaning for its declared type.  The well-formed
queries are those that compile.  Every other one is refused for a reason of its own: a sequence
that breaks a rule, or a symbol without a meaning.  A token that stands where it has no meaning is
never reported, because the sequence it stands in has been refused before, and no place or
difference of lengths is ever out of range.

Each function of the compiler has one statement of the form `Settles`: it answers with a value where
its question is true, and with such a reason where it is not.
-/

namespace DocQuery

/-- Whether a comparison has a meaning: without a value and for an instant always, and otherwise
where the declared type has a use for the symbol. -/
def Property.IsSupported (p : Property) : Prop :=
  p.value.isAbsent = true ∨ p.value.instant?.isSome = true ∨
    match p.valueType with
    | .string => p.symbol = .eq ∨ p.symbol = .ne
    | .number => p.symbol ≠ .ne
    | _ => True

/-- Whether every sequence of a query, at any depth, is joined throughout or not at all and has
supported comparisons only. -/
def IsWellFormed (tokens : List Token) : Prop :=
  ∀ sequence, Within sequence tokens →
    IsJoined sequence ∧ ∀ p, .statement (.property p) ∈ sequence → p.IsSupported

/-- Whether an error lays the blame on a sequence or on a symbol. -/
def CompileError.IsRefusal (e : CompileError) : Prop :=
  match e.fault with
  | .malformed _ _ => True
  | .symbolUnhandled _ _ _ => True
  | .unhandledToken _ => False

/-- Whether a result is a value where a question is true and a refusal where it is not. -/
def Settles {α : Type} (result : Except CompileError α) (question : Prop) : Prop :=
  match result with
  | .ok _ => question
  | .error e => ¬question ∧ e.IsRefusal

namespace Settles

variable {α β γ : Type} {result : Except CompileError α} {question other : Prop}

theorem map (f : α → β) (h : Settles result question) : Settles (result.map f) question := by
  cases result <;> exact h

theorem congr (hiff : question ↔ other) (h : Settles result question) :
    Settles result other := by
  rwa [propext hiff] at h

/-- Of two questions the first is settled first, and the second only where its answer is yes. -/
theorem bind {next : α → Except CompileError β} (h : Settles result question)
    (hnext : question → ∀ a, Settles (next a) other) :
    Settles (result.bind next) (question ∧ other) := by
  cases result with
  | error e => exact ⟨fun hboth ↦ h.1 hboth.1, h.2⟩
  | ok a =>
    refine (hnext h a).congr ?_
    exact ⟨fun hother ↦ ⟨h, hother⟩, fun hboth ↦ hboth.2⟩

/-- A value is found exactly where the question is true. -/
theorem exists_ok_iff (h : Settles result question) : (∃ a, result = .ok a) ↔ question := by
  cases result with
  | ok a => exact ⟨fun _ ↦ h, fun _ ↦ ⟨a, rfl⟩⟩
  | error e => exact ⟨fun ⟨a, ha⟩ ↦ absurd ha (by simp), fun hquestion ↦ absurd hquestion h.1⟩

theorem isRefusal {e : CompileError} (h : Settles result question) (he : result = .error e) :
    e.IsRefusal := by
  subst he
  exact h.2

end Settles

/-! ## Statements -/

theorem Property.condition_settles (p : Property) (path : TokenPath) :
    Settles (p.condition path) p.IsSupported := by
  unfold Property.condition Property.IsSupported
  by_cases habsent : p.value.isAbsent = true
  · rw [if_pos habsent]
    exact .inl habsent
  · rw [if_neg habsent]
    cases hinstant : p.value.instant? with
    | some t => exact .inr (.inl rfl)
    | none =>
      cases htype : p.valueType with
      | string =>
        cases hsymbol : p.symbol <;>
          simp [Property.textCondition, hsymbol, Settles, Property.symbolError,
            CompileError.IsRefusal, habsent]
      | number =>
        cases hsymbol : p.symbol <;>
          simp [Property.comparator?, Settles, Property.symbolError, CompileError.IsRefusal,
            habsent]
      | date | boolean | object | array => exact .inr (.inr trivial)

/-- Whether a statement has a meaning, which bounds on dates always have. -/
def Statement.IsSupported : Statement → Prop
  | property p => p.IsSupported
  | bound _ => True

theorem Statement.clause_settles (dates : DateRendering) (path : TokenPath) (s : Statement) :
    Settles (s.clause dates path) s.IsSupported := by
  cases s with
  | property p => exact (p.condition_settles path).map _
  | bound b => exact trivial

/-! ## Sequences -/

theorem checkSequence_settles (tokens : List Token) (path : TokenPath) :
    Settles (checkSequence tokens path) (IsJoined tokens) := by
  have hiff := checkSequence_eq_ok_iff_isJoined tokens path
  cases hcheck : checkSequence tokens path with
  | ok u => exact hiff.1 hcheck
  | error e =>
    refine ⟨fun h ↦ absurd (hcheck.symm.trans (hiff.2 h)) (by simp), ?_⟩
    unfold checkSequence at hcheck
    split at hcheck
    · obtain rfl := Except.error.inj hcheck
      exact trivial
    · split at hcheck
      · obtain rfl := Except.error.inj hcheck
        exact trivial
      · split at hcheck
        · obtain rfl := Except.error.inj hcheck
          exact trivial
        · dsimp only at hcheck
          split at hcheck
          · obtain rfl := Except.error.inj hcheck
            exact trivial
          · exact absurd hcheck (by simp)

/-- Whether a token compiles by itself; a connective does not. -/
def Token.IsAccepted : Token → Prop
  | connective _ => False
  | group tokens => IsWellFormed tokens
  | statement s => s.IsSupported

/-- A query is well-formed when its outermost sequence is joined and its other tokens than
connectives are accepted. -/
theorem isWellFormed_iff (tokens : List Token) :
    IsWellFormed tokens ↔
      IsJoined tokens ∧ ∀ t ∈ tokens, t.isConnective = false → t.IsAccepted := by
  unfold IsWellFormed
  rw [forall_within_iff]
  constructor
  · rintro ⟨⟨hjoined, hproperties⟩, hgroups⟩
    refine ⟨hjoined, ?_⟩
    rintro (c | inner | s) ht hconnective
    · exact absurd hconnective (by simp)
    · exact hgroups inner ht
    · cases s with
      | property p => exact hproperties p ht
      | bound b => exact trivial
  · rintro ⟨hjoined, haccepted⟩
    refine ⟨⟨hjoined, fun p hp ↦ haccepted _ hp rfl⟩, ?_⟩
    intro inner hgroup
    exact haccepted _ hgroup rfl

variable {dates : DateRendering}

/-- Where the compiler settles all tokens of a sequence, it settles the sequence. -/
theorem compileAll_settles {tokens : List Token}
    (h : ∀ t ∈ tokens, ∀ path, Settles (compileToken dates path t) t.IsAccepted)
    (path : TokenPath) (index : Nat) :
    Settles (compileAll dates path index tokens) (∀ t ∈ tokens, t.IsAccepted) := by
  induction tokens generalizing index with
  | nil =>
    rw [compileAll_nil]
    exact fun t ht ↦ absurd ht (by simp)
  | cons first rest ih =>
    have hfirst := h first (List.mem_cons_self ..) (path.child index)
    have hrest := ih (fun t ht ↦ h t (List.mem_cons_of_mem _ ht)) (index + 1)
    rw [compileAll_cons]
    exact (hfirst.bind fun _ tree ↦ hrest.map _).congr List.forall_mem_cons.symm

/-- The same for a chain, of which the other tokens than connectives have to be accepted. -/
theorem compileChain_settles {tokens : List Token} (hchain : Chain tokens)
    (h : ∀ t ∈ tokens, t.isConnective = false →
      ∀ path, Settles (compileToken dates path t) t.IsAccepted)
    (path : TokenPath) (index : Nat) :
    Settles (compileChain dates path index tokens)
      (∀ t ∈ tokens, t.isConnective = false → t.IsAccepted) := by
  induction hchain generalizing index with
  | @single t ht =>
    rw [compileChain_single]
    refine (h t (List.mem_cons_self ..) ht (path.child index)).congr ?_
    simp [ht]
  | @link first c rest hfirst hrest ih =>
    have hleft := h first (List.mem_cons_self ..) hfirst (path.child index)
    have hright := ih (fun t ht ↦ h t (by simp [ht])) (index + 2)
    have hquestion : (∀ t ∈ first :: .connective c :: rest,
        t.isConnective = false → t.IsAccepted) ↔
          first.IsAccepted ∧ ∀ t ∈ rest, t.isConnective = false → t.IsAccepted := by
      simp [hfirst]
    rw [hquestion]
    -- only the order in which the two sides are looked at depends on the length of the rest
    cases hrest with
    | @single last _ =>
      rw [compileChain_single] at hright
      rw [compileChain_triple]
      exact hleft.bind fun _ left ↦ hright.map _
    | link _ hrest =>
      rw [compileChain_link _ _ _ _ _ (by simp)]
      exact (hright.bind fun _ right ↦ hleft.map _).congr And.comm

/-- Every token but a connective is settled by the compiler. -/
theorem compileToken_settles (t : Token) (ht : t.isConnective = false) (path : TokenPath) :
    Settles (compileToken dates path t) t.IsAccepted := by
  induction t using Token.induction generalizing path with
  | connective c => exact absurd ht (by simp)
  | statement s =>
    rw [compileToken]
    exact s.clause_settles dates path
  | group tokens ih =>
    refine Settles.congr (isWellFormed_iff tokens).symm ?_
    rw [compileToken_group]
    by_cases hempty : tokens.isEmpty = true
    · rw [if_pos hempty]
      obtain rfl := List.isEmpty_iff.1 hempty
      exact ⟨.inl rfl, by simp⟩
    · rw [if_neg hempty]
      refine (checkSequence_settles tokens path).bind fun hjoined _ ↦ ?_
      rcases hjoined.chain_or_forall with ⟨hchain, hany⟩ | hnone
      · rw [if_pos hany]
        exact compileChain_settles hchain ih path 0
      · rw [if_neg (by simpa using hnone)]
        refine ((compileAll_settles (fun t ht ↦ ih t ht (hnone t ht)) path 0).map _).congr ?_
        exact ⟨fun h t ht _ ↦ h t ht, fun h t ht ↦ h t ht (hnone t ht)⟩

/-- The well-formed queries compile and the others are refused, and no place or difference of
lengths on the way is out of range. -/
theorem compile_decides_isWellFormed (tokens : List Token) (dates : DateRendering) :
    ((∃ tree, compile tokens dates = .ok tree) ↔ IsWellFormed tokens) ∧
      (∀ e, compile tokens dates = .error e → e.IsRefusal) ∧
        compileByIndex tokens dates = Indexed.settled (compile tokens dates) := by
  have hsettles : Settles (compile tokens dates) (IsWellFormed tokens) :=
    compileToken_settles (.group tokens) rfl []
  refine ⟨hsettles.exists_ok_iff, fun e he ↦ hsettles.isRefusal he, ?_⟩
  exact tokenByIndex_eq dates [] (.group tokens)

end DocQuery
