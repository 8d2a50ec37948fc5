import DocQuery.Query.Expression

/-!
# Nesting of Sequences

A query is a tree: its groups are sequences of their own, to any depth.  `Token.induction` proves
a statement about all tokens from the statement about the tokens of a group.  `Within` relates a
sequence to every sequence inside of it, itself included, and `Statement.OccursIn` to the statements
that stand in one of these.  `replaceAll` puts another statement in the place of every one.
-/

namespace DocQuery

/-- A statement about tokens that passes from the tokens of a group to the group holds of all. -/
theorem Token.induction {motive : Token → Prop} (connective : ∀ c, motive (.connective c))
    (statement : ∀ s, motive (.statement s))
    (group : ∀ tokens, (∀ t ∈ tokens, motive t) → motive (.group tokens)) : ∀ t, motive t
  | .connective c => connective c
  | .statement s => statement s
  | .group tokens => group tokens fun t _ ↦ Token.induction connective statement group t

/-- The sequence `inner` is `outer` or belongs to a group inside of it, at any depth. -/
inductive Within : List Token → List Token → Prop
  /-- A sequence is within itself. -/
  | self (tokens : List Token) : Within tokens tokens
  /-- What is within a group is within the sequence that the group stands in. -/
  | group {inner tokens outer : List Token} (hgroup : .group tokens ∈ outer)
      (hinner : Within inner tokens) : Within inner outer

/-- The statement stands in a sequence or in a group inside of it, at any depth. -/
def Statement.OccursIn (s : Statement) (tokens : List Token) : Prop :=
  ∃ sequence, Within sequence tokens ∧ .statement s ∈ sequence

/-- A property of all sequences within another is one of this sequence and of those within its
groups. -/
theorem forall_within_iff {P : List Token → Prop} {tokens : List Token} :
    (∀ sequence, Within sequence tokens → P sequence) ↔
      P tokens ∧ ∀ inner, .group inner ∈ tokens → ∀ sequence, Within sequence inner → P sequence := by
  constructor
  · intro h
    refine ⟨h tokens (.self tokens), ?_⟩
    intro inner hgroup sequence hsequence
    exact h sequence (.group hgroup hsequence)
  · rintro ⟨hself, hgroups⟩ sequence hsequence
    cases hsequence with
    | self => exact hself
    | group hgroup hinner => exact hgroups _ hgroup sequence hinner

/-- A statement of a sequence occurs in it. -/
theorem Statement.OccursIn.of_mem {s : Statement} {tokens : List Token}
    (h : .statement s ∈ tokens) : s.OccursIn tokens :=
  ⟨tokens, .self tokens, h⟩

/-- A statement that occurs in a group occurs in the sequence that the group stands in. -/
theorem Statement.OccursIn.of_group {s : Statement} {inner tokens : List Token}
    (hgroup : .group inner ∈ tokens) (h : s.OccursIn inner) : s.OccursIn tokens := by
  obtain ⟨sequence, hsequence, hmem⟩ := h
  exact ⟨sequence, .group hgroup hsequence, hmem⟩

/-- A statement that occurs in one token of a sequence occurs in the sequence. -/
theorem Statement.OccursIn.of_singleton {s : Statement} {t : Token} {tokens : List Token}
    (ht : t ∈ tokens) (h : s.OccursIn [t]) : s.OccursIn tokens := by
  obtain ⟨sequence, hsequence, hmem⟩ := h
  cases hsequence with
  | self =>
    obtain rfl := List.mem_singleton.1 hmem
    exact .of_mem ht
  | group hgroup hinner =>
    obtain rfl := List.mem_singleton.1 hgroup
    exact ⟨sequence, .group ht hinner, hmem⟩

/-- A statement that occurs in a group alone occurs in the sequence of the group. -/
theorem Statement.OccursIn.of_singleton_group {s : Statement} {tokens : List Token}
    (h : s.OccursIn [.group tokens]) : s.OccursIn tokens := by
  obtain ⟨sequence, hsequence, hmem⟩ := h
  cases hsequence with
  | self => simp at hmem
  | group hgroup hinner =>
    obtain ⟨rfl⟩ := Token.group.inj (List.mem_singleton.1 hgroup)
    exact ⟨sequence, hinner, hmem⟩

/-- A property of all statements that occur in a sequence is one of those that stand in it and of
those that occur in its groups. -/
theorem forall_occursIn_iff {P : Statement → Prop} {tokens : List Token} :
    (∀ s : Statement, s.OccursIn tokens → P s) ↔
      (∀ s, .statement s ∈ tokens → P s) ∧
        ∀ inner, .group inner ∈ tokens → ∀ s : Statement, s.OccursIn inner → P s := by
  constructor
  · intro h
    refine ⟨fun s hs ↦ h s (.of_mem hs), ?_⟩
    intro inner hgroup s hs
    exact h s (hs.of_group hgroup)
  · rintro ⟨hself, hgroups⟩ s ⟨sequence, hsequence, hmem⟩
    cases hsequence with
    | self => exact hself s hmem
    | group hgroup hinner => exact hgroups _ hgroup s ⟨sequence, hinner, hmem⟩

/-! ## Other statements in the same places -/

mutual

/-- A token with other statements. -/
def Token.replace (f : Statement → Statement) : Token → Token
  | .connective c => .connective c
  | .group tokens => .group (replaceAll f tokens)
  | .statement s => .statement (f s)

/-- A sequence with other statements. -/
def replaceAll (f : Statement → Statement) : List Token → List Token
  | [] => []
  | t :: rest => t.replace f :: replaceAll f rest

end

variable {f : Statement → Statement}

theorem replaceAll_eq_map (tokens : List Token) :
    replaceAll f tokens = tokens.map (Token.replace f) := by
  induction tokens with
  | nil => rfl
  | cons t rest ih => rw [replaceAll, ih, List.map_cons]

@[simp]
theorem Token.isConnective_replace (t : Token) : (t.replace f).isConnective = t.isConnective := by
  cases t <;> rfl

theorem exists_within_of_replaceAll {sequence outer : List Token} (h : Within sequence outer)
    {tokens : List Token} (heq : outer = replaceAll f tokens) :
    ∃ inner, Within inner tokens ∧ sequence = replaceAll f inner := by
  induction h generalizing tokens with
  | self => exact ⟨tokens, .self tokens, heq⟩
  | group hgroup _ ih =>
    rw [heq, replaceAll_eq_map] at hgroup
    obtain ⟨t, ht, hreplaced⟩ := List.mem_map.1 hgroup
    cases t with
    | group original =>
      obtain ⟨inner, hinner, hsequence⟩ := ih (Token.group.inj hreplaced).symm
      exact ⟨inner, .group ht hinner, hsequence⟩
    | _ => cases hreplaced

/-- The statements of the replacement are the replacements of the statements. -/
theorem Statement.OccursIn.of_replaceAll {s : Statement} {tokens : List Token}
    (h : s.OccursIn (replaceAll f tokens)) :
    ∃ original : Statement, original.OccursIn tokens ∧ f original = s := by
  obtain ⟨sequence, hsequence, hmem⟩ := h
  obtain ⟨inner, hinner, rfl⟩ := exists_within_of_replaceAll hsequence rfl
  rw [replaceAll_eq_map] at hmem
  obtain ⟨t, ht, hreplaced⟩ := List.mem_map.1 hmem
  cases t with
  | statement original => exact ⟨original, ⟨inner, hinner, ht⟩, Token.statement.inj hreplaced⟩
  | _ => cases hreplaced

end DocQuery
