import DocQuery.Filter.Sequence

/-!
# Alternating Sequences

A sequence that connectives join has its connectives at the odd places and everything else at the
even ones.  `Chain` is this form as it is taken apart from the left, `Alternates` as it is seen by
index, and both say the same.

The check of a sequence looks at its ends, at its neighbours and at two counts only.  The main
statement is that it accepts the empty sequence, the sequences without connectives and the chains,
and no others: between two ends that are no connectives, and with no two connectives in a row,
there is one connective less than there are other tokens only where they alternate.
-/

namespace DocQuery

@[simp]
theorem Token.isConnective_connective (c : Connective) : (connective c).isConnective = true := rfl

@[simp]
theorem Token.isConnective_group (tokens : List Token) : (group tokens).isConnective = false := rfl

@[simp]
theorem Token.isConnective_statement (s : Statement) : (statement s).isConnective = false := rfl

/-- A token is a connective exactly when it is made of one. -/
theorem Token.isConnective_iff (t : Token) : t.isConnective = true ↔ ∃ c, t = connective c := by
  cases t <;> simp

/-- A sequence of other tokens with a connective between every two neighbours. -/
inductive Chain : List Token → Prop
  | single {t : Token} (ht : t.isConnective = false) : Chain [t]
  | link {t : Token} {c : Connective} {rest : List Token} (ht : t.isConnective = false)
      (hrest : Chain rest) : Chain (t :: .connective c :: rest)

/-- Whether a sequence has odd length, with connectives at the odd places and at no others. -/
def Alternates (tokens : List Token) : Prop :=
  tokens.length % 2 = 1 ∧
    ∀ (i : Nat) (hi : i < tokens.length), tokens[i].isConnective = decide (i % 2 = 1)

/-- Whether connectives join all neighbours of a sequence or do not occur in it. -/
def IsJoined (tokens : List Token) : Prop :=
  tokens = [] ∨ (∀ t ∈ tokens, t.isConnective = false) ∨ Alternates tokens

/-! ## Two views of a chain -/

theorem Alternates.tail_tail {first joint : Token} {rest : List Token}
    (h : Alternates (first :: joint :: rest)) : Alternates rest := by
  obtain ⟨hlength, hat⟩ := h
  refine ⟨by simp only [List.length_cons] at hlength; omega, ?_⟩
  intro i hi
  have hshift := hat (i + 2) (by simp only [List.length_cons]; omega)
  simpa [show (i + 2) % 2 = i % 2 by omega] using hshift

theorem Chain.of_alternates : ∀ {tokens : List Token}, Alternates tokens → Chain tokens
  | [], h => absurd h.1 (by simp)
  | [t], h => .single (by simpa using h.2 0 (by simp))
  | first :: joint :: rest, h => by
    have hfirst : first.isConnective = false := h.2 0 (Nat.succ_pos _)
    have hjoint : joint.isConnective = true := h.2 1 (Nat.succ_lt_succ (Nat.succ_pos _))
    obtain ⟨c, rfl⟩ := joint.isConnective_iff.1 hjoint
    exact .link hfirst (Chain.of_alternates h.tail_tail)

theorem Chain.alternates {tokens : List Token} (h : Chain tokens) : Alternates tokens := by
  induction h with
  | single ht =>
    refine ⟨rfl, ?_⟩
    intro i hi
    obtain rfl : i = 0 := by simpa using hi
    simpa using ht
  | @link t c rest ht _ ih =>
    obtain ⟨hlength, hat⟩ := ih
    refine ⟨by simp only [List.length_cons]; omega, ?_⟩
    intro i hi
    match i with
    | 0 => simpa using ht
    | 1 => simp
    | i + 2 =>
      have hrest := hat i (by simpa using hi)
      simpa [show (i + 2) % 2 = i % 2 by omega] using hrest

/-- A joined sequence is a chain with a connective or has no connective at all. -/
theorem IsJoined.chain_or_forall {tokens : List Token} (h : IsJoined tokens) :
    Chain tokens ∧ tokens.any Token.isConnective = true ∨
      ∀ t ∈ tokens, t.isConnective = false := by
  by_cases hany : tokens.any Token.isConnective = true
  · rcases h with rfl | hnone | halternates
    · exact absurd hany (by simp)
    · exact .inr hnone
    · exact .inl ⟨.of_alternates halternates, hany⟩
  · exact .inr (by simpa using hany)

/-! ## Counting connectives -/

namespace SequenceRule

@[simp]
theorem connectives_nil : connectives [] = 0 := rfl

theorem connectives_cons (t : Token) (rest : List Token) :
    connectives (t :: rest) = (if t.isConnective then 1 else 0) + connectives rest := by
  unfold connectives
  by_cases h : t.isConnective = true
  · simp [h, Nat.add_comm]
  · simp [h]

theorem connectives_le_length (tokens : List Token) : connectives tokens ≤ tokens.length :=
  List.length_filter_le _ _

/-- There are no connectives to count exactly where there are none. -/
theorem connectives_eq_zero_iff (tokens : List Token) :
    connectives tokens = 0 ↔ ∀ t ∈ tokens, t.isConnective = false := by
  simp [connectives]

/-- Without two connectives in a row and with none at the end, at most half of a sequence are
connectives, and less than half of one that begins with another token.  Where no more would fit,
the sequence alternates. -/
theorem connectives_bound (tokens : List Token) (index : Nat)
    (hlast : tokens.getLast?.any Token.isConnective = false)
    (hadjacent : adjacent? index tokens = none) :
    ∀ first rest, tokens = first :: rest →
      if first.isConnective then
        2 * connectives tokens ≤ tokens.length ∧
          (2 * connectives tokens = tokens.length → Chain rest)
      else
        2 * connectives tokens + 1 ≤ tokens.length ∧
          (2 * connectives tokens + 1 = tokens.length → Chain tokens) := by
  induction tokens generalizing index with
  | nil => intro first rest h; exact absurd h (by simp)
  | cons first rest ih =>
    rintro _ _ ⟨rfl, rfl⟩
    cases rest with
    | nil =>
      have hfirst : first.isConnective = false := by simpa using hlast
      simpa [connectives_cons, hfirst] using Chain.single hfirst
    | cons second rest =>
      have hlast' : (second :: rest).getLast?.any Token.isConnective = false := by
        simpa [List.getLast?_cons_cons] using hlast
      by_cases hfirst : first.isConnective = true
      · by_cases hsecond : second.isConnective = true
        · simp [adjacent?, hfirst, hsecond] at hadjacent
        · have hrest : adjacent? (index + 1) (second :: rest) = none := by
            simpa [adjacent?, hsecond] using hadjacent
          have hcount := ih (index + 1) hlast' hrest second rest rfl
          rw [if_neg hsecond] at hcount
          rw [if_pos hfirst, connectives_cons first, if_pos hfirst, List.length_cons]
          refine ⟨by omega, fun h ↦ hcount.2 (by omega)⟩
      · have hrest : adjacent? (index + 1) (second :: rest) = none := by
          simpa [adjacent?, hfirst] using hadjacent
        have hcount := ih (index + 1) hlast' hrest second rest rfl
        rw [if_neg hfirst, connectives_cons first, if_neg hfirst, List.length_cons]
        by_cases hsecond : second.isConnective = true
        · rw [if_pos hsecond] at hcount
          refine ⟨by omega, fun h ↦ ?_⟩
          obtain ⟨c, rfl⟩ := second.isConnective_iff.1 hsecond
          exact .link (by simpa using hfirst) (hcount.2 (by omega))
        · rw [if_neg hsecond] at hcount
          refine ⟨by omega, fun h ↦ ?_⟩
          omega

end SequenceRule

/-! ## The check of a sequence -/

open SequenceRule

theorem Chain.head?_isConnective {tokens : List Token} (h : Chain tokens) :
    tokens.head?.any Token.isConnective = false := by
  cases h <;> simpa

theorem Chain.ne_nil {tokens : List Token} (h : Chain tokens) : tokens ≠ [] := by
  cases h <;> simp

theorem Chain.getLast?_isConnective {tokens : List Token} (h : Chain tokens) :
    tokens.getLast?.any Token.isConnective = false := by
  induction h with
  | single ht => simpa
  | @link t c rest _ hrest ih =>
    obtain ⟨first, rest, rfl⟩ := List.exists_cons_of_ne_nil hrest.ne_nil
    simpa [List.getLast?_cons_cons] using ih

theorem Chain.adjacent?_eq_none {tokens : List Token} (h : Chain tokens) (index : Nat) :
    adjacent? index tokens = none := by
  induction h generalizing index with
  | single => rfl
  | @link t c rest ht hrest ih =>
    obtain ⟨first, rest, rfl⟩ := List.exists_cons_of_ne_nil hrest.ne_nil
    have hfirst : first.isConnective = false := by simpa using hrest.head?_isConnective
    simpa [adjacent?, ht, hfirst] using ih (index + 2)

theorem Chain.two_mul_connectives {tokens : List Token} (h : Chain tokens) :
    2 * connectives tokens + 1 = tokens.length := by
  induction h with
  | single ht => simp [connectives_cons, ht]
  | link ht _ ih =>
    simp only [connectives_cons, ht, Token.isConnective_connective, List.length_cons]
    simp only [Bool.false_eq_true, if_false, if_true]
    omega

theorem adjacent?_eq_none_of_forall {tokens : List Token}
    (h : ∀ t ∈ tokens, t.isConnective = false) (index : Nat) : adjacent? index tokens = none := by
  induction tokens generalizing index with
  | nil => rfl
  | cons first rest ih =>
    have hrest := ih (fun t ht ↦ h t (List.mem_cons_of_mem _ ht)) (index + 1)
    cases rest with
    | nil => rfl
    | cons second rest => simpa [adjacent?, h first (List.mem_cons_self ..)] using hrest

/-- What the check of a sequence asks, without its messages. -/
theorem checkSequence_eq_ok_iff (tokens : List Token) (path : TokenPath) :
    checkSequence tokens path = .ok () ↔
      tokens.head?.any Token.isConnective = false ∧
        tokens.getLast?.any Token.isConnective = false ∧ adjacent? 0 tokens = none ∧
          (connectives tokens = 0 ∨ 2 * connectives tokens + 1 = tokens.length) := by
  have hle := connectives_le_length tokens
  unfold checkSequence
  by_cases hhead : tokens.head?.any Token.isConnective = true
  · simp [hhead]
  · by_cases hlast : tokens.getLast?.any Token.isConnective = true
    · simp [hhead, hlast]
    · cases hadjacent : adjacent? 0 tokens with
      | some index => simp [hhead, hlast]
      | none =>
        have hcount : ¬(0 < connectives tokens ∧
            connectives tokens ≠ tokens.length - connectives tokens - 1) ↔
              connectives tokens = 0 ∨ 2 * connectives tokens + 1 = tokens.length := by
          omega
        simp only [hhead, hlast, ← hcount]
        split <;> simp_all

/-- The check of a sequence accepts the sequences that are joined throughout or not at all. -/
theorem checkSequence_eq_ok_iff_isJoined (tokens : List Token) (path : TokenPath) :
    checkSequence tokens path = .ok () ↔ IsJoined tokens := by
  rw [checkSequence_eq_ok_iff]
  constructor
  · rintro ⟨hhead, hlast, hadjacent, hcount⟩
    cases tokens with
    | nil => exact .inl rfl
    | cons first rest =>
      rcases hcount with hcount | hcount
      · exact .inr (.inl ((connectives_eq_zero_iff _).1 hcount))
      · have hbound := connectives_bound _ 0 hlast hadjacent first rest rfl
        rw [if_neg (by simpa using hhead)] at hbound
        exact .inr (.inr (hbound.2 hcount).alternates)
  · rintro (rfl | hnone | halternates)
    · simp [adjacent?]
    · refine ⟨?_, ?_, adjacent?_eq_none_of_forall hnone 0,
        .inl ((connectives_eq_zero_iff tokens).2 hnone)⟩
      · cases hhead : tokens.head? with
        | none => rfl
        | some t => exact hnone t (List.mem_of_head? hhead)
      · cases hlast : tokens.getLast? with
        | none => rfl
        | some t => exact hnone t (List.mem_of_getLast? hlast)
    · have hchain := Chain.of_alternates halternates
      exact ⟨hchain.head?_isConnective, hchain.getLast?_isConnective, hchain.adjacent?_eq_none 0,
        .inr hchain.two_mul_connectives⟩

end DocQuery
