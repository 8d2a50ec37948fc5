import Mathlib.Data.List.Basic
import DocQuery.Proofs.Filter.Equations
import DocQuery.Proofs.Query.Nesting

/-!
# Where Compile Errors Point

The position of an error is a way through groups: one index in each enclosing sequence, from the
outermost inward.  The main statement is that this way ends at the fault.  For a connective that must
not stand where it does it ends at this connective, for a wrong number of connectives at the sequence
that has it, and for a symbol without a meaning at the comparison that is refused by itself.  All
sequences outside of the one at fault are joined, so the fault is the first that is met on this way.

The proof follows the compiler: the error of a sequence is one of its own check or that of a token at
a known index, and the index is put in front of the way from this token on.
-/

namespace DocQuery

open SequenceRule

/-! ## Places of faults -/

/-- The position leads from a sequence to itself or to one inside of its groups, and every sequence
that is left on the way is joined. -/
inductive LeadsTo : List Token → TokenPath → List Token → Prop
  /-- The empty position stays. -/
  | stay (tokens : List Token) : LeadsTo tokens [] tokens
  /-- An index enters the group that stands there. -/
  | descend {outer inner sequence : List Token} {index : Nat} {path : TokenPath}
      (hjoined : IsJoined outer) (hgroup : outer[index]? = some (.group inner))
      (hinner : LeadsTo inner path sequence) : LeadsTo outer (index :: path) sequence

/-- Whether a connective stands at an index of a sequence. -/
def IsConnectiveAt (sequence : List Token) (index : Nat) : Prop :=
  ∃ c, sequence[index]? = some (.connective c)

/-- The number of tokens of a sequence that are no connectives. -/
def SequenceRule.others (tokens : List Token) : Nat :=
  (tokens.filter fun t ↦ !t.isConnective).length

/-- Whether a sequence breaks a rule at a place: a connective of the sequence, or the sequence itself
where its connectives are too few or too many and the other rules are kept. -/
def SequenceRule.IsBrokenAt (sequence : List Token) (place : TokenPath) : SequenceRule → Prop
  | leadingConnective => place = [0] ∧ IsConnectiveAt sequence 0
  | trailingConnective =>
    ∃ index, place = [index] ∧ index + 1 = sequence.length ∧ IsConnectiveAt sequence index
  | adjacentConnectives =>
    ∃ index, place = [index + 1] ∧ IsConnectiveAt sequence index ∧
      IsConnectiveAt sequence (index + 1)
  | connectiveCount =>
    place = [] ∧ ¬IsConnectiveAt sequence 0 ∧ ¬IsConnectiveAt sequence (sequence.length - 1) ∧
      (∀ index, IsConnectiveAt sequence index → ¬IsConnectiveAt sequence (index + 1)) ∧
        connectives sequence ≠ 0 ∧ connectives sequence + 1 ≠ others sequence

/-- Whether a comparison is refused with a fault, wherever it stands. -/
def Property.IsRefusedFor (p : Property) (fault : CompileFault) : Prop :=
  ∀ path, p.clause path = .error { fault, path }

/-- Whether a sequence has a fault at a place: it breaks a rule there, or it is joined and a comparison
stands there that is refused. -/
def CompileFault.IsAt (sequence : List Token) (place : TokenPath) (fault : CompileFault) : Prop :=
  match fault with
  | malformed rule _ => rule.IsBrokenAt sequence place
  | symbolUnhandled _ _ _ =>
    IsJoined sequence ∧ ∃ index p, place = [index] ∧
      sequence[index]? = some (.statement (.property p)) ∧ p.IsRefusedFor fault
  | unhandledToken _ => False

/-- Whether the position of an error leads from a sequence to the place of its fault. -/
def CompileError.PointsInto (e : CompileError) (tokens : List Token) : Prop :=
  ∃ path place sequence, e.path = path ++ place ∧ LeadsTo tokens path sequence ∧
    e.fault.IsAt sequence place

/-! ## Broken rules -/

theorem isConnectiveAt_iff {tokens : List Token} {index : Nat} :
    IsConnectiveAt tokens index ↔ tokens[index]?.any Token.isConnective = true := by
  unfold IsConnectiveAt
  cases tokens[index]? <;> simp [Token.isConnective_iff]

theorem isConnectiveAt_zero_iff {tokens : List Token} :
    IsConnectiveAt tokens 0 ↔ tokens.head?.any Token.isConnective = true := by
  rw [isConnectiveAt_iff, List.head?_eq_getElem?]

theorem isConnectiveAt_last_iff {tokens : List Token} :
    IsConnectiveAt tokens (tokens.length - 1) ↔ tokens.getLast?.any Token.isConnective = true := by
  rw [isConnectiveAt_iff, List.getLast?_eq_getElem?]

theorem connectives_add_others (tokens : List Token) :
    connectives tokens + others tokens = tokens.length :=
  (List.length_eq_length_filter_add Token.isConnective).symm

/-- The first connective that follows another, or no two in a row. -/
theorem adjacent?_spec (index : Nat) (tokens : List Token) :
    match adjacent? index tokens with
    | some found =>
      ∃ i, found = index + i + 1 ∧ IsConnectiveAt tokens i ∧ IsConnectiveAt tokens (i + 1)
    | none => ∀ i, IsConnectiveAt tokens i → ¬IsConnectiveAt tokens (i + 1) := by
  simp only [isConnectiveAt_iff]
  fun_induction adjacent? index tokens with
  | case1 index first second rest h => exact ⟨0, rfl, by simpa using h⟩
  | case2 index first second rest h ih =>
    cases hfound : adjacent? (index + 1) (second :: rest) with
    | some found =>
      simp only [hfound] at ih ⊢
      obtain ⟨i, rfl, hboth⟩ := ih
      exact ⟨i + 1, by omega, hboth⟩
    | none =>
      simp only [hfound] at ih ⊢
      rintro (_ | i)
      · simpa using h
      · exact ih i
  | case3 tokens index hshort =>
    intro i
    match tokens, hshort with
    | [], _ => simp
    | [_], _ => simp
    | first :: second :: rest, hshort => exact (hshort first second rest rfl).elim

/-- An error of the check of a sequence points at the place where a rule is broken. -/
theorem checkSequence_error {tokens : List Token} {path : TokenPath} {e : CompileError}
    (h : checkSequence tokens path = .error e) :
    ∃ place, e.path = path ++ place ∧ e.fault.IsAt tokens place := by
  have hadjacent := adjacent?_spec 0 tokens
  have htotal := connectives_add_others tokens
  unfold checkSequence at h
  by_cases hhead : tokens.head?.any Token.isConnective = true
  · rw [if_pos hhead] at h
    obtain rfl := Except.error.inj h
    exact ⟨[0], rfl, rfl, isConnectiveAt_zero_iff.2 hhead⟩
  rw [if_neg hhead] at h
  by_cases hlast : tokens.getLast?.any Token.isConnective = true
  · rw [if_pos hlast] at h
    obtain rfl := Except.error.inj h
    have hpos : 0 < tokens.length := by
      cases tokens with
      | nil => cases hlast
      | cons first rest => exact Nat.succ_pos _
    exact ⟨[tokens.length - 1], rfl, tokens.length - 1, rfl, Nat.sub_add_cancel hpos,
      isConnectiveAt_last_iff.2 hlast⟩
  rw [if_neg hlast] at h
  cases hfound : adjacent? 0 tokens with
  | some index =>
    simp only [hfound] at h hadjacent
    obtain rfl := Except.error.inj h
    obtain ⟨i, rfl, hboth⟩ := hadjacent
    exact ⟨[0 + i + 1], rfl, i, by rw [Nat.zero_add], hboth⟩
  | none =>
    simp only [hfound] at h hadjacent
    split at h
    · rename_i hcount
      obtain rfl := Except.error.inj h
      refine ⟨[], (List.append_nil path).symm, rfl, ?_, ?_, hadjacent, by omega, by omega⟩
      · exact mt isConnectiveAt_zero_iff.1 hhead
      · exact mt isConnectiveAt_last_iff.1 hlast
    · cases h

/-! ## Refused comparisons -/

/-- A comparison that is refused is refused for its symbol. -/
theorem Property.clause_eq_error {p : Property} {path : TokenPath} {e : CompileError}
    (h : p.clause path = .error e) :
    e = p.symbolError path ∧ p.IsRefusedFor (p.symbolError path).fault := by
  have hcondition := map_eq_error.1 h
  rcases p.condition_cases with ⟨c, hc⟩ | hrefused
  · exact absurd ((hc path).symm.trans hcondition) (by simp)
  · refine ⟨Except.error.inj (hcondition.symm.trans (hrefused path)), fun other ↦ ?_⟩
    exact map_eq_error.2 (hrefused other)

/-! ## Errors of sequences -/

variable {dates : DateRendering} {path : TokenPath} {e : CompileError}

/-- An error of all tokens of a sequence is the error of one of them, at its index. -/
theorem compileAll_error {tokens : List Token} {index : Nat}
    (h : compileAll dates path index tokens = .error e) :
    ∃ i t, tokens[i]? = some t ∧ compileToken dates (path.child (index + i)) t = .error e := by
  induction tokens generalizing index with
  | nil =>
    rw [compileAll_nil] at h
    cases h
  | cons first rest ih =>
    rw [compileAll_cons, bind_eq_error] at h
    rcases h with hfirst | ⟨tree, -, hrest⟩
    · exact ⟨0, first, rfl, hfirst⟩
    · obtain ⟨i, t, hmem, ht⟩ := ih (map_eq_error.1 hrest)
      exact ⟨i + 1, t, hmem, by rwa [show index + (i + 1) = index + 1 + i by omega]⟩

/-- An error of a chain is the error of one of its tokens at its index, and of no connective. -/
theorem compileChain_error {tokens : List Token} (hchain : Chain tokens) {index : Nat}
    (h : compileChain dates path index tokens = .error e) :
    ∃ i t, tokens[i]? = some t ∧ t.isConnective = false ∧
      compileToken dates (path.child (index + i)) t = .error e := by
  induction hchain generalizing index with
  | @single t ht =>
    rw [compileChain_single] at h
    exact ⟨0, t, rfl, ht, h⟩
  | @link first c rest hfirst hrest ih =>
    have hsides : compileToken dates (path.child index) first = .error e ∨
        compileChain dates path (index + 2) rest = .error e := by
      cases hrest with
      | @single last _ =>
        rw [compileChain_triple, bind_eq_error] at h
        rw [compileChain_single]
        exact h.imp_right fun ⟨_, _, hlast⟩ ↦ map_eq_error.1 hlast
      | link _ hrest =>
        rw [compileChain_link _ _ _ _ _ (by simp), bind_eq_error] at h
        exact h.symm.imp_left fun ⟨_, _, hleft⟩ ↦ map_eq_error.1 hleft
    rcases hsides with hleft | hright
    · exact ⟨0, first, rfl, hfirst, hleft⟩
    · obtain ⟨i, t, hmem, ht, herror⟩ := ih hright
      exact ⟨i + 2, t, hmem, ht, by rwa [show index + (i + 2) = index + 2 + i by omega]⟩

/-- An error of a group is one of the check of its sequence, or the sequence is joined and the error is
that of a token other than a connective. -/
theorem compileToken_group_error {tokens : List Token}
    (h : compileToken dates path (.group tokens) = .error e) :
    checkSequence tokens path = .error e ∨
      IsJoined tokens ∧ ∃ i t, tokens[i]? = some t ∧ t.isConnective = false ∧
        compileToken dates (path.child i) t = .error e := by
  rw [compileToken_group] at h
  split at h
  · cases h
  rcases bind_eq_error.1 h with hcheck | ⟨_, hcheck, herror⟩
  · exact .inl hcheck
  have hjoined := (checkSequence_eq_ok_iff_isJoined tokens path).1 hcheck
  refine .inr ⟨hjoined, ?_⟩
  rcases hjoined.chain_or_forall with ⟨hchain, hany⟩ | hnone
  · rw [if_pos hany] at herror
    simpa only [Nat.zero_add] using compileChain_error hchain herror
  · rw [if_neg (by simpa using hnone)] at herror
    obtain ⟨i, t, hmem, ht⟩ := compileAll_error (map_eq_error.1 herror)
    rw [Nat.zero_add] at ht
    exact ⟨i, t, hmem, hnone t (List.mem_of_getElem? hmem), ht⟩

/-! ## Errors of queries -/

/-- Whether a fault stands at a place of a token: at a comparison itself, or inside of a group where its
position leads. -/
def Token.HasFault (fault : CompileFault) (place : TokenPath) : Token → Prop
  | .connective _ => False
  | .statement (.property p) => place = [] ∧ fault = (p.symbolError []).fault ∧ p.IsRefusedFor fault
  | .statement (.bound _) => False
  | .group tokens => CompileError.PointsInto { fault, path := place } tokens

/-- A fault of a token of a joined sequence is a fault of the sequence, with the index of the token in
front of its place. -/
theorem Token.HasFault.pointsInto {tokens : List Token} {t : Token} {index : Nat}
    {fault : CompileFault} {place : TokenPath} (h : t.HasFault fault place)
    (hjoined : IsJoined tokens) (ht : tokens[index]? = some t) :
    CompileError.PointsInto { fault, path := index :: place } tokens := by
  match t, h with
  | .statement (.property p), ⟨hplace, hfault, hrefused⟩ =>
    subst hplace hfault
    exact ⟨[], [index], tokens, rfl, .stay tokens, hjoined, index, p, rfl, ht, hrefused⟩
  | .group inner, ⟨path, rest, sequence, hplace, hleads, hfault⟩ =>
    refine ⟨index :: path, rest, sequence, ?_, .descend hjoined ht hleads, hfault⟩
    exact congrArg (index :: ·) hplace

/-- Where the compiler refuses a token, the position of its error goes on from that of the token to the
fault. -/
theorem compileToken_error (t : Token) (ht : t.isConnective = false)
    (h : compileToken dates path t = .error e) :
    ∃ place, e.path = path ++ place ∧ t.HasFault e.fault place := by
  induction t using Token.induction generalizing path with
  | connective c => cases ht
  | statement s =>
    rw [compileToken] at h
    cases s with
    | property p =>
      obtain ⟨rfl, hrefused⟩ := Property.clause_eq_error h
      exact ⟨[], (List.append_nil path).symm, rfl, rfl, hrefused⟩
    | bound b => cases h
  | group tokens ih =>
    rcases compileToken_group_error h with hcheck | ⟨hjoined, i, t, hmem, ht, herror⟩
    · obtain ⟨place, hpath, hfault⟩ := checkSequence_error hcheck
      exact ⟨place, hpath, [], place, tokens, rfl, .stay tokens, hfault⟩
    · obtain ⟨place, hpath, hfault⟩ := ih t (List.mem_of_getElem? hmem) ht herror
      refine ⟨i :: place, ?_, hfault.pointsInto hjoined hmem⟩
      rw [hpath, TokenPath.child, List.append_assoc]
      rfl

/-- The error of a query that does not compile points at its fault. -/
theorem compile_error_pointsInto {tokens : List Token} {dates : DateRendering} {e : CompileError}
    (h : compile tokens dates = .error e) : e.PointsInto tokens := by
  obtain ⟨place, hpath, hfault⟩ := compileToken_error (.group tokens) rfl h
  obtain rfl : e.path = place := hpath
  exact hfault

/-- A comparison that is refused in the second of two groups, behind one that is accepted. -/
def refusedQuery : List Token :=
  [.statement (.property { key := "name", value := .string "x" }), .connective .and,
    .group
      [.group [.statement (.property { key := "name", value := .string "x" })],
        .connective .or,
        .group
          [.statement (.bound { side := .before, key := "due", date := .null }),
            .statement (.property
              { key := "count", value := .int 3, valueType := .number, symbol := .ne })]]]

/-- The error of this query leads through both groups. -/
theorem compile_error_pointsInto_refusedQuery :
    let e : CompileError :=
      { fault := .symbolUnhandled .ne .number "count", path := [2, 2, 1] }
    compile refusedQuery = .error e ∧ e.PointsInto refusedQuery := by
  intro e
  have h : compile refusedQuery = .error e := by rfl
  exact ⟨h, compile_error_pointsInto h⟩

end DocQuery
