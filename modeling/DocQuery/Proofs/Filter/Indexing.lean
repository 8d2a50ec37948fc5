import DocQuery.Proofs.Filter.Equations
import DocQuery.Proofs.Query.Nesting

/-!
# Compiling by Index

The compiler as it goes through a sequence by index: it takes differences of lengths, reads tokens
by their place and joins a chain in a loop over the even places from the right, with the tree so far
as an accumulator.  A difference below zero and a place outside of the sequence give no result at
all, neither a tree nor an error.

The main statement is that compiling by index always gives a result, and that it is the result of
`compile`.  So no difference and no place is ever out of range.
-/

namespace DocQuery

/-! ## Definitions -/

/-- A result that is missing where a difference or a place is out of range. -/
abbrev Indexed (α : Type) := ExceptT CompileError Option α

namespace Indexed

variable {α β : Type}

/-- A result that is there. -/
def settled (result : Except CompileError α) : Indexed α := ExceptT.mk (some result)

/-- A value that has to be there. -/
def require (value : Option α) : Indexed α := ExceptT.mk (value.map .ok)

end Indexed

open Indexed SequenceRule

/-- The difference of two numbers, unless it is below zero. -/
def difference? (m n : Nat) : Option Nat := if n ≤ m then some (m - n) else none

/-- The even numbers below a bound. -/
def evensBelow (n : Nat) : List Nat := List.range' 0 ((n + 1) / 2) 2

/-- Checks the rules for one sequence with differences that may be out of range. -/
def checkByIndex (tokens : List Token) (path : TokenPath) : Indexed Unit :=
  let malformed (rule : SequenceRule) (detail : String) (path : TokenPath) :
      Except CompileError Unit := .error { fault := .malformed rule detail, path }
  match tokens.head?, tokens.getLast? with
  | some first, some last =>
    if first.isConnective then
      settled (malformed .leadingConnective "query cannot begin with an AND or OR" (path.child 0))
    else if last.isConnective then do
      let final ← require (difference? tokens.length 1)
      settled (malformed .trailingConnective "query cannot end with an AND or OR"
        (path.child final))
    else
      match (tokens.zip tokens.tail).findIdx? fun pair ↦
          pair.1.isConnective && pair.2.isConnective with
      | some i =>
        settled (malformed .adjacentConnectives "query cannot have two connectives in a row"
          (path.child (i + 1)))
      | none => do
        let found := connectives tokens
        let others ← require (difference? tokens.length found)
        if found = 0 then settled (.ok ())
        else
          let joints ← require (difference? others 1)
          if found ≠ joints then
            settled (malformed .connectiveCount
              (Text.padded 1 others ++ " statements need " ++ Text.padded 1 joints ++
                " connectives, found " ++ Text.padded 1 found)
              path)
          else settled (.ok ())
  | _, _ => settled (.ok ())

/-- One round of the loop over a chain: the token at an even place, its connective, and what has
been joined so far or else the token behind the connective. -/
def joinRound (tokens : List Token) (path : TokenPath) (compileAt : Nat → Indexed MatchTree)
    (acc : Option MatchTree) (start : Nat) : Indexed (Option MatchTree) := do
  let joint ← require tokens[start + 1]?
  match joint.connective? with
  | none =>
    settled (unhandledToken "expected AND or OR between statements" (path.child (start + 1)))
  | some c =>
    let left ← compileAt start
    let right ← acc.elim (compileAt (start + 2)) pure
    return some (c.join left right)

/-- Compiles a sequence, given how the token at a place compiles. -/
def sequenceByIndex (tokens : List Token) (path : TokenPath)
    (compileAt : (i : Nat) → i < tokens.length → Indexed MatchTree) : Indexed MatchTree :=
  let compileAt (i : Nat) : Indexed MatchTree :=
    if h : i < tokens.length then compileAt i h else require none
  if tokens.isEmpty then settled (.ok .all)
  else do
    checkByIndex tokens path
    if tokens.any Token.isConnective then
      let bound ← require (difference? tokens.length 2)
      match ← (evensBelow bound).reverse.foldlM (joinRound tokens path compileAt) none with
      | some tree => return tree
      | none => settled (unhandledToken "query chain produced no clauses" path)
    else return .and (← (List.range tokens.length).mapM compileAt)

/-- Compiles a token at a position by index. -/
def tokenByIndex (dates : DateRendering) (path : TokenPath) : Token → Indexed MatchTree
  | .connective c => settled (unhandledToken ("unexpected connective " ++ c.name) path)
  | .statement s => settled (s.clause dates path)
  | .group tokens =>
    sequenceByIndex tokens path fun i _ ↦ tokenByIndex dates (path.child i) tokens[i]
termination_by t => sizeOf t
decreasing_by
  have hmem := List.sizeOf_lt_of_mem (tokens.getElem_mem (n := i) ‹_›)
  simp only [Token.group.sizeOf_spec]
  omega

/-- Compiles a sequence of tokens by index. -/
def compileByIndex (tokens : List Token) (dates : DateRendering) : Indexed MatchTree :=
  tokenByIndex dates [] (.group tokens)

/-! ## Results that are there -/

namespace Indexed

variable {α β : Type}

@[simp]
theorem require_some (a : α) : require (some a) = settled (.ok a) := rfl

@[simp]
theorem pure_eq_settled (a : α) : (pure a : Indexed α) = settled (.ok a) := rfl

/-- Results that are there are bound as results. -/
theorem settled_bind (result : Except CompileError α) (next : α → Except CompileError β) :
    (settled result >>= fun a ↦ settled (next a)) = settled (result.bind next) := by
  cases result <;> rfl

@[simp]
theorem settled_ok_bind (a : α) (next : α → Indexed β) : settled (.ok a) >>= next = next a := rfl

end Indexed

theorem difference?_eq_some {m n : Nat} (h : n ≤ m) : difference? m n = some (m - n) :=
  if_pos h

/-! ## The check -/

/-- The first place where two connectives stand in a row. -/
theorem adjacent?_eq_findIdx? (tokens : List Token) (index : Nat) :
    adjacent? index tokens =
      ((tokens.zip tokens.tail).findIdx? fun pair ↦
        pair.1.isConnective && pair.2.isConnective).map (index + 1 + ·) := by
  induction tokens generalizing index with
  | nil => rfl
  | cons first rest ih =>
    cases rest with
    | nil => rfl
    | cons second rest =>
      rw [adjacent?, List.tail_cons, List.zip_cons_cons, List.findIdx?_cons]
      by_cases hboth : (first.isConnective && second.isConnective) = true
      · simp [hboth]
      · have hrest := ih (index + 1)
        rw [List.tail_cons] at hrest
        rw [if_neg hboth, hrest]
        simp only [hboth, Bool.false_eq_true, if_false, Option.map_map]
        congr 1
        funext i
        simp only [Function.comp_apply]
        omega

/-- The check by index is the check. -/
theorem checkByIndex_eq (tokens : List Token) (path : TokenPath) :
    checkByIndex tokens path = settled (checkSequence tokens path) := by
  cases htokens : tokens with
  | nil => rfl
  | cons first rest =>
    rw [← htokens]
    have hhead : tokens.head? = some first := by rw [htokens, List.head?_cons]
    obtain ⟨last, hlast⟩ : ∃ last, tokens.getLast? = some last := by
      rw [htokens]
      exact ⟨_, List.getLast?_cons⟩
    have hlength : 1 ≤ tokens.length := by simp [htokens]
    unfold checkByIndex checkSequence
    simp only [hhead, hlast, Option.any_some]
    by_cases hfirst : first.isConnective = true
    · simp [hfirst]
    · by_cases hend : last.isConnective = true
      · simp [hfirst, hend, difference?_eq_some hlength]
      · rw [adjacent?_eq_findIdx?]
        simp only [hfirst, hend, Bool.false_eq_true, if_false]
        cases (tokens.zip tokens.tail).findIdx? fun pair ↦
            pair.1.isConnective && pair.2.isConnective with
        | some i => simp [Nat.add_comm]
        | none =>
          have hfound : connectives tokens < tokens.length := by
            have hle := connectives_le_length rest
            simp only [htokens, connectives_cons, hfirst, List.length_cons]
            simp only [Bool.false_eq_true, if_false]
            omega
          have hothers := difference?_eq_some (Nat.le_of_lt hfound)
          have hjoints := difference?_eq_some (m := tokens.length - connectives tokens) (n := 1)
            (by omega)
          simp only [Option.map_none, hothers, require_some, settled_ok_bind]
          by_cases hzero : connectives tokens = 0
          · simp [hzero]
          · simp only [hzero, if_false, hjoints, require_some, settled_ok_bind,
              Nat.pos_of_ne_zero hzero, true_and]
            split <;> rfl

/-! ## Loops over a sequence -/

section
variable {dates : DateRendering} {tokens : List Token} {path : TokenPath}
  {compileAt : Nat → Indexed MatchTree}

/-- Whether the tokens of a sequence, connectives apart, compile at their places as the compiler
does it. -/
def CompilesTokens (dates : DateRendering) (tokens : List Token) (path : TokenPath)
    (compileAt : Nat → Indexed MatchTree) : Prop :=
  ∀ i t, tokens[i]? = some t → t.isConnective = false →
    compileAt i = settled (compileToken dates (path.child i) t)

/-- Going through the places of a sequence from left to right compiles its tokens in turn. -/
theorem mapM_compileAt (hcompile : CompilesTokens dates tokens path compileAt)
    (hnone : ∀ t ∈ tokens, t.isConnective = false) {suffix : List Token} {index : Nat}
    (hsuffix : tokens.drop index = suffix) :
    (List.range' index suffix.length).mapM compileAt =
      settled (compileAll dates path index suffix) := by
  induction suffix generalizing index with
  | nil => simp
  | cons t rest ih =>
    have ht : tokens[index]? = some t := by
      simpa [hsuffix] using (@List.getElem?_drop _ tokens index 0).symm
    have hrest : tokens.drop (index + 1) = rest := by
      rw [← List.drop_drop, hsuffix, List.drop_one, List.tail_cons]
    rw [List.length_cons, List.range'_succ, List.mapM_cons, ih hrest, compileAll_cons,
      hcompile index t ht (hnone t (List.mem_of_getElem? ht)), ← settled_bind]
    congr 1
    funext tree
    cases compileAll dates path (index + 1) rest <;> rfl

/-- One round of the loop over a chain, at a place with a connective behind it. -/
theorem joinRound_eq (hcompile : CompilesTokens dates tokens path compileAt) {start : Nat}
    {first : Token} {c : Connective} {rest : List Token}
    (hsuffix : tokens.drop start = first :: .connective c :: rest)
    (hfirst : first.isConnective = false) (acc : Option MatchTree) :
    joinRound tokens path compileAt acc start =
      settled (compileToken dates (path.child start) first) >>= fun left ↦
        acc.elim (compileAt (start + 2)) pure >>= fun right ↦
          settled (.ok (some (c.join left right))) := by
  have hat (i : Nat) : tokens[start + i]? = (first :: .connective c :: rest)[i]? := by
    rw [← hsuffix, List.getElem?_drop]
  have hjoint : tokens[start + 1]? = some (.connective c) := hat 1
  unfold joinRound
  rw [hjoint, require_some, settled_ok_bind]
  simp only [Token.connective?]
  rw [hcompile start first (hat 0) hfirst]
  rfl

/-- Going through the even places of a chain from the right joins it as the compiler does. -/
theorem foldlM_joinRound (hcompile : CompilesTokens dates tokens path compileAt)
    {first : Token} {c : Connective} {rest : List Token} {index : Nat}
    (hsuffix : tokens.drop index = first :: .connective c :: rest)
    (hfirst : first.isConnective = false) (hrest : Chain rest) :
    (List.range' index ((rest.length + 1) / 2) 2).reverse.foldlM
        (joinRound tokens path compileAt) none =
      settled ((compileChain dates path index (first :: .connective c :: rest)).map some) := by
  have hround := joinRound_eq hcompile hsuffix hfirst
  have hdrop : tokens.drop (index + 2) = rest := by
    rw [← List.drop_drop, hsuffix]
    rfl
  induction hrest generalizing index first c with
  | @single last hlast =>
    have hat : tokens[index + 2]? = some last := by
      simpa [hdrop] using (@List.getElem?_drop _ tokens (index + 2) 0).symm
    have hright := hcompile (index + 2) last hat hlast
    have hplaces : List.range' index (([last].length + 1) / 2) 2 = [index] := by simp
    rw [hplaces, List.reverse_singleton, List.foldlM_cons, hround, Option.elim_none, hright,
      compileChain_triple]
    cases compileToken dates (path.child index) first with
    | error e => rfl
    | ok left => cases compileToken dates (path.child (index + 2)) last <;> rfl
  | @link second d rest hsecond hrest ih =>
    have htail := ih hdrop hsecond (joinRound_eq hcompile hdrop hsecond) (by
      rw [← List.drop_drop, hdrop]
      rfl)
    have hcount : ((second :: .connective d :: rest).length + 1) / 2 =
        (rest.length + 1) / 2 + 1 := by
      simp only [List.length_cons]
      omega
    rw [hcount, List.range'_succ, List.reverse_cons, List.foldlM_append, htail,
      compileChain_link dates path index first c (by simp)]
    cases compileChain dates path (index + 2) (second :: .connective d :: rest) with
    | error e => rfl
    | ok right =>
      simp only [Except.map, settled_ok_bind, List.foldlM_cons, hround, Option.elim_some]
      cases compileToken dates (path.child index) first <;> rfl

end

/-! ## The compiler -/

/-- A sequence that compiles by index has the result of the compiler. -/
theorem sequenceByIndex_eq {dates : DateRendering} {tokens : List Token} {path : TokenPath}
    {compileAt : (i : Nat) → i < tokens.length → Indexed MatchTree}
    (hcompile : ∀ i (hi : i < tokens.length), tokens[i].isConnective = false →
      compileAt i hi = settled (compileToken dates (path.child i) tokens[i])) :
    sequenceByIndex tokens path compileAt =
      settled (compileToken dates path (.group tokens)) := by
  have hplaces : CompilesTokens dates tokens path fun i ↦
      if h : i < tokens.length then compileAt i h else require none := by
    intro i t ht hother
    obtain ⟨hi, rfl⟩ := List.getElem?_eq_some_iff.1 ht
    exact (dif_pos hi).trans (hcompile i hi hother)
  unfold sequenceByIndex
  rw [compileToken_group]
  by_cases hempty : tokens.isEmpty = true
  · rw [if_pos hempty, if_pos hempty]
  · rw [if_neg hempty, if_neg hempty, checkByIndex_eq]
    cases hcheck : checkSequence tokens path with
    | error e => rfl
    | ok u =>
      have hjoined := (checkSequence_eq_ok_iff_isJoined tokens path).1 hcheck
      rw [settled_ok_bind, Except.bind]
      rcases hjoined.chain_or_forall with ⟨hchain, hany⟩ | hnone
      · rw [if_pos hany, if_pos hany]
        cases hchain with
        | single ht => simp [ht] at hany
        | @link first c rest hfirst hrest =>
          have hbound : difference? (first :: .connective c :: rest).length 2 =
              some rest.length := difference?_eq_some (by simp)
          have hloop := foldlM_joinRound hplaces List.drop_zero hfirst hrest
          rw [hbound, require_some, settled_ok_bind]
          unfold evensBelow
          rw [hloop]
          cases compileChain dates path 0 (first :: .connective c :: rest) <;> rfl
      · have hany : ¬tokens.any Token.isConnective = true := by simpa using hnone
        rw [if_neg hany, if_neg hany, List.range_eq_range',
          mapM_compileAt hplaces hnone List.drop_zero]
        cases compileAll dates path 0 tokens <;> rfl

/-- Compiling by index gives the result of the compiler: no difference and no place is out of
range. -/
theorem tokenByIndex_eq (dates : DateRendering) (path : TokenPath) (t : Token) :
    tokenByIndex dates path t = settled (compileToken dates path t) := by
  induction t using Token.induction generalizing path with
  | connective c => rw [tokenByIndex, compileToken]
  | statement s => rw [tokenByIndex, compileToken]
  | group tokens ih =>
    rw [tokenByIndex]
    exact sequenceByIndex_eq fun i hi _ ↦ ih _ (tokens.getElem_mem hi) (path.child i)

end DocQuery
