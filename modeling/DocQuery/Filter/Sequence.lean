import DocQuery.Filter.Error
import DocQuery.Query.Expression

/-!
# Well-Formed Sequences

In a sequence of tokens connectives either join all neighbours or do not occur at all.  Four rules
are checked in turn: no connective at the start, none at the end, no two in a row, and one
connective less than there are other tokens.  The check concerns one sequence and leaves the
groups in it alone.
-/

namespace DocQuery

namespace SequenceRule

/-- The index of the first connective that follows another, where `tokens` starts at `index`. -/
def adjacent? (index : Nat) : List Token → Option Nat
  | first :: second :: rest =>
    if first.isConnective && second.isConnective then some (index + 1)
    else adjacent? (index + 1) (second :: rest)
  | _ => none

/-- The number of connectives of a sequence. -/
def connectives (tokens : List Token) : Nat := (tokens.filter Token.isConnective).length

end SequenceRule

open SequenceRule

/-- Checks the rules for one sequence, at a position. -/
def checkSequence (tokens : List Token) (path : TokenPath) : Except CompileError Unit :=
  let malformed (rule : SequenceRule) (detail : String) (path : TokenPath) :=
    Except.error { fault := .malformed rule detail, path }
  if tokens.head?.any Token.isConnective then
    malformed .leadingConnective "query cannot begin with an AND or OR" (path.child 0)
  else if tokens.getLast?.any Token.isConnective then
    malformed .trailingConnective "query cannot end with an AND or OR"
      (path.child (tokens.length - 1))
  else match adjacent? 0 tokens with
    | some index =>
      malformed .adjacentConnectives "query cannot have two connectives in a row"
        (path.child index)
    | none =>
      let found := connectives tokens
      let others := tokens.length - found
      if 0 < found ∧ found ≠ others - 1 then
        malformed .connectiveCount
          (Text.padded 1 others ++ " statements need " ++ Text.padded 1 (others - 1) ++
            " connectives, found " ++ Text.padded 1 found)
          path
      else .ok ()

end DocQuery
