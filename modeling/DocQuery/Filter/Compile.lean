import DocQuery.Filter.Clause
import DocQuery.Filter.Sequence

/-!
# Compiling Queries

A sequence of tokens is checked and then becomes a match tree.  An empty sequence selects
everything, a sequence without connectives all of its tokens at once.  Otherwise the first
connective joins the first token with the whole rest of the sequence, so that connectives group to
the right whatever they are.  A group is a sequence of its own.

Of several faulty tokens that are joined by connectives, the last pair is reported first, its left
token before its right one, and then the others from right to left.
-/

namespace DocQuery

/-- The tree that a connective makes of two others. -/
def Connective.join (c : Connective) (left right : MatchTree) : MatchTree :=
  match c with
  | .and => .and [left, right]
  | .or => .or [left, right]

/-- The error for a token in a place where it has no meaning. -/
def unhandledToken {α : Type} (detail : String) (path : TokenPath) : Except CompileError α :=
  .error { fault := .unhandledToken detail, path }

mutual

/-- The tree of a token at a position. -/
def compileToken (dates : DateRendering) (path : TokenPath) :
    Token → Except CompileError MatchTree
  | .connective c => unhandledToken ("unexpected connective " ++ c.name) path
  | .statement s => s.clause dates path
  | .group tokens =>
    if tokens.isEmpty then .ok .all
    else match checkSequence tokens path with
      | .error e => .error e
      | .ok () =>
        if tokens.any Token.isConnective then compileChain dates path 0 tokens
        else (compileAll dates path 0 tokens).map .and

/-- The trees of the tokens of a sequence from an index on, from left to right. -/
def compileAll (dates : DateRendering) (path : TokenPath) (index : Nat) :
    List Token → Except CompileError (List MatchTree)
  | [] => .ok []
  | t :: rest =>
    match compileToken dates (path.child index) t with
    | .error e => .error e
    | .ok tree =>
      match compileAll dates path (index + 1) rest with
      | .error e => .error e
      | .ok trees => .ok (tree :: trees)

/-- The tree of a sequence that is joined by connectives, from an index on. -/
def compileChain (dates : DateRendering) (path : TokenPath) (index : Nat) :
    List Token → Except CompileError MatchTree
  | [last] => compileToken dates (path.child index) last
  | [first, joint, last] =>
    match joint.connective? with
    | none => unhandledToken "expected AND or OR between statements" (path.child (index + 1))
    | some c =>
      match compileToken dates (path.child index) first with
      | .error e => .error e
      | .ok left =>
        match compileToken dates (path.child (index + 2)) last with
        | .error e => .error e
        | .ok right => .ok (c.join left right)
  | first :: joint :: rest =>
    match compileChain dates path (index + 2) rest with
    | .error e => .error e
    | .ok right =>
      match joint.connective? with
      | none => unhandledToken "expected AND or OR between statements" (path.child (index + 1))
      | some c =>
        match compileToken dates (path.child index) first with
        | .error e => .error e
        | .ok left => .ok (c.join left right)
  | [] => unhandledToken "query chain produced no clauses" path

end

/-- Compiles a sequence of tokens. -/
def compile (tokens : List Token) (dates : DateRendering := .native) :
    Except CompileError MatchTree :=
  compileToken dates [] (.group tokens)

/-- Compiles an expression to an aggregation of one stage that matches. -/
def Expression.toPipeline (e : Expression) (dates : DateRendering := .native) :
    Except CompileError (List Document) :=
  (compile e.tokens dates).map MatchTree.toPipeline

end DocQuery
