import DocQuery.Query.Expression

/-!
# Building Expressions

A builder is an expression in the making.  Every step returns a new builder and leaves the one it
started from as it was, so several continuations may share a beginning.  For this the tokens are
linked backwards, each to the one before it, and they are counted as they come.  A builder checks
the sort order and the number of records to take, and nothing else.

`BuilderStep` is a step as data; `Builder.run` performs a line of steps and stops at the first that
fails.  The steps of a group run on a fresh builder of which only the tokens are kept.  A step whose
words are in no vocabulary is kept with the error, so that it fails when its turn comes.
-/

namespace DocQuery

/-- The options of a comparison. -/
structure PropertyOptions where
  valueType : ValueType := .string
  symbol : Symbol := .eq
  text : TextOptions := {}
deriving DecidableEq

namespace PropertyOptions

/-- The options of a comparison of numbers. -/
def number : PropertyOptions := { valueType := .number }

/-- The options of a comparison under a declared type. -/
def ofType (valueType : ValueType) : PropertyOptions := { valueType }

/-- Sets the comparison symbol. -/
def withSymbol (o : PropertyOptions) (symbol : Symbol) : PropertyOptions := { o with symbol }

/-- Makes the comparison of texts distinguish case. -/
def caseSensitive (o : PropertyOptions) : PropertyOptions :=
  { o with text := { o.text with caseSensitive := true } }

/-- Sets the match of texts. -/
def matching (o : PropertyOptions) (mode : TextMatch) : PropertyOptions :=
  { o with text := o.text.withMode mode }

end PropertyOptions

/-- An expression in the making. -/
structure Builder where
  /-- The tokens from the last one back to the first, a list that continuations share. -/
  tail : List Token := []
  /-- The number of tokens. -/
  length : Nat := 0
  sortRule : Option SortRule := none
  takeCount : Option Take := none

namespace Builder

/-- Appends a token. -/
def push (b : Builder) (t : Token) : Builder :=
  { b with tail := t :: b.tail, length := b.length + 1 }

/-- The tokens in the order in which they have been appended. -/
def tokens (b : Builder) : List Token := b.tail.reverse

/-- Whether no token has been appended. -/
def isEmpty (b : Builder) : Bool := b.length == 0

/-- Appends a comparison of a property with a value. -/
def property {α : Type} [ToValue α] (b : Builder) (key : String) (value : α)
    (options : PropertyOptions := {}) : Builder :=
  b.push <| .statement <| .property
    { key, value := toValue value, valueType := options.valueType, symbol := options.symbol,
      options := options.text }

/-- Appends a connective. -/
def connective (b : Builder) (c : Connective) : Builder := b.push (.connective c)

/-- Appends `AND`. -/
def and (b : Builder) : Builder := b.connective .and

/-- Appends `OR`. -/
def or (b : Builder) : Builder := b.connective .or

/-- Appends a bound on a date. -/
def bound (b : Builder) (d : DateBound) : Builder := b.push (.statement (.bound d))

/-- Appends the tokens of another builder as a group. -/
def group (b inner : Builder) : Builder := b.push (.group inner.tokens)

/-- Sorts the results. -/
def sort (b : Builder) (key : String) (isAscending : Bool) : Builder :=
  { b with sortRule := some ⟨key, .ofAscending isAscending⟩ }

/-- Sorts the results in an order given as a word. -/
def sortBy (b : Builder) (key order : String) : Except QueryError Builder :=
  (SortOrder.ofText order).map fun order ↦ { b with sortRule := some ⟨key, order⟩ }

/-- Takes at most so many results. -/
def take (b : Builder) (n : Int64) : Except QueryError Builder :=
  match Take.ofInt? n.toInt with
  | some count => .ok { b with takeCount := some count }
  | none => .error (.invalidTake n)

/-- The finished expression. -/
def expression (b : Builder) : Expression :=
  { tokens := b.tokens, sort := b.sortRule, take := b.takeCount }

end Builder

/-! ## Steps as data -/

/-- One step of a builder. -/
inductive BuilderStep where
  | property (key : String) (value : Value) (options : PropertyOptions)
  | connective (c : Connective)
  | bound (d : DateBound)
  | sort (key : String) (isAscending : Bool)
  | sortBy (key order : String)
  | take (n : Int64)
  | group (steps : List BuilderStep)
  | refused (e : QueryError)

namespace Builder

mutual

/-- Performs a step. -/
def apply (b : Builder) : BuilderStep → Except QueryError Builder
  | .property key value options => .ok (b.property key value options)
  | .connective c => .ok (b.connective c)
  | .bound d => .ok (b.bound d)
  | .sort key isAscending => .ok (b.sort key isAscending)
  | .sortBy key order => b.sortBy key order
  | .take n => b.take n
  | .group steps => (run {} steps).map b.group
  | .refused e => .error e

/-- Performs a line of steps up to the first failure. -/
def run (b : Builder) : List BuilderStep → Except QueryError Builder
  | [] => .ok b
  | step :: rest =>
    match b.apply step with
    | .ok next => next.run rest
    | .error e => .error e

end

end Builder

end DocQuery
