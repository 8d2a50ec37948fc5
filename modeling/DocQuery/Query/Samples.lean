import DocQuery.Query.Builder

/-!
# Sample Expressions

Two families of expressions of any size: a long chain of comparisons with alternating connectives,
and groups nested in each other.
-/

namespace DocQuery.Expression

/-- The comparison number `index` of a chain. -/
def addLink (b : Builder) (index : Nat) : Builder :=
  let joined := if index = 0 then b else if index % 2 = 1 then b.or else b.and
  joined.property "age" (Int64.ofNat (20 + index)) (PropertyOptions.number.withSymbol .gte)

/-- A chain of comparisons that are joined by `OR` and `AND` in turn. -/
def chain (links : Nat) : Expression :=
  ((List.range links).foldl addLink {}).expression

/-- A text and a date test, with the next level in a group behind them. -/
def nestedLevel : Nat → Builder
  | 0 => base
  | depth + 1 => base.or.group (nestedLevel depth)
where
  /-- The tests of one level. -/
  base : Builder :=
    (Builder.property {} "status" "active").and.bound
      { side := .after, key := "joined", date := .string "2010-01-01" }

/-- Groups that are nested to a depth. -/
def nested (depth : Nat) : Expression := (nestedLevel depth).expression

end DocQuery.Expression
