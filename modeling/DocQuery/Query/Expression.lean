import DocQuery.Query.Vocabulary
import DocQuery.Value.Basic

/-!
# Query Expressions

An expression is a sequence of tokens with an optional sort and an optional number of records to
take.  A token is a statement about one property, a connective between its neighbours, or a group
that stands for the sequence inside of it.  Nothing here keeps a sequence from being malformed.
-/

namespace DocQuery

/-! ## Statements -/

/-- How a text has to occur in a property. -/
inductive TextMatch where
  | exact
  | startsWith
  | endsWith
  | includes
deriving DecidableEq, Repr

/-- The options of a comparison of texts. -/
structure TextOptions where
  caseSensitive : Bool := false
  startsWith : Bool := false
  endsWith : Bool := false
  includes : Bool := false
deriving DecidableEq, Repr

namespace TextOptions

/-- The match that is asked for: the first flag that is set decides. -/
def mode (o : TextOptions) : TextMatch :=
  if o.startsWith then .startsWith
  else if o.endsWith then .endsWith
  else if o.includes then .includes
  else .exact

/-- Sets the flags so that they ask for one match. -/
def withMode (o : TextOptions) (mode : TextMatch) : TextOptions :=
  { o with
    startsWith := mode = .startsWith
    endsWith := mode = .endsWith
    includes := mode = .includes }

/-- The flags ask for the match they were set for. -/
@[simp]
theorem mode_withMode (o : TextOptions) (mode : TextMatch) : (o.withMode mode).mode = mode := by
  cases mode <;> rfl

end TextOptions

/-- A comparison of a property with a value. -/
structure Property where
  key : String
  value : Value
  valueType : ValueType := .string
  symbol : Symbol := .eq
  options : TextOptions := {}

/-- The side of a date that a bound selects. -/
inductive BoundSide where
  | before
  | after
deriving DecidableEq, Repr

/-- An upper or lower bound on a date. -/
structure DateBound where
  side : BoundSide
  key : String
  date : Value
  valueType : ValueType := .date
  /-- Whether the date itself is selected. -/
  inclusive : Bool := false

/-- A statement about one property. -/
inductive Statement where
  | property (p : Property)
  | bound (b : DateBound)

/-- The name of the property that a statement is about. -/
def Statement.key : Statement → String
  | property p => p.key
  | bound b => b.key

/-! ## Tokens -/

/-- An element of a query. -/
inductive Token where
  | connective (c : Connective)
  | group (tokens : List Token)
  | statement (s : Statement)

namespace Token

/-- The connective that a token is. -/
def connective? : Token → Option Connective
  | connective c => some c
  | _ => none

/-- Whether a token is a connective. -/
def isConnective (t : Token) : Bool := t.connective?.isSome

end Token

/-! ## Expressions -/

/-- The property that results are sorted by, and the direction. -/
structure SortRule where
  key : String
  order : SortOrder
deriving DecidableEq, Repr

/-- A positive number of records, of at most thirty-two bits. -/
structure Take where
  count : Nat
  count_pos : 0 < count
  count_le : count ≤ 4294967295
deriving DecidableEq

/-- The number of records that an integer stands for. -/
def Take.ofInt? (n : Int) : Option Take :=
  if h : 0 < n.toNat ∧ n.toNat ≤ 4294967295 then some ⟨n.toNat, h.1, h.2⟩ else none

/-- The integers that stand for a number of records. -/
theorem Take.isSome_ofInt?_iff (n : Int) : (Take.ofInt? n).isSome ↔ 1 ≤ n ∧ n ≤ 4294967295 := by
  unfold Take.ofInt?
  split <;> simp <;> omega

/-- A query: tokens, and how to order and cut the results. -/
structure Expression where
  tokens : List Token := []
  sort : Option SortRule := none
  take : Option Take := none

/-- Whether an expression has no tokens, so that it selects every record. -/
def Expression.isEmpty (e : Expression) : Bool := e.tokens.isEmpty

end DocQuery
