import DocQuery.Bson.OfValue
import DocQuery.Filter.Error
import DocQuery.Filter.Pattern
import DocQuery.Filter.Tree
import DocQuery.Time.Iso
import DocQuery.Time.Reading
import DocQuery.Value.Text

/-!
# Clauses

Every statement becomes one clause.  A comparison with an absent value asks for a missing field,
and one with an instant for its text.  Texts are compared by pattern unless the comparison is
exact and distinguishes case; numbers by comparison operators; all else by equality.

A bound on a date compares with the instant that its value names, rendered as the store's own kind
of date or as text.  A value that names no instant, or one declared to be no date, is compared as
it is.
-/

namespace DocQuery

/-- How the dates of bounds are rendered. -/
inductive DateRendering where
  /-- As the store's own dates. -/
  | native
  /-- As texts with milliseconds. -/
  | isoText
deriving DecidableEq, Repr

namespace Property

/-- The comparison operator for numbers; there is none for inequality. -/
def comparator? : Symbol → Option Comparator
  | .eq => some .eq
  | .gt => some .gt
  | .gte => some .gte
  | .lt => some .lt
  | .lte => some .lte
  | .ne => none

/-- The error for a symbol that has no meaning for the declared type. -/
def symbolError (p : Property) (path : TokenPath) : CompileError where
  fault := .symbolUnhandled p.symbol p.valueType p.key
  path := path

/-- The condition of a comparison of texts. -/
def textCondition (p : Property) (path : TokenPath) : Except CompileError Condition :=
  let raw := p.value.text
  let isPlain := p.options.mode = .exact ∧ p.options.caseSensitive
  let pattern : Pattern :=
    { regex := Literal.pattern raw p.options.mode, ignoreCase := !p.options.caseSensitive }
  match p.symbol with
  | .eq => .ok (if isPlain then .equals (.string raw) else .contains pattern)
  | .ne => .ok (if isPlain then .compare .ne (.string raw) else .lacks pattern)
  | _ => .error (p.symbolError path)

/-- The condition of a comparison. -/
def condition (p : Property) (path : TokenPath) : Except CompileError Condition :=
  if p.value.isAbsent then .ok .null
  else match p.value.instant? with
    | some t => .ok (.equals (.string t.isoText))
    | none =>
      match p.valueType with
      | .string => p.textCondition path
      | .number =>
        match comparator? p.symbol with
        | some op => .ok (.compare op p.value.toBson)
        | none => .error (p.symbolError path)
      | _ => .ok (.equals p.value.toBson)

/-- The clause of a comparison. -/
def clause (p : Property) (path : TokenPath) : Except CompileError MatchTree :=
  (p.condition path).map (.clause p.key)

end Property

namespace DateBound

/-- The comparison operator of a bound. -/
def comparator (b : DateBound) : Comparator :=
  match b.side, b.inclusive with
  | .before, true => .lte
  | .before, false => .lt
  | .after, true => .gte
  | .after, false => .gt

/-- The instant that the value of a bound names: numbers count milliseconds. -/
def instantOf? : Value → Option Instant
  | .time t => some t
  | .string s => Instant.ofText? s
  | .int n => Instant.ofMillis? n.toInt
  | .float x => if x.isFinite then Instant.ofMillis? x.saturate.toInt else none
  | _ => none

/-- The value that a bound compares with. -/
def operand (b : DateBound) (dates : DateRendering) : Bson :=
  if b.valueType ≠ .date then b.date.toBson
  else match instantOf? b.date, dates with
    | some t, .native => t.toBson
    | some t, .isoText => .string t.isoText
    | none, _ => b.date.toBson

/-- The clause of a bound. -/
def clause (b : DateBound) (dates : DateRendering) : MatchTree :=
  .clause b.key (.compare b.comparator (b.operand dates))

end DateBound

/-- The clause of a statement. -/
def Statement.clause (dates : DateRendering) (path : TokenPath) :
    Statement → Except CompileError MatchTree
  | property p => p.clause path
  | bound b => .ok (b.clause dates)

end DocQuery
