import DocQuery.Text.Digits

/-!
# Words of the Query Language

The closed vocabularies of queries: declared types of values, comparison symbols, the connectives
and the orders of sorting.  Each word has a written form; `ofName?` reads it back, together with
the other accepted spellings, and the functions `ofText` say which vocabulary a foreign word was
taken for.
-/

namespace DocQuery

/-! ## Errors -/

/-- What is wrong with a part of a query. -/
inductive QueryError where
  | invalidTake (n : Int64)
  | invalidSort (order : String)
  | unknownConnective (word : String)
  | unknownSymbol (word : String)
  | unknownValueType (word : String)
deriving DecidableEq

/-- The message of an error. -/
def QueryError.message : QueryError → String
  | invalidTake n => "take must be a positive integer, got " ++ Text.integer n.toInt
  | invalidSort order => "invalid sort order '" ++ order ++ "', expected 'asc' or 'dsc'"
  | unknownConnective word => "unrecognized connective '" ++ word ++ "'"
  | unknownSymbol word => "unrecognized equality symbol '" ++ word ++ "'"
  | unknownValueType word => "unrecognized value type '" ++ word ++ "'"

/-! ## Value types -/

/-- The declared type of a compared value. -/
inductive ValueType where
  | string
  | number
  | date
  | boolean
  | object
  | array
deriving DecidableEq, Repr

namespace ValueType

/-- The written form of a type. -/
def name : ValueType → String
  | string => "string"
  | number => "number"
  | date => "date"
  | boolean => "boolean"
  | object => "object"
  | array => "array"

/-- The type with a written form. -/
def ofName? : String → Option ValueType
  | "string" => some string
  | "number" => some number
  | "date" => some date
  | "boolean" => some boolean
  | "object" => some object
  | "array" => some array
  | _ => none

/-- The written form of a type reads back. -/
@[simp]
theorem ofName?_name (w : ValueType) : ofName? w.name = some w := by
  cases w <;> rfl

/-- Reads a type. -/
def ofText (word : String) : Except QueryError ValueType :=
  (ofName? word).elim (.error (.unknownValueType word)) .ok

end ValueType

/-! ## Comparison symbols -/

/-- How a property is compared with a value. -/
inductive Symbol where
  | eq
  | ne
  | gt
  | gte
  | lt
  | lte
deriving DecidableEq, Repr

namespace Symbol

/-- The written form of a symbol. -/
def name : Symbol → String
  | eq => "="
  | ne => "!="
  | gt => ">"
  | gte => ">="
  | lt => "<"
  | lte => "<="

/-- The symbol with a written form; inequality has three of them. -/
def ofName? : String → Option Symbol
  | "=" => some eq
  | "!=" => some ne
  | "≠" => some ne
  | "<>" => some ne
  | ">" => some gt
  | ">=" => some gte
  | "<" => some lt
  | "<=" => some lte
  | _ => none

/-- The written form of a symbol reads back. -/
@[simp]
theorem ofName?_name (w : Symbol) : ofName? w.name = some w := by
  cases w <;> rfl

/-- Reads a symbol. -/
def ofText (word : String) : Except QueryError Symbol :=
  (ofName? word).elim (.error (.unknownSymbol word)) .ok

end Symbol

/-! ## Connectives -/

/-- A word that joins two tokens. -/
inductive Connective where
  | and
  | or
deriving DecidableEq, Repr

namespace Connective

/-- The written form of a connective. -/
def name : Connective → String
  | and => "AND"
  | or => "OR"

/-- The connective with a written form. -/
def ofName? : String → Option Connective
  | "AND" => some and
  | "OR" => some or
  | _ => none

/-- The written form of a connective reads back. -/
@[simp]
theorem ofName?_name (w : Connective) : ofName? w.name = some w := by
  cases w <;> rfl

/-- Reads a connective. -/
def ofText (word : String) : Except QueryError Connective :=
  (ofName? word).elim (.error (.unknownConnective word)) .ok

end Connective

/-! ## Sort orders -/

/-- The direction of a sort. -/
inductive SortOrder where
  | ascending
  | descending
deriving DecidableEq, Repr

namespace SortOrder

/-- The written form of an order. -/
def name : SortOrder → String
  | ascending => "asc"
  | descending => "dsc"

/-- The order with a written form; descending has two of them. -/
def ofName? : String → Option SortOrder
  | "asc" => some ascending
  | "dsc" => some descending
  | "desc" => some descending
  | _ => none

/-- The written form of an order reads back. -/
@[simp]
theorem ofName?_name (w : SortOrder) : ofName? w.name = some w := by
  cases w <;> rfl

/-- Reads an order. -/
def ofText (word : String) : Except QueryError SortOrder :=
  (ofName? word).elim (.error (.invalidSort word)) .ok

/-- The order that is ascending or not. -/
def ofAscending (isAscending : Bool) : SortOrder := if isAscending then ascending else descending

end SortOrder

end DocQuery
