import DocQuery.Bson.Basic
import DocQuery.Value.Basic

/-!
# Values as Stored Values

A value is stored under its own kind.  Integers take thirty-two bits where they fit, and instants
keep their milliseconds.
-/

namespace DocQuery

/-- The stored form of an integer: thirty-two bits where they suffice. -/
def Bson.ofInt (n : Int64) : Bson :=
  if -2147483648 ≤ n.toInt ∧ n.toInt ≤ 2147483647 then .int32 n.toInt32 else .int64 n

/-- The stored form of an instant. -/
def Instant.toBson (t : Instant) : Bson := .dateTime t.millis

namespace Value

mutual

/-- The stored form of a value. -/
def toBson : Value → Bson
  | null => .null
  | bool b => .bool b
  | int n => .ofInt n
  | float x => .double x
  | string s => .string s
  | array items => .array (itemsToBson items)
  | object fields => .document (fieldsToBson fields)
  | time t => t.toBson

/-- The stored forms of items. -/
def itemsToBson : List Value → List Bson
  | [] => []
  | item :: rest => item.toBson :: itemsToBson rest

/-- The stored forms of fields. -/
def fieldsToBson : List (String × Value) → Document
  | [] => []
  | (name, item) :: rest => (name, item.toBson) :: fieldsToBson rest

end

end Value

end DocQuery
