import DocQuery.Fields.Basic
import DocQuery.Number.Rounding
import DocQuery.Time.Instant

/-!
# Values

A value is what a query compares a property with.  Besides the kinds of JSON, with integers apart
from doubles, there are instants.  The fields of an object are sorted by name and hold each name
once; `Value.ofFields` builds such an object from any list of fields.

A value is *absent* if it is null or the empty text.  The class `ToValue` collects the types whose
members stand for values.
-/

namespace DocQuery

/-- A value that a query compares with. -/
inductive Value where
  | null
  | bool (b : Bool)
  | int (n : Int64)
  | float (x : Double)
  | string (s : String)
  | array (items : List Value)
  | object (fields : List (String × Value))
  | time (t : Instant)

namespace Value

/-- The object with the given fields; of two with one name the later counts. -/
def ofFields (fields : List (String × Value)) : Value := object (Fields.sorted fields)

/-- Whether a value is null. -/
def isNull : Value → Bool
  | null => true
  | _ => false

/-- Whether a value is null or the empty text. -/
def isAbsent : Value → Bool
  | null => true
  | string s => s.isEmpty
  | _ => false

/-- The truth value that a value is. -/
def bool? : Value → Option Bool
  | bool b => some b
  | _ => none

/-- The integer that a value is. -/
def int? : Value → Option Int64
  | int n => some n
  | _ => none

/-- The number that a value is, an integer as its nearest double. -/
def double? : Value → Option Double
  | float x => some x
  | int n => some (Double.ofInt n.toInt)
  | _ => none

/-- The text that a value is. -/
def string? : Value → Option String
  | string s => some s
  | _ => none

/-- The instant that a value is. -/
def instant? : Value → Option Instant
  | time t => some t
  | _ => none

end Value

/-! ## Conversions -/

/-- Types whose members stand for values. -/
class ToValue (α : Type) where
  /-- The value that a member stands for. -/
  toValue : α → Value

export ToValue (toValue)

instance : ToValue Value := ⟨id⟩
instance : ToValue Bool := ⟨Value.bool⟩
instance : ToValue Int32 := ⟨fun n ↦ .int n.toInt64⟩
instance : ToValue Int64 := ⟨Value.int⟩
instance : ToValue UInt32 := ⟨fun n ↦ .int n.toUInt64.toInt64⟩
instance : ToValue Double := ⟨Value.float⟩
instance : ToValue String := ⟨Value.string⟩
instance : ToValue Instant := ⟨Value.time⟩

instance {α : Type} [ToValue α] : ToValue (List α) := ⟨fun items ↦ .array (items.map toValue)⟩

instance {α : Type} [ToValue α] : ToValue (Option α) := ⟨fun item ↦ item.elim .null toValue⟩

end DocQuery
