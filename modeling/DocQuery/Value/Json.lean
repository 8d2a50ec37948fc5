import DocQuery.Json.Data
import DocQuery.Json.Writing
import DocQuery.Time.Iso
import DocQuery.Value.Basic

/-!
# Values and JSON

A value is written as the JSON of its kind; an instant becomes its exact text, and a double that
is not finite becomes null.  Read back, a numeral that names an integer of sixty-four bits is an
integer and every other numeral a double; a string stays a string, also where it reads as an
instant.

There are two ways to read: `Value.ofJson?` decides at every node of the tree, and `Value.ofData`
converts data whose numbers and repeated members have been settled before.
-/

namespace DocQuery.Value

/-! ## Writing -/

mutual

/-- The JSON of a value. -/
def toJson : Value → Json
  | null => .null
  | bool b => .bool b
  | int n => .number (Numeral.ofInt n.toInt)
  | float x => if x.isFinite then .number (Numeral.ofDouble x) else .null
  | string s => .string s
  | array items => .array (itemsToJson items)
  | object fields => .object (fieldsToJson fields)
  | time t => .string t.exactText

/-- The JSON of every item. -/
def itemsToJson : List Value → List Json
  | [] => []
  | item :: rest => item.toJson :: itemsToJson rest

/-- The JSON of every field. -/
def fieldsToJson : List (String × Value) → List (String × Json)
  | [] => []
  | (name, item) :: rest => (name, item.toJson) :: fieldsToJson rest

end

/-! ## Reading -/

mutual

/-- The value that a JSON tree stands for, if every part has a value. -/
def ofJson? : Json → Option Value
  | .null => some null
  | .bool b => some (bool b)
  | .number n =>
    match n.int? with
    | some value => some (int value)
    | none => if n.double.isFinite then some (float n.double) else none
  | .string s => some (string s)
  | .array items => (itemsOfJson? items).map array
  | .object members => (fieldsOfJson? members).map ofFields
  | .unreadable => none

/-- The values that the items of an array stand for. -/
def itemsOfJson? : List Json → Option (List Value)
  | [] => some []
  | item :: rest =>
    match ofJson? item, itemsOfJson? rest with
    | some value, some values => some (value :: values)
    | _, _ => none

/-- The fields that the members of an object stand for. -/
def fieldsOfJson? : List (String × Json) → Option (List (String × Value))
  | [] => some []
  | (name, item) :: rest =>
    match ofJson? item, fieldsOfJson? rest with
    | some value, some values => some ((name, value) :: values)
    | _, _ => none

end

/-- The value that a JSON text stands for. -/
def ofJsonText? (source : String) : Option Value := do
  let tree ← Json.ofText? source
  if tree.depth ≤ Json.greatestDepth then ofJson? tree else none

mutual

/-- The value of JSON data. -/
def ofData : JsonData → Value
  | .null => null
  | .bool b => bool b
  | .number n =>
    match n.int? with
    | some value => int value
    | none => float n.double
  | .string s => string s
  | .array items => array (itemsOfData items)
  | .object fields => ofFields (fieldsOfData fields)

/-- The values of a list of data. -/
def itemsOfData : List JsonData → List Value
  | [] => []
  | item :: rest => ofData item :: itemsOfData rest

/-- The fields of a list of named data. -/
def fieldsOfData : List (String × JsonData) → List (String × Value)
  | [] => []
  | (name, item) :: rest => (name, ofData item) :: fieldsOfData rest

end

end DocQuery.Value
