import DocQuery.Fields.Basic
import DocQuery.Json.Reading

/-!
# JSON Data

`JsonData` is what a sound JSON text means when nothing is known about its purpose: integers that
fit sixty-four bits are kept apart from other numbers, and of two members with one name the last
counts.
-/

namespace DocQuery

/-- A JSON number: an integer of sixty-four bits with or without sign, or a double. -/
inductive JsonNumber where
  | natural (n : UInt64)
  | negative (n : Int64)
  | real (x : Double)

/-- What a JSON text means by itself. -/
inductive JsonData where
  | null
  | bool (b : Bool)
  | number (n : JsonNumber)
  | string (s : String)
  | array (items : List JsonData)
  | object (fields : List (String × JsonData))

namespace JsonNumber

/-- The number that a numeral names. -/
def ofNumeral (n : Numeral) : JsonNumber :=
  if n.isInteger && !n.negative && n.whole < 0x10000000000000000 then natural (UInt64.ofNat n.whole)
  else match n.int? with
    | some value => negative value
    | none => real n.double

/-- The integer that a number is, if it fits sixty-four bits with a sign. -/
def int? : JsonNumber → Option Int64
  | natural n => if n.toNat < 0x8000000000000000 then some n.toInt64 else none
  | negative n => some n
  | real _ => none

/-- The nearest double. -/
def double : JsonNumber → Double
  | natural n => Double.ofInt n.toNat
  | negative n => Double.ofInt n.toInt
  | real x => x

end JsonNumber

namespace Json

mutual

/-- What a JSON tree means, if every part has a value. -/
def data? : Json → Option JsonData
  | null => some .null
  | bool b => some (.bool b)
  | number n => if n.double.isFinite then some (.number (.ofNumeral n)) else none
  | string s => some (.string s)
  | array items => (itemsData? items).map .array
  | object members => (membersData? members).map fun fields ↦ .object (Fields.putAll [] fields)
  | unreadable => none

/-- What the items of an array mean. -/
def itemsData? : List Json → Option (List JsonData)
  | [] => some []
  | item :: rest =>
    match item.data?, itemsData? rest with
    | some value, some values => some (value :: values)
    | _, _ => none

/-- What the members of an object mean, repetitions included. -/
def membersData? : List (String × Json) → Option (List (String × JsonData))
  | [] => some []
  | (name, item) :: rest =>
    match item.data?, membersData? rest with
    | some value, some values => some ((name, value) :: values)
    | _, _ => none

end

end Json

/-- The data of a JSON text that nests few enough arrays and objects. -/
def JsonData.ofText? (source : String) : Option JsonData := do
  let tree ← Json.ofText? source
  if tree.depth ≤ Json.greatestDepth then tree.data? else none

end DocQuery
