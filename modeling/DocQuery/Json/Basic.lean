import DocQuery.Json.Numeral

/-!
# JSON Texts

A `Json` is a JSON text read for its notation alone: numerals are kept as written and the members of
an object keep their order and their repetitions.  What a text means is decided where it is used.  A
string whose escapes leave half of a surrogate pair alone denotes nothing; it and an object with
such a key are `unreadable`, which is harmless in places whose content nobody asks for.

`Json.isSound` says that every part has a value, and `Json.depth` counts nested arrays and objects.
-/

namespace DocQuery

/-- A JSON text, read for its notation. -/
inductive Json where
  | null
  | bool (b : Bool)
  | number (n : Numeral)
  | string (s : String)
  | array (items : List Json)
  | object (members : List (String × Json))
  /-- A string that denotes nothing, or an object with such a key. -/
  | unreadable

namespace Json

/-- The greatest number of arrays and objects that may be nested. -/
def greatestDepth : Nat := 127

mutual

/-- The number of arrays and objects nested in each other. -/
def depth : Json → Nat
  | array items => itemsDepth items + 1
  | object members => membersDepth members + 1
  | _ => 0

/-- The greatest depth of a list. -/
def itemsDepth : List Json → Nat
  | [] => 0
  | item :: rest => max item.depth (itemsDepth rest)

/-- The greatest depth of a list of members. -/
def membersDepth : List (String × Json) → Nat
  | [] => 0
  | (_, item) :: rest => max item.depth (membersDepth rest)

end

mutual

/-- Whether every string is readable and every number has a finite value. -/
def isSound : Json → Bool
  | number n => n.double.isFinite
  | array items => itemsSound items
  | object members => membersSound members
  | unreadable => false
  | _ => true

/-- Whether every item is sound. -/
def itemsSound : List Json → Bool
  | [] => true
  | item :: rest => item.isSound && itemsSound rest

/-- Whether the value of every member is sound. -/
def membersSound : List (String × Json) → Bool
  | [] => true
  | (_, item) :: rest => item.isSound && membersSound rest

end

end Json

end DocQuery
