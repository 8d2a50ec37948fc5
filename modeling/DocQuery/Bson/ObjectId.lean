import DocQuery.Text.Digits

/-!
# Object Identifiers

An object identifier is twelve bytes, read as one number.  Its text has twenty-four hexadecimal
digits: letters of either case are read, and small letters are written.
-/

namespace DocQuery

/-- An object identifier. -/
structure ObjectId where
  /-- The twelve bytes, the first one the most significant. -/
  number : Nat
  /-- The number fits twelve bytes. -/
  number_lt : number < 0x1000000000000000000000000
deriving DecidableEq

namespace ObjectId

/-- The object identifier of a text of twenty-four hexadecimal digits. -/
def ofText? (text : String) : Option ObjectId :=
  let digits := text.toList
  if digits.length = 24 then
    match Text.hexDigitsValue? digits with
    | some number => if h : number < 0x1000000000000000000000000 then some ⟨number, h⟩ else none
    | none => none
  else none

/-- The text of an object identifier. -/
def text (id : ObjectId) : String :=
  let digits := Nat.toDigits 16 id.number
  String.ofList (List.replicate (24 - digits.length) '0' ++ digits)

end ObjectId

end DocQuery
