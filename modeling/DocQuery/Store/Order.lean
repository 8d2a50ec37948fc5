import DocQuery.Store.Error

/-!
# Comparing and Sorting

Values of one kind are comparable: numbers of all widths as doubles, texts by code points, truth
values and instants.  Other values are comparable only when they are the same.  `fieldEquals` is
the equality of a field with a value, where null stands for a missing field as well.

For sorting every field has a place: missing and null fields come first, then the kinds in a fixed
order, and within a kind the comparable values in theirs.  `sortDocuments` takes the documents in
turn and inserts each, from the end of what is sorted already, behind the last one that is not
greater; so equal documents keep their order.  Any stable way of sorting does the same where no field
is NaN.  NaN is equal to all numbers in this order, and with it the result depends on the way of
sorting; this one is the way for at most twenty documents.
-/

namespace DocQuery

/-- The order of two values, where they have one. -/
def Bson.compare? (a b : Bson) : Option Ordering :=
  match a.number?, b.number? with
  | some x, some y => x.compare? y
  | _, _ =>
    match a, b with
    | .string x, .string y => some (compare x y)
    | .bool x, .bool y => some (compare x y)
    | .dateTime x, .dateTime y => some (compare x y)
    | a, b => if a.same b then some .eq else none

/-- Whether a field equals a value; null equals a missing field. -/
def fieldEquals (field : Option Bson) (expected : Bson) : Bool :=
  match field, expected with
  | none, .null => true
  | none, _ => false
  | some actual, expected => actual.compare? expected == some .eq

/-- The order of a field and a value, where they have one. -/
def fieldCompare? (field : Option Bson) (operand : Bson) : Option Ordering :=
  field.bind fun actual ↦ actual.compare? operand

/-! ## Sorting -/

/-- The place of the kind of a field in the order of kinds. -/
def kindRank : Option Bson → Nat
  | none => 0
  | some .null => 0
  | some (.int32 _) => 1
  | some (.int64 _) => 1
  | some (.double _) => 1
  | some (.string _) => 2
  | some (.document _) => 3
  | some (.array _) => 4
  | some (.bool _) => 5
  | some (.dateTime _) => 6
  | some _ => 7

/-- The order of two fields: by kind, and within a kind by value where there is an order. -/
def fieldOrder (a b : Option Bson) : Ordering :=
  if kindRank a ≠ kindRank b then compare (kindRank a) (kindRank b)
  else match a, b with
    | some x, some y => (x.compare? y).getD .eq
    | _, _ => .eq

/-- A field that documents are sorted by. -/
structure DocumentSortKey where
  field : String
  isDescending : Bool

/-- The sort key of a field and its direction, a positive or negative number. -/
def DocumentSortKey.ofField (field : String) (direction : Bson) :
    Except StoreError DocumentSortKey :=
  match direction.number?.bind fun x ↦ x.compare? .zero with
  | some .gt => .ok { field, isDescending := false }
  | some .lt => .ok { field, isDescending := true }
  | _ => .error (.filter (.sortDirection field))

/-- The sort keys of a sort document. -/
def sortKeys (spec : Document) : Except StoreError (List DocumentSortKey) :=
  spec.mapM fun field ↦ DocumentSortKey.ofField field.1 field.2

/-- The order of two documents: the first key that tells them apart decides. -/
def documentOrder (keys : List DocumentSortKey) (a b : Document) : Ordering :=
  match keys with
  | [] => .eq
  | key :: rest =>
    let order := fieldOrder (Fields.get? key.field a) (Fields.get? key.field b)
    (if key.isDescending then order.swap else order).then (documentOrder rest a b)

/-- Inserts a document at the end of a sorted list, which is given from its last document on, behind
the last one that is not greater. -/
def insertFromEnd (keys : List DocumentSortKey) (doc : Document) :
    List Document → List Document
  | [] => [doc]
  | last :: rest =>
    if documentOrder keys doc last = .lt then last :: insertFromEnd keys doc rest
    else doc :: last :: rest

/-- The documents sorted by keys. -/
def sortByKeys (keys : List DocumentSortKey) (docs : List Document) : List Document :=
  (docs.foldl (fun sorted doc ↦ insertFromEnd keys doc sorted) []).reverse

/-- The documents sorted as a sort document says. -/
def sortDocuments (docs : List Document) (spec : Document) :
    Except StoreError (List Document) :=
  (sortKeys spec).map fun keys ↦ sortByKeys keys docs

/-! ## Limits -/

/-- The first documents, as many as the magnitude of a limit says; zero is no limit. -/
def applyLimit (docs : List Document) (limit : Int) : List Document :=
  if limit = 0 then docs else docs.take limit.natAbs

end DocQuery
