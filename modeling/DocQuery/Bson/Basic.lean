import DocQuery.Bson.ObjectId
import DocQuery.Fields.Basic
import DocQuery.Number.Rounding

/-!
# Stored Values and Documents

A `Bson` is a value as a document store keeps it.  Numbers come in three widths, instants are
counted in milliseconds, and a document is a list of named fields in insertion order.

The kinds of regular expressions, binary data, timestamps, decimal numbers, code, symbols and
database pointers are left out.  A store does with them what it does with object identifiers: it
compares them by equality only, and sorts them behind all other kinds, in no order among themselves.

`Bson.same` is the equality of stored values: it keeps the widths of numbers apart, compares
doubles as numbers, and ignores the order of fields.
-/

namespace DocQuery

/-- A stored value. -/
inductive Bson where
  | null
  | bool (b : Bool)
  | int32 (n : Int32)
  | int64 (n : Int64)
  | double (x : Double)
  | string (s : String)
  /-- Milliseconds since 1970-01-01T00:00:00Z. -/
  | dateTime (millis : Int)
  | objectId (id : ObjectId)
  | minKey
  | maxKey
  | undefined
  | array (items : List Bson)
  | document (fields : List (String × Bson))

/-- A document: named fields in insertion order. -/
abbrev Document := List (String × Bson)

namespace Bson

/-- The number that a stored value is, as the nearest double. -/
def number? : Bson → Option Double
  | int32 n => some (Double.ofInt n.toInt)
  | int64 n => some (Double.ofInt n.toInt)
  | double x => some x
  | _ => none

mutual

/-- Equality of stored values. -/
def same : Bson → Bson → Bool
  | null, null => true
  | bool a, bool b => a == b
  | int32 a, int32 b => a == b
  | int64 a, int64 b => a == b
  | double a, double b => a.same b
  | string a, string b => a == b
  | dateTime a, dateTime b => a == b
  | objectId a, objectId b => a == b
  | minKey, minKey => true
  | maxKey, maxKey => true
  | undefined, undefined => true
  | array a, array b => sameItems a b
  | document a, document b => a.length == b.length && sameFields a b
  | _, _ => false

/-- Equality of lists of stored values, item by item. -/
def sameItems : List Bson → List Bson → Bool
  | [], [] => true
  | a :: as, b :: bs => a.same b && sameItems as bs
  | _, _ => false

/-- Whether the document has every one of the fields, with the same value. -/
def sameFields : List (String × Bson) → Document → Bool
  | [], _ => true
  | (name, a) :: rest, other =>
    (match Fields.get? name other with
      | some b => a.same b
      | none => false) && sameFields rest other

end

end Bson

/-- Equality of documents: the same fields in any order. -/
def Document.same (a b : Document) : Bool := (Bson.document a).same (.document b)

end DocQuery
