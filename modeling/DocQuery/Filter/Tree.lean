import DocQuery.Bson.Basic

/-!
# Match Trees

A match tree says which documents are selected: all of them, those that satisfy every or some
child, or those of which one field satisfies a condition.  `MatchTree.toDocument` renders a tree
as the match document that a store understands.
-/

namespace DocQuery

/-- A comparison operator of a store. -/
inductive Comparator where
  | eq
  | ne
  | gt
  | gte
  | lt
  | lte
deriving DecidableEq, Repr

/-- The name of a comparison operator in a match document. -/
def Comparator.name : Comparator → String
  | eq => "$eq"
  | ne => "$ne"
  | gt => "$gt"
  | gte => "$gte"
  | lt => "$lt"
  | lte => "$lte"

/-- A search for a regular expression. -/
structure Pattern where
  regex : String
  ignoreCase : Bool
deriving DecidableEq, Repr

/-- The match document of a pattern. -/
def Pattern.toDocument (p : Pattern) : Document :=
  ("$regex", .string p.regex) :: if p.ignoreCase then [("$options", .string "i")] else []

/-- What a field has to satisfy. -/
inductive Condition where
  /-- The field is missing or null. -/
  | null
  /-- The field equals a value. -/
  | equals (value : Bson)
  /-- The field stands in an order relation to a value. -/
  | compare (op : Comparator) (value : Bson)
  /-- The field is a text in which the pattern is found. -/
  | contains (p : Pattern)
  /-- The field is no text in which the pattern is found. -/
  | lacks (p : Pattern)

/-- The value that a match document holds for a condition. -/
def Condition.toBson : Condition → Bson
  | null => .null
  | equals value => value
  | compare op value => .document [(op.name, value)]
  | contains p => .document p.toDocument
  | lacks p => .document [("$not", .document p.toDocument)]

/-- A choice of documents. -/
inductive MatchTree where
  | all
  | and (children : List MatchTree)
  | or (children : List MatchTree)
  | clause (field : String) (condition : Condition)

namespace MatchTree

/-- Whether a tree is the choice of all documents. -/
def isAll : MatchTree → Bool
  | all => true
  | _ => false

mutual

/-- The match document of a tree. -/
def toDocument : MatchTree → Document
  | all => []
  | and children => [("$and", .array (toDocuments children))]
  | or children => [("$or", .array (toDocuments children))]
  | clause field condition => [(field, condition.toBson)]

/-- The match documents of several trees, as stored values. -/
def toDocuments : List MatchTree → List Bson
  | [] => []
  | tree :: rest => .document tree.toDocument :: toDocuments rest

end

/-- The aggregation that a tree stands for: one stage that matches. -/
def toPipeline (tree : MatchTree) : List Document :=
  [[("$match", .document tree.toDocument)]]

end MatchTree

end DocQuery
