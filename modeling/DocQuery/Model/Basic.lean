import DocQuery.Bson.Basic

/-!
# Models

A model names a kind of record, the field that identifies a record, and the declared types of
fields. An instance is a record that belongs to a model.
-/

namespace DocQuery

/-- The declared type of a field. -/
inductive PropertyType where
  | text
  | integer
  | number
  | boolean
  | date
  | datetime
  | object
  | array
  | uuid
  | modelReference
deriving DecidableEq, Repr

/-- A kind of record. -/
structure Model where
  name : String
  /-- The field that identifies a record. -/
  primaryKey : String := "id"
  /-- The declared types, sorted by field. -/
  properties : List (String × PropertyType) := []

/-- Declares the type of a field. -/
def Model.withProperty (m : Model) (field : String) (type : PropertyType) : Model :=
  { m with properties := Fields.putSorted field type m.properties }

/-- A record of a model. -/
structure Instance where
  model : Model
  record : Document

/-- The record of an instance, if there is anything to store. -/
def Instance.record? (i : Instance) : Option Document :=
  if i.record.isEmpty then none else some i.record

end DocQuery
