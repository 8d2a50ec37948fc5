import DocQuery.Bson.OfValue
import DocQuery.Model.Basic
import DocQuery.Time.Reading

/-!
# Records for Storing

Before a record is stored, the texts in fields that are declared as instants become instants.  Empty
texts and texts that name no instant stay as they are.
-/

namespace DocQuery

/-- The stored form of a field that is declared as an instant. -/
def coerceInstant : Bson → Bson
  | .string s =>
    if s.isEmpty then .string s
    else match Instant.ofText? s with
      | some t => t.toBson
      | none => .string s
  | value => value

/-- The record with the field of one declared property in its stored form. -/
def coerceProperty (record : Document) (property : String × PropertyType) : Document :=
  match property.2, Fields.get? property.1 record with
  | .datetime, some value => Fields.put property.1 (coerceInstant value) record
  | _, _ => record

/-- The record with every field in its stored form. -/
def Model.coerce (m : Model) (record : Document) : Document :=
  m.properties.foldl coerceProperty record

end DocQuery
