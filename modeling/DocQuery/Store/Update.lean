import DocQuery.Store.Matching

/-!
# Updates

An update document sets fields.  Its operators are applied in turn; an operator that is refused
leaves behind what the ones before it have set, which is why the result comes with an optional
error.
-/

namespace DocQuery

/-- A document after an update, with the error that ended the update early. -/
structure UpdateOutcome where
  doc : Document
  error : Option StoreError

/-- Applies an update to a document. -/
def applyUpdate (doc : Document) : Document → UpdateOutcome
  | [] => { doc, error := none }
  | (name, body) :: rest =>
    match name, body with
    | "$set", .document fields => applyUpdate (Fields.putAll doc fields) rest
    | _, _ => { doc, error := some (.update name) }

/-- The document that an update starts from when nothing matched: the fields that the match document
compares with a value. -/
def upsertSeed (filter : Document) : Document :=
  Fields.putAll [] <|
    filter.filter fun field ↦ !isOperatorName field.1 && !isOperatorDocument field.2

end DocQuery
