import DocQuery.Filter.Error
import DocQuery.Store.Error

/-!
# Adapter Errors

What may go wrong between a model and a store.
-/

namespace DocQuery

/-- An error of an adapter. -/
inductive AdapterError where
  /-- The query cannot be compiled. -/
  | compile (e : CompileError)
  /-- The query is invalid by itself. -/
  | query (e : QueryError)
  /-- Records of different models are to be stored together. -/
  | mixedModels (expected found : String)
  /-- An instance has no record, or its record has no identity. -/
  | emptyRecord (model : String)
  /-- The store has failed. -/
  | store (e : StoreError)

namespace AdapterError

/-- The message of an error. -/
def message : AdapterError → String
  | compile e => "compile error: " ++ e.text
  | query e => "query error: " ++ e.message
  | mixedModels expected found =>
    "Cannot have more than one model type: expected '" ++ expected ++ "', found '" ++ found ++ "'"
  | emptyRecord model => "instance of '" ++ model ++ "' produced an empty record"
  | store e => "store error: " ++ e.message

/-- Whether an error comes from the store. -/
def isStore : AdapterError → Bool
  | store _ => true
  | _ => false

end AdapterError

end DocQuery
