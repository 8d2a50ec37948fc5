import DocQuery.Store.Collection

/-!
# Document Stores

A document store keeps collections under the name of a database and a name of their own.  The
class `DocumentStore` lists what can be asked of one.  A command changes the state of the store
also when it fails, so it is a computation with a state outside of its errors.
-/

namespace DocQuery

/-- The name of a collection and of the database it is in. -/
structure CollectionId where
  database : String
  name : String
deriving DecidableEq

/-- A command to a store with states `σ`. -/
abbrev StoreCommand (σ α : Type) := ExceptT StoreError (StateM σ) α

/-- The commands of a document store with states `σ`. -/
class DocumentStore (σ : Type) where
  /-- Looks a collection up, before anything else is asked of it. -/
  lookUp : CollectionId → StateM σ Unit
  /-- Reads documents. -/
  fetch : CollectionId → Request → StoreCommand σ (List Document)
  /-- Reads the first document that matches. -/
  findOne : CollectionId → Document → StoreCommand σ (Option Document)
  /-- Updates the first document that matches. -/
  updateOne : CollectionId → Write → StoreCommand σ UpdateCounts
  /-- Performs updates in turn. -/
  bulkWrite : CollectionId → List Write → StoreCommand σ BulkCounts
  /-- Removes the first document that matches. -/
  deleteOne : CollectionId → Document → StoreCommand σ Nat
  /-- Removes every document that matches. -/
  deleteMany : CollectionId → Document → StoreCommand σ Nat
  /-- Counts the documents. -/
  count : CollectionId → StoreCommand σ Nat

end DocQuery
