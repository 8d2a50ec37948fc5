import DocQuery.Store.Basic

/-!
# The Memory Store

A store that holds its collections in memory.  A collection exists from the first time it is looked
up, without documents at first.
-/

namespace DocQuery

/-- Collections by their names. -/
structure MemoryStore where
  collections : List (CollectionId × List Document) := []

namespace MemoryStore

/-- The documents of a collection. -/
def docs (store : MemoryStore) (id : CollectionId) : List Document :=
  (Fields.get? id store.collections).getD []

/-- Sets the documents of a collection, which comes into being if it did not exist. -/
def setDocs (store : MemoryStore) (id : CollectionId) (docs : List Document) : MemoryStore where
  collections := Fields.put id docs store.collections

/-- Makes sure that a collection exists. -/
def create (store : MemoryStore) (id : CollectionId) : MemoryStore :=
  if (Fields.get? id store.collections).isSome then store else store.setDocs id []

/-- The names of the collections of a database, sorted. -/
def collectionNames (store : MemoryStore) (database : String) : List String :=
  let names := store.collections.filterMap fun entry ↦
    if entry.1.database = database then some entry.1.name else none
  names.mergeSort fun a b ↦ !decide (b < a)

/-- A command that reads a collection. -/
def read {α : Type} (id : CollectionId) (query : List Document → Except StoreError α) :
    StoreCommand MemoryStore α :=
  fun store ↦ (query (store.docs id), store)

/-- A command that writes to a collection. -/
def write {α : Type} (id : CollectionId) (change : List Document → Collection.Written α) :
    StoreCommand MemoryStore α :=
  fun store ↦
    let (result, docs) := change (store.docs id)
    (result, store.setDocs id docs)

instance : DocumentStore MemoryStore where
  lookUp id := modify (·.create id)
  fetch id r := read id fun docs ↦ Collection.fetch docs r
  findOne id filter := read id fun docs ↦ Collection.findOne docs filter
  updateOne id w := write id fun docs ↦ Collection.updateOne docs w
  bulkWrite id writes := write id fun docs ↦ Collection.bulkWrite docs writes
  deleteOne id filter := write id fun docs ↦ Collection.deleteOne docs filter
  deleteMany id filter := write id fun docs ↦ Collection.deleteMany docs filter
  count id := read id fun docs ↦ .ok docs.length

end MemoryStore

end DocQuery
