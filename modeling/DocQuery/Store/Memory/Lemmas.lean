import DocQuery.Fields.Lemmas
import DocQuery.Store.Memory

/-!
# Laws of the Memory Store

The view of a memory store is `MemoryStore.docs`, the documents of each collection.  Creating a
collection does not change it, and setting the documents of one collection changes it there alone.
-/

namespace DocQuery.MemoryStore

/-- Setting the documents of a collection leaves those of the others alone. -/
theorem docs_setDocs (store : MemoryStore) (id other : CollectionId) (docs : List Document) :
    (store.setDocs id docs).docs other = if id = other then docs else store.docs other := by
  unfold MemoryStore.docs setDocs
  rw [Fields.get?_put]
  split <;> rfl

@[simp]
theorem docs_setDocs_self (store : MemoryStore) (id : CollectionId) (docs : List Document) :
    (store.setDocs id docs).docs id = docs := by
  rw [docs_setDocs, if_pos rfl]

/-- Of two settings of one collection the later counts. -/
@[simp]
theorem setDocs_setDocs (store : MemoryStore) (id : CollectionId) (docs later : List Document) :
    (store.setDocs id docs).setDocs id later = store.setDocs id later := by
  unfold setDocs
  rw [Fields.put_put]

/-- A collection whose documents have been set exists. -/
@[simp]
theorem create_setDocs (store : MemoryStore) (id : CollectionId) (docs : List Document) :
    (store.setDocs id docs).create id = store.setDocs id docs := by
  have hexists : (Fields.get? id (store.setDocs id docs).collections).isSome = true := by
    simp [setDocs]
  unfold create
  rw [if_pos hexists]

/-- Creating a collection changes no documents. -/
@[simp]
theorem docs_create (store : MemoryStore) (id other : CollectionId) :
    (store.create id).docs other = store.docs other := by
  unfold create
  split
  · rfl
  · rename_i h
    rw [docs_setDocs]
    split
    · rename_i ho
      subst ho
      simp [MemoryStore.docs, Option.not_isSome_iff_eq_none.1 h]
    · rfl

end DocQuery.MemoryStore
