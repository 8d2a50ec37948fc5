import DocQuery.Store.Basic

/-!
# The Recording Store

A store that notes every command and keeps nothing.  Reads are answered from prepared documents
and writes with zeros; if it has been told to fail, every command but the look-up fails once it is
noted.
-/

namespace DocQuery

/-- A command as it is noted. -/
inductive StoreCall where
  | lookUp (id : CollectionId)
  | fetch (r : Request)
  | findOne (filter : Document)
  | updateOne (w : Write)
  | bulkWrite (writes : List Write)
  | deleteOne (filter : Document)
  | deleteMany (filter : Document)
  | count

/-- Prepared answers and the commands noted so far. -/
structure RecordingStore where
  prepared : List Document := []
  failure : Option StoreError := none
  calls : List StoreCall := []

namespace RecordingStore

/-- Notes a command. -/
def note (call : StoreCall) (store : RecordingStore) : RecordingStore :=
  { store with calls := store.calls ++ [call] }

/-- Notes a command and answers it. -/
def answer {α : Type} (call : StoreCall) (reply : List Document → α) :
    StoreCommand RecordingStore α :=
  fun store ↦ (store.failure.elim (.ok (reply store.prepared)) .error, store.note call)

instance : DocumentStore RecordingStore where
  lookUp id := modify (note (.lookUp id))
  fetch _ r := answer (.fetch r) id
  findOne _ filter := answer (.findOne filter) List.head?
  updateOne _ w := answer (.updateOne w) fun _ ↦ {}
  bulkWrite _ writes := answer (.bulkWrite writes) fun _ ↦ {}
  deleteOne _ filter := answer (.deleteOne filter) fun _ ↦ 0
  deleteMany _ filter := answer (.deleteMany filter) fun _ ↦ 0
  count _ := answer .count List.length

end RecordingStore

end DocQuery
