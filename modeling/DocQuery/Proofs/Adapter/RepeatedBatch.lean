import DocQuery.Proofs.Adapter.Batch
import DocQuery.Proofs.Adapter.SavedRecords

/-!
# Batches Stored Again

A batch may be stored again, for instance because its answer was lost.  The second time gives the same
answer and leaves the store as it is: every collection, with its documents, their fields and all orders.
The store may hold anything before.  Nothing is assumed of the batch but that its keys are of the kinds
that have an identity: keys may occur in it more than once, also in different numeric types and with
different fields, and a batch that is refused is refused again.

While the batch runs for the second time, the documents need not stay as they are.  Where two of its
records have one key, the first of them takes back what the second has written over it.
-/

namespace DocQuery

/-- To store a batch again gives the same answer and changes nothing. -/
theorem bulkInsert_twice (a : Adapter) (m : Model) (instances : List Instance)
    (hinstances : ∀ i ∈ instances, i.IsKeyed) (store : MemoryStore) :
    let once := (a.bulkInsert m instances).run.run store
    (a.bulkInsert m instances).run.run once.2 = once := by
  intro once
  -- it is enough to know the first answer, and the second from the store that the first leaves
  suffices h : ∃ answer after, Answers (a.bulkInsert m instances) store answer after ∧
      Answers (a.bulkInsert m instances) after answer after by
    obtain ⟨answer, after, hfirst, hsecond⟩ := h
    have honce : once = (answer, after) := hfirst
    rw [honce]
    exact hsecond
  obtain ⟨answer, hsame⟩ | ⟨records, hrecords, hanswers⟩ :=
    answers_bulkInsert_cases a (m := m) hinstances
  · exact ⟨answer, store, hsame store, hsame store⟩
  · let id := a.collection m
    let docs := saveAllUnder (store.docs id) records
    let after := (store.create id).setDocs id docs
    have hagain : saveAllUnder docs records = docs :=
      (hasSaved_saveAllUnder (store.docs id) hrecords).saveAllUnder_eq hrecords
    have hafter : (after.create id).setDocs id (saveAllUnder (after.docs id) records) = after := by
      rw [MemoryStore.docs_setDocs_self, hagain, MemoryStore.create_setDocs,
        MemoryStore.setDocs_setDocs]
    have hsecond := hanswers after
    rw [hafter] at hsecond
    exact ⟨.ok (), after, hanswers store, hsecond⟩

/-- The first and the last record of the batch write over each other. -/
theorem bulkInsert_twice_overlappingBatch :
    let a : Adapter := {}
    let store := savedTasks [[("id", .string "y")], [("id", .int64 1), ("name", .string "b")]]
    (∀ i ∈ overlappingBatch, i.IsKeyed) ∧
      ∃ after, Answers (a.bulkInsert task overlappingBatch) store (.ok ()) after ∧
        Answers (a.bulkInsert task overlappingBatch) after (.ok ()) after := by
  intro a store
  have hkeyed := isKeyed_overlappingBatch
  have hkeys : ∀ i ∈ overlappingBatch, i.key ≠ .null := by
    simp [overlappingBatch, Instance.key, task, Fields.get?]
  have hpersistable := mapM_persistable_eq hkeys
  have hfirst := answers_bulkInsert_of_isSavable a (m := task) rfl (by simp [overlappingBatch])
    hpersistable (isSavable_of_mapM hkeyed task hpersistable) store
  have htwice := bulkInsert_twice a task overlappingBatch hkeyed store
  rw [hfirst] at htwice
  exact ⟨hkeyed, _, hfirst, htwice⟩

end DocQuery
