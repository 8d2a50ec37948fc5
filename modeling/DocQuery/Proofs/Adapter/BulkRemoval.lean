import DocQuery.Proofs.Adapter.UniqueIdentity

/-!
# Removing Several Records

To remove the records with several identities at once is to remove them one by one, in any order.  Both
leave the documents that are kept under none of the values, in the order in which they stood.  Values
may occur more than once, in several numeric types, or be the identity of no record.

The two ask in different ways: one command removes all documents that a list of values selects, the others
remove the first document that a single value selects.  They agree because no identity occurs twice, so
that the first document under a value is the only one.
-/

namespace DocQuery

/-- The documents that are kept under none of several values. -/
def keptUnderNone (ids : List Bson) (docs : List Document) : List Document :=
  docs.filter fun doc ↦ !ids.any fun id ↦ doc.isUnder id

theorem keptUnderNone_cons (id : Bson) (rest : List Bson) (docs : List Document) :
    keptUnderNone (id :: rest) docs =
      keptUnderNone rest (docs.filter fun doc ↦ !doc.isUnder id) := by
  unfold keptUnderNone
  rw [List.filter_filter]
  refine List.filter_congr fun doc _ ↦ ?_
  rw [List.any_cons, Bool.not_or, Bool.and_comm]

/-- The first document that is kept under a key is the only one. -/
theorem DistinctIdentities.eraseP_isUnder {docs : List Document} (h : DistinctIdentities docs)
    {key : Bson} (hkey : key.IsKey) :
    docs.eraseP (Document.isUnder key) = docs.filter fun doc ↦ !doc.isUnder key := by
  obtain ⟨k, hk⟩ := hkey.exists_identity
  induction docs with
  | nil => rfl
  | cons doc rest ih =>
    obtain ⟨hdoc, hrest⟩ := List.pairwise_cons.1 h
    by_cases hunder : doc.isUnder key = true
    · have hidentity : doc.identity? = some k := by
        rw [Document.isUnder_eq hk] at hunder
        exact of_decide_eq_true hunder
      have hothers : ∀ other ∈ rest, (!other.isUnder key) = true := by
        intro other hother
        rw [Document.isUnder_eq hk, Bool.not_eq_true', decide_eq_false_iff_not]
        intro hsame
        have hnone := hdoc _ (List.mem_map_of_mem hother) (hidentity.trans hsame.symm)
        rw [hidentity] at hnone
        cases hnone
      rw [List.eraseP_cons_of_pos hunder, List.filter_cons_of_neg (by simp [hunder]),
        List.filter_eq_self.2 hothers]
    · rw [List.eraseP_cons_of_neg hunder, List.filter_cons_of_pos (by simp [hunder]), ih hrest]

section
variable (a : Adapter) (m : Model) {store : MemoryStore}

/-- The values of a list are asked for at once. -/
theorem answers_bulkDelete {ids : List Bson} (hids : ∀ id ∈ ids, id.IsKey) (store : MemoryStore) :
    Answers (a.bulkDelete m ids) store (.ok ())
      ((store.create (a.collection m)).setDocs (a.collection m)
        (keptUnderNone ids (store.docs (a.collection m)))) := by
  have htest : ∀ doc ∈ store.docs (a.collection m),
      Document.matches doc [(identityField, .document [("$in", .array ids)])] =
        .ok (ids.any fun id ↦ doc.isUnder id) :=
    fun doc _ ↦ matches_any_isUnder (fun id hid ↦ (hids id hid).ne_null) doc
  obtain ⟨count, hdelete⟩ := deleteMany_eq_filter htest
  unfold Adapter.bulkDelete
  exact (Answers.lookUp a m).bind ((Answers.write_create hdelete).bind (.pure ()))

/-- One removal leaves what is not kept under its value. -/
theorem perform_delete (h : DistinctIdentities (store.docs (a.collection m))) {id : Bson}
    (hid : id.IsKey) :
    (Operation.delete m id).perform a store =
      (.ok .done, (store.create (a.collection m)).setDocs (a.collection m)
        ((store.docs (a.collection m)).filter fun doc ↦ !doc.isUnder id)) := by
  obtain ⟨count, hdelete⟩ := deleteOne_eq_eraseP
    (matches_eq_isUnder_of_isKey hid (store.docs (a.collection m)))
  rw [h.eraseP_isUnder hid] at hdelete
  exact (answers_delete a m hdelete).bind (.pure _)

/-- Several removals, one by one, leave what is kept under none of their values. -/
theorem runAll_delete (h : DistinctIdentities (store.docs (a.collection m))) {ids : List Bson}
    (hids : ∀ id ∈ ids, id.IsKey) :
    let deleted := runAll (Operation.perform a) (ids.map (.delete m)) store
    deleted.1 = ids.map (fun _ ↦ .ok .done) ∧
      ∀ other, deleted.2.docs other =
        if a.collection m = other then keptUnderNone ids (store.docs other)
        else store.docs other := by
  induction ids generalizing store with
  | nil =>
    refine ⟨rfl, fun other ↦ ?_⟩
    have hall : keptUnderNone [] (store.docs other) = store.docs other :=
      List.filter_eq_self.2 fun _ _ ↦ rfl
    rw [hall, ite_self]
    rfl
  | cons id rest ih =>
    obtain ⟨hid, hrest⟩ := List.forall_mem_cons.1 hids
    let left := (store.docs (a.collection m)).filter fun doc ↦ !doc.isUnder id
    let next := (store.create (a.collection m)).setDocs (a.collection m) left
    have hnext : DistinctIdentities (next.docs (a.collection m)) := by
      rw [MemoryStore.docs_setDocs_self]
      exact h.sublist List.filter_sublist
    obtain ⟨hanswers, hdocs⟩ := ih hnext hrest
    intro deleted
    have hdeleted : deleted =
        (.ok .done :: (runAll (Operation.perform a) (rest.map (.delete m)) next).1,
          (runAll (Operation.perform a) (rest.map (.delete m)) next).2) := by
      simp only [deleted, List.map_cons, runAll, perform_delete a m h hid]
      rfl
    rw [hdeleted]
    refine ⟨by rw [hanswers, List.map_cons], fun other ↦ ?_⟩
    rw [hdocs, MemoryStore.docs_setDocs, MemoryStore.docs_create]
    by_cases hother : a.collection m = other
    · subst hother
      rw [if_pos rfl, if_pos rfl, if_pos rfl, keptUnderNone_cons]
    · rw [if_neg hother, if_neg hother, if_neg hother]

end

/-- In a store that is reachable by records that hold each name once, to remove the records with several
identities at once leaves the same documents as to remove them one by one, in any order: those that are
kept under none of the values, in their order. -/
theorem bulkDelete_eq_deletes {store : MemoryStore} (hstore : ReachableBy Fields.Distinct store)
    (a : Adapter) (m : Model) {ids order : List Bson} (hids : ∀ id ∈ ids, id.IsKey)
    (horder : order.Perm ids) :
    let deleted := runAll (Operation.perform a) (order.map (.delete m)) store
    deleted.1 = order.map (fun _ ↦ .ok .done) ∧
      ∃ after, Answers (a.bulkDelete m ids) store (.ok ()) after ∧
        (∀ id, after.docs id = deleted.2.docs id) ∧
        after.docs (a.collection m) = keptUnderNone ids (store.docs (a.collection m)) := by
  intro deleted
  have horderKeys : ∀ id ∈ order, id.IsKey := fun id hid ↦ hids id (horder.mem_iff.1 hid)
  obtain ⟨hanswers, hdocs⟩ :=
    runAll_delete a m (hstore.distinctIdentities (a.collection m)) horderKeys
  have hsame (docs : List Document) : keptUnderNone order docs = keptUnderNone ids docs := by
    unfold keptUnderNone
    exact List.filter_congr fun doc _ ↦ by rw [horder.any_eq]
  refine ⟨hanswers, _, answers_bulkDelete a m hids store, fun other ↦ ?_,
    MemoryStore.docs_setDocs_self ..⟩
  rw [hdocs, hsame, MemoryStore.docs_setDocs, MemoryStore.docs_create]
  by_cases hother : a.collection m = other
  · rw [if_pos hother, if_pos hother, hother]
  · rw [if_neg hother, if_neg hother]

/-- Of three tasks two are removed, one of them under a value that is given twice; no task is kept under
another of the values. -/
theorem bulkDelete_eq_deletes_tasks :
    let a : Adapter := {}
    let store := savedTasks
      [[("id", .string "x")], [("id", .bool true)], [("id", .string "z"), ("name", .null)]]
    let ids : List Bson := [.string "x", .string "y", .bool true, .string "x"]
    ReachableBy Fields.Distinct store ∧ (∀ id ∈ ids, id.IsKey) ∧
      ∃ after, Answers (a.bulkDelete task ids) store (.ok ()) after ∧
        (∀ id, after.docs id =
          (runAll (Operation.perform a) (ids.reverse.map (.delete task)) store).2.docs id) ∧
        after.docs (a.collection task) =
          [[("_id", .string "z"), ("id", .string "z"), ("name", .null)]] := by
  intro a store ids
  have hstore : ReachableBy Fields.Distinct store := reachableBy_savedTasks (by decide)
  have hids : ∀ id ∈ ids, id.IsKey := by simp [ids, Bson.IsKey]
  obtain ⟨-, after, hanswers, hdocs, hleft⟩ :=
    bulkDelete_eq_deletes hstore a task hids (List.reverse_perm ids)
  exact ⟨hstore, hids, after, hanswers, hdocs, hleft⟩

end DocQuery
