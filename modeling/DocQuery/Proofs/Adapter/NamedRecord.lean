import DocQuery.Proofs.Adapter.Reachable

/-!
# Commands That Name One Record

An adapter that is asked for the record with an identity, to remove it or to save a record puts the
identity into a filter as it stands.  As long as the identity is no document of operators, the command
concerns at most one document, the first that is kept under the identity: it hands out this one, removes
this one or writes to this one, and all the others stay where they are.

For a document of operators this is not so.  It is read as a condition on the field `_id`, and the first
document that satisfies it is handed out, removed or written to.
-/

namespace DocQuery

/-! ## What can be saved -/

namespace Instance

variable {i : Instance}

theorem persistable_of_ne_null {key : Bson} (h : Fields.get? i.model.primaryKey i.record = some key)
    (hnull : key ≠ .null) : i.persistable = .ok (key, i.record) := by
  have hrecord : i.record.isEmpty = false := by
    cases hempty : i.record with
    | nil =>
      rw [hempty] at h
      cases h
    | cons field rest => rfl
  unfold persistable record?
  rw [hrecord]
  simp only [Bool.false_eq_true, if_false, h]

theorem persistable_of_null (h : Fields.get? i.model.primaryKey i.record = some .null) :
    i.persistable = .error (.emptyRecord i.model.name) := by
  unfold persistable record?
  cases i.record.isEmpty with
  | true => rfl
  | false => simp only [Bool.false_eq_true, if_false, h]

end Instance

/-! ## What the commands do -/

namespace Answers

variable {α : Type} {store : MemoryStore} {id : CollectionId} {value : α}

/-- What is read from a collection that has just been looked up was there before. -/
theorem read_create {query : List Document → Except StoreError α}
    (h : query (store.docs id) = .ok value) :
    Answers (Adapter.ask (MemoryStore.read id query)) (store.create id) (.ok value)
      (store.create id) :=
  .read (by rwa [MemoryStore.docs_create])

theorem write_create {change : List Document → Collection.Written α} {docs : List Document}
    (h : change (store.docs id) = (.ok value, docs)) :
    Answers (Adapter.ask (MemoryStore.write id change)) (store.create id) (.ok value)
      ((store.create id).setDocs id docs) :=
  .write (by rwa [MemoryStore.docs_create])

/-- A command has one answer and leaves one store behind. -/
theorem unique {command : AdapterCommand MemoryStore α} {answer answer' : Except AdapterError α}
    {after after' : MemoryStore} (h : Answers command store answer after)
    (h' : Answers command store answer' after') : answer = answer' ∧ after = after' :=
  Prod.mk.inj (h.symm.trans h')

end Answers

section
variable {store : MemoryStore} {id : Bson}

theorem answers_retrieve (a : Adapter) (m : Model) {found : Option Document}
    (h : Collection.findOne (store.docs (a.collection m)) [(identityField, id)] = .ok found) :
    Answers (a.retrieve m id) store (.ok (found.map withoutIdentity))
      (store.create (a.collection m)) := by
  unfold Adapter.retrieve
  exact (Answers.lookUp a m).bind ((Answers.read_create h).bind (.pure _))

theorem answers_delete (a : Adapter) (m : Model) {count : Nat} {left : List Document}
    (h : Collection.deleteOne (store.docs (a.collection m)) [(identityField, id)] =
      (.ok count, left)) :
    Answers (a.delete m id) store (.ok ())
      ((store.create (a.collection m)).setDocs (a.collection m) left) := by
  unfold Adapter.delete
  exact (Answers.lookUp a m).bind ((Answers.write_create h).bind (.pure ()))

/-- A record is saved at the place of the first document that the filter for its key selects. -/
theorem answers_save (a : Adapter) {i : Instance} {place : Option Nat}
    (hget : Fields.get? i.model.primaryKey i.record = some id) (hnull : id ≠ .null)
    (h : firstMatch? [(identityField, id)] (store.docs (a.collection i.model)) = .ok place) :
    Answers (a.save i) store (.ok (i.model.coerce i.record))
      ((store.create (a.collection i.model)).setDocs (a.collection i.model)
        (savedAt (store.docs (a.collection i.model)) id (i.model.coerce i.record) place)) := by
  obtain ⟨counts, hwrite⟩ := updateOne_saveWrite h (i.model.coerce i.record)
  unfold Adapter.save
  rw [Instance.persistable_of_ne_null hget hnull]
  exact (Answers.settle _).bind
    ((Answers.lookUp a i.model).bind ((Answers.write_create hwrite).bind (.pure _)))

/-- In a list of documents that all have the field `_id`, the filter for a value that is no document of
operators is the test for the documents kept under it.  Other documents may be in the list if the value
is not null. -/
theorem matches_eq_isUnder (hid : isOperatorDocument id = false) {docs : List Document}
    (hdocs : id ≠ .null ∨ AllIdentified docs) :
    ∀ doc ∈ docs, Document.matches doc [(identityField, id)] = .ok (doc.isUnder id) :=
  fun doc hdoc ↦ matches_isUnder hid (hdocs.imp_right fun h ↦ h doc hdoc)

end

/-! ## Documents that stay -/

/-- A document at which a save does not aim stays where it is. -/
theorem getElem?_savedAt_of_not {docs : List Document} {n : Nat} {doc : Document}
    {test : Document → Bool} (hdoc : docs[n]? = some doc) (htest : test doc = false) (key : Bson)
    (record : Document) :
    (savedAt docs key record (docs.findIdx? test))[n]? = some doc := by
  have hplace : (docs.findIdx? test).getD docs.length ≠ n := by
    rintro rfl
    cases hfound : docs.findIdx? test with
    | none => simp [hfound] at hdoc
    | some index =>
      obtain ⟨hindex, hat, -⟩ := List.findIdx?_eq_some_iff_getElem.1 hfound
      rw [hfound, Option.getD_some, List.getElem?_eq_getElem hindex] at hdoc
      rw [Option.some.inj hdoc, htest] at hat
      cases hat
  rw [getElem?_savedAt (fun _ h ↦ (List.findIdx?_eq_some_iff_findIdx_eq.1 h).1), if_neg hplace, hdoc]

/-- Whether all documents of a store are still there, each at its place, but perhaps those that one
collection keeps under a value. -/
def KeepsOthers (store after : MemoryStore) (id : CollectionId) (key : Bson) : Prop :=
  ∀ (other : CollectionId) (n : Nat) (doc : Document), (store.docs other)[n]? = some doc →
    (other = id → doc.isUnder key = false) → (after.docs other)[n]? = some doc

theorem answers_save_keepsOthers {store : MemoryStore} {key : Bson}
    (hkey : isOperatorDocument key = false) (a : Adapter) {i : Instance}
    (hget : Fields.get? i.model.primaryKey i.record = some key) :
    ∃ answer after, Answers (a.save i) store answer after ∧
      KeepsOthers store after (a.collection i.model) key := by
  by_cases hnull : key = .null
  · subst hnull
    refine ⟨.error (.emptyRecord i.model.name), store, ?_, fun _ _ _ hdoc _ ↦ hdoc⟩
    unfold Adapter.save
    rw [Instance.persistable_of_null hget]
    exact (Answers.settle _).bind_error
  · let docs := store.docs (a.collection i.model)
    have hplace : firstMatch? [(identityField, key)] docs =
        .ok (docs.findIdx? (Document.isUnder key)) :=
      firstMatch?_eq_findIdx? (matches_eq_isUnder hkey (.inl hnull))
    refine ⟨_, _, answers_save a hget hnull hplace, fun other n doc hdoc hother ↦ ?_⟩
    rw [MemoryStore.docs_setDocs]
    by_cases hsame : a.collection i.model = other
    · subst hsame
      rw [if_pos rfl]
      exact getElem?_savedAt_of_not hdoc (hother rfl) key _
    · rwa [if_neg hsame, MemoryStore.docs_create]

/-! ## One record -/

/-- In a reachable store, a command that names a record by a value that is no document of operators
hands out, removes or writes to the first document kept under the value, and nothing else. -/
theorem Reachable.concerns_named {store : MemoryStore} (h : Reachable store) (a : Adapter) {id : Bson}
    (hid : isOperatorDocument id = false) :
    (∀ m, ∃ after,
      Answers (a.retrieve m id) store
          (.ok (((store.docs (a.collection m)).find? (Document.isUnder id)).map withoutIdentity))
          after ∧
        ∀ other, after.docs other = store.docs other) ∧
    (∀ m, ∃ after,
      Answers (a.delete m id) store (.ok ()) after ∧
        ∀ other, after.docs other =
          if a.collection m = other then (store.docs other).eraseP (Document.isUnder id)
          else store.docs other) ∧
    ∀ i, Fields.get? i.model.primaryKey i.record = some id →
      ∃ answer after, Answers (a.save i) store answer after ∧
        KeepsOthers store after (a.collection i.model) id := by
  have htest (m : Model) := matches_eq_isUnder hid (.inr (h.allIdentified (a.collection m)))
  refine ⟨fun m ↦ ?_, fun m ↦ ?_, fun i hget ↦ answers_save_keepsOthers hid a hget⟩
  · refine ⟨_, answers_retrieve a m (findOne_eq_find? (htest m)), fun other ↦ ?_⟩
    exact MemoryStore.docs_create store _ other
  · obtain ⟨count, hdelete⟩ := deleteOne_eq_eraseP (htest m)
    refine ⟨_, answers_delete a m hdelete, fun other ↦ ?_⟩
    rw [MemoryStore.docs_setDocs, MemoryStore.docs_create]
    by_cases hsame : a.collection m = other
    · rw [if_pos hsame, if_pos hsame, hsame]
    · rw [if_neg hsame, if_neg hsame]

/-- A kind of record. -/
def task : Model := { name := "Task" }

/-- The store after tasks have been saved in an empty one. -/
def savedTasks (records : List Document) : MemoryStore :=
  (runAll (Operation.perform {}) (records.map fun record ↦ .save { model := task, record }) {}).2

theorem reachable_savedTasks (records : List Document) : Reachable (savedTasks records) :=
  Reachable.empty.runAll {} _

theorem reachableBy_savedTasks {Q : Document → Prop} {records : List Document}
    (h : ∀ record ∈ records, Q record) : ReachableBy Q (savedTasks records) := by
  refine ReachableBy.empty.runAll {} fun op hop ↦ ?_
  obtain ⟨record, hrecord, rfl⟩ := List.mem_map.1 hop
  exact h record hrecord

/-- Of two tasks, the first is kept under a document without operators. -/
theorem Reachable.concerns_named_document :
    let a : Adapter := {}
    let id : Bson := .document [("x", .int32 1)]
    let store := savedTasks [[("id", id), ("name", .string "a")], [("id", .string "2")]]
    isOperatorDocument id = false ∧ Reachable store ∧
      (∃ after, Answers (a.retrieve task id) store
        (.ok (some [("id", id), ("name", .string "a")])) after) ∧
      (∃ after, Answers (a.delete task id) store (.ok ()) after ∧
        after.docs (a.collection task) = [[("_id", .string "2"), ("id", .string "2")]]) ∧
      ∃ answer after,
        Answers (a.save { model := task, record := [("id", id), ("name", .string "b")] }) store
          answer after ∧
        (after.docs (a.collection task))[1]? = some [("_id", .string "2"), ("id", .string "2")] := by
  intro a id store
  have hbefore : store.docs (a.collection task) =
      [[("_id", id), ("id", id), ("name", .string "a")],
        [("_id", .string "2"), ("id", .string "2")]] := by
    subst store id a
    rfl
  have hid : isOperatorDocument id = false := rfl
  have hstore : Reachable store := reachable_savedTasks _
  obtain ⟨hretrieve, hdelete, hsave⟩ := hstore.concerns_named a hid
  refine ⟨hid, hstore, ?_, ?_, ?_⟩
  · obtain ⟨after, hanswer, -⟩ := hretrieve task
    rw [hbefore] at hanswer
    exact ⟨after, hanswer⟩
  · obtain ⟨after, hanswer, hdocs⟩ := hdelete task
    refine ⟨after, hanswer, ?_⟩
    rw [hdocs, if_pos rfl, hbefore]
    rfl
  · obtain ⟨answer, after, hanswer, hkeeps⟩ :=
      hsave { model := task, record := [("id", id), ("name", .string "b")] } rfl
    refine ⟨answer, after, hanswer, hkeeps _ 1 _ ?_ fun _ ↦ rfl⟩
    rw [hbefore]
    rfl

/-- The only task is not kept under a document of operators that it satisfies, but it is handed out,
removed and written to under this document. -/
theorem operator_identity_concerns_others :
    let a : Adapter := {}
    let id : Bson := .document [("$ne", .string "2")]
    let store := savedTasks [[("id", .string "1"), ("name", .string "a")]]
    let doc : Document := [("_id", .string "1"), ("id", .string "1"), ("name", .string "a")]
    Reachable store ∧ store.docs (a.collection task) = [doc] ∧ doc.isUnder id = false ∧
      (∃ after, Answers (a.retrieve task id) store (.ok (some (withoutIdentity doc))) after) ∧
      (∃ after, Answers (a.delete task id) store (.ok ()) after ∧
        after.docs (a.collection task) = []) ∧
      ∃ answer after,
        Answers (a.save { model := task, record := [("id", id), ("name", .string "b")] }) store
          answer after ∧
        after.docs (a.collection task) = [[("_id", id), ("id", id), ("name", .string "b")]] := by
  intro a id store doc
  have hbefore : store.docs (a.collection task) = [doc] := rfl
  have hafter (docs : List Document) :
      ((store.create (a.collection task)).setDocs (a.collection task) docs).docs
        (a.collection task) = docs := by
    rw [MemoryStore.docs_setDocs, if_pos rfl]
  have hfind : Collection.findOne (store.docs (a.collection task)) [(identityField, id)] =
      .ok (some doc) := by
    rw [hbefore]
    rfl
  have hdelete : Collection.deleteOne (store.docs (a.collection task)) [(identityField, id)] =
      (.ok 1, []) := by
    rw [hbefore]
    rfl
  have hplace : firstMatch? [(identityField, id)] (store.docs (a.collection task)) =
      .ok (some 0) := by
    rw [hbefore]
    rfl
  have hget : Fields.get? task.primaryKey [("id", id), ("name", .string "b")] = some id := rfl
  have hnull : id ≠ .null := by simp [id]
  refine ⟨reachable_savedTasks _, hbefore, rfl, ⟨_, answers_retrieve a task hfind⟩,
    ⟨_, answers_delete a task hdelete, hafter []⟩, _, _, answers_save a hget hnull hplace, ?_⟩
  rw [hafter, hbefore]
  rfl

end DocQuery
