import DocQuery.Proofs.Adapter.NamedRecord

/-!
# Batches of Records

A batch of records is stored by one list of updates, which are prepared before the store is asked for
anything.  Where every instance of the batch has a record with a key, this is the same as to save the
instances one after the other up to the first that the store refuses: both answer alike and leave the
same store behind, whatever the store held before and however often a key occurs in the batch.

It comes down to one update.  Each save looks its collection up again, which changes nothing once the
collection is there, and sets the documents that its update leaves, also where the update fails.
-/

namespace DocQuery

/-- Saves instances in turn, up to the first that cannot be saved. -/
def Adapter.saveEach (a : Adapter) :
    List Instance → MemoryStore → Except AdapterError Unit × MemoryStore
  | [], store => (.ok (), store)
  | i :: rest, store =>
    match (a.save i).run.run store with
    | (.error e, after) => (.error e, after)
    | (.ok _, after) => saveEach a rest after

namespace Instance

/-- The primary key of the record of an instance, which is null if the record has none. -/
def key (i : Instance) : Bson := (Fields.get? i.model.primaryKey i.record).getD .null

/-- The update that saves an instance. -/
def write (i : Instance) : Write := saveWrite i.key (i.model.coerce i.record)

theorem get?_primaryKey {i : Instance} (h : i.key ≠ .null) :
    Fields.get? i.model.primaryKey i.record = some i.key := by
  unfold key at h ⊢
  cases hget : Fields.get? i.model.primaryKey i.record with
  | none => exact absurd (by rw [hget]; rfl) h
  | some key => rfl

theorem persistable_eq {i : Instance} (h : i.key ≠ .null) : i.persistable = .ok (i.key, i.record) :=
  persistable_of_ne_null (get?_primaryKey h) h

end Instance

/-! ## One record -/

/-- An adapter passes on what the store answers. -/
theorem Answers.ask {α : Type} {command : StoreCommand MemoryStore α} {store after : MemoryStore}
    {answer : Except StoreError α} (h : command.run.run store = (answer, after)) :
    Answers (Adapter.ask command) store (answer.mapError .store) after := by
  have hrun : (Adapter.ask command).run.run store =
      ((command.run.run store).1.mapError .store, (command.run.run store).2) := rfl
  rw [Answers, hrun, h]

section
variable {a : Adapter} {store : MemoryStore}

/-- A save answers as its update does, and sets the documents that the update leaves. -/
theorem answers_save_of_updateOne {i : Instance} (hkey : i.key ≠ .null)
    {answer : Except StoreError UpdateCounts} {docs : List Document}
    (h : Collection.updateOne (store.docs (a.collection i.model)) i.write = (answer, docs)) :
    Answers (a.save i) store ((answer.mapError .store).map fun _ ↦ i.model.coerce i.record)
      ((store.create (a.collection i.model)).setDocs (a.collection i.model) docs) := by
  let id := a.collection i.model
  have hwrite : Answers (Adapter.ask (DocumentStore.updateOne id i.write)) (store.create id)
      (answer.mapError .store) ((store.create id).setDocs id docs) := by
    refine Answers.ask ?_
    change ((Collection.updateOne ((store.create id).docs id) i.write).1,
      (store.create id).setDocs id
        (Collection.updateOne ((store.create id).docs id) i.write).2) = _
    rw [MemoryStore.docs_create, h]
  unfold Adapter.save
  rw [Instance.persistable_eq hkey]
  refine (Answers.settle _).bind ((Answers.lookUp a i.model).bind ?_)
  cases answer with
  | ok counts => exact hwrite.bind (.pure _)
  | error e => exact hwrite.bind_error

/-! ## Many records -/

variable {m : Model}

theorem mapM_persistable_eq {instances : List Instance} (h : ∀ i ∈ instances, i.key ≠ .null) :
    instances.mapM Instance.persistable = .ok (instances.map fun i ↦ (i.key, i.record)) := by
  induction instances with
  | nil => rfl
  | cons i rest ih =>
    obtain ⟨hkey, hrest⟩ := List.forall_mem_cons.1 h
    rw [mapM_persistable_cons, Instance.persistable_eq hkey, ih hrest]
    rfl

/-- The first of several saves changes its collection as its update does, and the others go on from
there. -/
theorem saveEach_cons {i : Instance} (hkey : i.key ≠ .null) (rest : List Instance) :
    a.saveEach (i :: rest) store =
      match Collection.updateOne (store.docs (a.collection i.model)) i.write with
      | (.error e, docs) =>
        (.error (.store e), (store.create (a.collection i.model)).setDocs (a.collection i.model) docs)
      | (.ok _, docs) =>
        a.saveEach rest ((store.create (a.collection i.model)).setDocs (a.collection i.model) docs) := by
  rw [Adapter.saveEach]
  cases hwrite : Collection.updateOne (store.docs (a.collection i.model)) i.write with
  | mk answer docs =>
    have hsave := answers_save_of_updateOne hkey hwrite
    rw [hsave]
    cases answer <;> rfl

/-- Saves of instances of one model change the documents of their collection as the updates do, up to the
first that fails. -/
theorem saveEach_setDocs {instances : List Instance}
    (h : ∀ i ∈ instances, i.model = m ∧ i.key ≠ .null) (docs : List Document) (total : BulkCounts) :
    let written := Collection.bulkWriteFrom total docs (instances.map Instance.write)
    a.saveEach instances (store.setDocs (a.collection m) docs) =
      ((written.1.mapError .store).map fun _ ↦ (), store.setDocs (a.collection m) written.2) := by
  induction instances generalizing docs total with
  | nil => rfl
  | cons i rest ih =>
    obtain ⟨⟨rfl, hkey⟩, hrest⟩ := List.forall_mem_cons.1 h
    intro written
    rw [saveEach_cons hkey, MemoryStore.docs_setDocs_self, MemoryStore.create_setDocs]
    simp only [written, List.map_cons, Collection.bulkWriteFrom, MemoryStore.setDocs_setDocs]
    cases Collection.updateOne docs i.write with
    | mk answer after =>
      cases answer with
      | error e => rfl
      | ok counts => exact ih hrest after (total.add counts)

/-- A batch of instances of one model with records and keys is one list of updates. -/
theorem answers_bulkInsert_of_ne_nil {instances : List Instance} (hne : instances ≠ [])
    (h : ∀ i ∈ instances, i.model = m ∧ i.key ≠ .null) :
    let written := Collection.bulkWrite (store.docs (a.collection m)) (instances.map Instance.write)
    Answers (a.bulkInsert m instances) store ((written.1.mapError .store).map fun _ ↦ ())
      ((store.create (a.collection m)).setDocs (a.collection m) written.2) := by
  intro written
  let id := a.collection m
  have hmixed := find?_mixed_eq_none fun i hi ↦ congrArg Model.name (h i hi).1
  have hentries := mapM_persistable_eq fun i hi ↦ (h i hi).2
  have hwrites : ((instances.map fun i ↦ (i.key, i.record)).map m.stored).map
      (fun entry ↦ saveWrite entry.1 entry.2) = instances.map Instance.write := by
    rw [List.map_map, List.map_map]
    refine List.map_congr_left fun i hi ↦ ?_
    rw [← (h i hi).1]
    rfl
  refine answers_bulkInsert_of_writes a hmixed hne hentries ?_
  rw [hwrites]
  refine Answers.ask ?_
  change ((Collection.bulkWrite ((store.create id).docs id) (instances.map Instance.write)).1,
    (store.create id).setDocs id
      (Collection.bulkWrite ((store.create id).docs id) (instances.map Instance.write)).2) = _
  rw [MemoryStore.docs_create]

end

/-- To store a batch of instances of one model, all with a record and a key, is to save them one after
the other up to the first that fails: the answers are the same and so are the stores. -/
theorem bulkInsert_eq_saveEach (a : Adapter) (m : Model) (instances : List Instance)
    (store : MemoryStore) (h : ∀ i ∈ instances, i.model = m ∧ i.key ≠ .null) :
    (a.bulkInsert m instances).run.run store = a.saveEach instances store := by
  cases instances with
  | nil => rfl
  | cons i rest =>
    let id := a.collection m
    have hcreated : a.saveEach (i :: rest) store =
        a.saveEach (i :: rest) ((store.create id).setDocs id (store.docs id)) := by
      obtain ⟨rfl, hkey⟩ := h i (List.mem_cons_self ..)
      rw [saveEach_cons hkey, saveEach_cons hkey, MemoryStore.docs_setDocs_self,
        MemoryStore.create_setDocs]
      simp only [MemoryStore.setDocs_setDocs, id]
    rw [hcreated, saveEach_setDocs h (store.docs id) {}]
    exact answers_bulkInsert_of_ne_nil (List.cons_ne_nil i rest) h

/-- Two records under one number in two widths, and a third under a document of operators that the store
does not know, which ends the batch. -/
def brokenBatch (m : Model) : List Instance :=
  [{ model := m, record := [("id", .int32 1), ("name", .string "a")] },
    { model := m, record := [("id", .int64 1), ("age", .int32 7)] },
    { model := m, record := [("id", .document [("$where", .null)])] },
    { model := m, record := [("id", .string "x")] }]

theorem bulkInsert_eq_saveEach_brokenBatch :
    let m : Model := { name := "Item" }
    let a : Adapter := {}
    (∀ i ∈ brokenBatch m, i.model = m ∧ i.key ≠ .null) ∧
      (a.bulkInsert m (brokenBatch m)).run.run {} = a.saveEach (brokenBatch m) {} := by
  intro m a
  have hkeys : ∀ i ∈ brokenBatch m, i.model = m ∧ i.key ≠ .null := by
    simp [brokenBatch, Instance.key, m, Fields.get?]
  exact ⟨hkeys, bulkInsert_eq_saveEach a m (brokenBatch m) {} hkeys⟩

end DocQuery
