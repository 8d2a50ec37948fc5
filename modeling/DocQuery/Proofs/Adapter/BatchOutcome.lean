import DocQuery.Proofs.Adapter.Batch
import DocQuery.Proofs.Adapter.SavedRecords

/-!
# Outcomes of Batches

A batch has one of three outcomes.  It is refused for the first of its instances that belongs to another
model.  If there is none, it is refused for an instance without a record or without a key, wherever this
instance stands.  A batch that is refused leaves the store as it was, since all instances are looked at
before anything is written, even the collection.

A batch of which no instance is at fault is stored, if its keys are of the kinds that have an identity.
Then every field of the last record with an identity stands in the document that is kept under it, whatever
the store and the earlier records of the batch have put there.
-/

namespace DocQuery

/-! ## Instances at fault -/

namespace Instance

variable {i : Instance}

/-- Whether an instance has no record, or one that has no key or null for its key. -/
def LacksKey (i : Instance) : Prop :=
  i.record? = none ∨ Fields.get? i.model.primaryKey i.record = none ∨
    Fields.get? i.model.primaryKey i.record = some .null

theorem persistable_of_lacksKey (h : i.LacksKey) :
    i.persistable = .error (.emptyRecord i.model.name) := by
  rcases h with hrecord | hmissing | hnull
  · simp only [persistable, hrecord]
  · unfold persistable record?
    cases i.record.isEmpty with
    | true => rfl
    | false => simp only [Bool.false_eq_true, if_false, hmissing]
  · exact persistable_of_null hnull

theorem key_ne_null (h : ¬i.LacksKey) : i.key ≠ .null := by
  intro hnull
  unfold key at hnull
  cases hget : Fields.get? i.model.primaryKey i.record with
  | none => exact h (.inr (.inl hget))
  | some key =>
    rw [hget] at hnull
    exact h (.inr (.inr (by rw [hget, ← hnull]; rfl)))

/-- The key of a keyed instance that has one. -/
theorem IsKeyed.isKey (h : i.IsKeyed) (hkey : i.key ≠ .null) : i.key.IsKey :=
  h.2 _ _ (persistable_eq hkey)

end Instance

/-- An instance that lacks a key makes the whole batch fail. -/
theorem mapM_persistable_of_lacksKey {name : String} {instances : List Instance}
    (hnames : ∀ i ∈ instances, i.model.name = name) (h : ∃ i ∈ instances, i.LacksKey) :
    instances.mapM Instance.persistable = .error (.emptyRecord name) := by
  induction instances with
  | nil =>
    obtain ⟨i, hi, -⟩ := h
    cases hi
  | cons first rest ih =>
    obtain ⟨hname, hrest⟩ := List.forall_mem_cons.1 hnames
    rw [mapM_persistable_cons]
    by_cases hfirst : first.LacksKey
    · rw [Instance.persistable_of_lacksKey hfirst, hname]
      rfl
    · have hlater : ∃ i ∈ rest, i.LacksKey := by
        obtain ⟨i, hi, hlacks⟩ := h
        rcases List.mem_cons.1 hi with rfl | hi
        · exact absurd hlacks hfirst
        · exact ⟨i, hi, hlacks⟩
      rw [Instance.persistable_eq (Instance.key_ne_null hfirst), ih hrest hlater]
      rfl

/-! ## Outcomes -/

/-- Whether documents hold the last record that a batch has for each identity: it stands with all its
fields, and with its key in `_id`, in the document that is found under the key. -/
def HoldsLast (m : Model) (instances : List Instance) (docs : List Document) : Prop :=
  ∀ before i rest, instances = before ++ i :: rest →
    (∀ later ∈ rest, fieldEquals (some later.key) i.key = false) →
    ∃ doc, docs.find? (Document.isUnder i.key) = some doc ∧
      Fields.put identityField i.key (m.coerce i.record) ⊆ doc

section
variable {m : Model} {instances : List Instance}

/-- A batch is refused for its first instance of another model. -/
theorem answers_bulkInsert_of_first_mixed (a : Adapter) {before rest : List Instance} {other : Instance}
    (hbefore : ∀ i ∈ before, i.model.name = m.name) (hother : other.model.name ≠ m.name)
    (store : MemoryStore) :
    Answers (a.bulkInsert m (before ++ other :: rest)) store
      (.error (.mixedModels m.name other.model.name)) store := by
  refine answers_bulkInsert_of_mixed a ?_ store
  rw [List.find?_append, find?_mixed_eq_none hbefore, Option.none_or]
  exact List.find?_cons_of_pos (decide_eq_true hother)

/-- A batch in which nothing is at fault is stored. -/
theorem answers_bulkInsert_of_keyed (a : Adapter)
    (hinstances : ∀ i ∈ instances, i.model.name = m.name ∧ ¬i.LacksKey ∧ i.IsKeyed)
    (store : MemoryStore) :
    ∃ after, Answers (a.bulkInsert m instances) store (.ok ()) after ∧
      HoldsLast m instances (after.docs (a.collection m)) := by
  by_cases hempty : instances = []
  · subst hempty
    refine ⟨store, .pure (), fun before i rest h ↦ ?_⟩
    cases before <;> cases h
  · let id := a.collection m
    let stored (i : Instance) : Bson × Document := (i.key, m.coerce i.record)
    have hmixed := find?_mixed_eq_none fun i hi ↦ (hinstances i hi).1
    have hkeys := fun i hi ↦ Instance.key_ne_null (hinstances i hi).2.1
    have hentries := mapM_persistable_eq hkeys
    have hsavable := isSavable_of_mapM (fun i hi ↦ (hinstances i hi).2.2) m hentries
    have hanswers := answers_bulkInsert_of_isSavable a hmixed hempty hentries hsavable store
    have hrecords : (instances.map fun i ↦ (i.key, i.record)).map m.stored = instances.map stored := by
      rw [List.map_map]
      rfl
    rw [hrecords] at hsavable hanswers
    refine ⟨_, hanswers, fun before i rest h hlater ↦ ?_⟩
    rw [MemoryStore.docs_setDocs_self]
    have hsaved := hasSaved_saveAllUnder (store.docs id) hsavable
    have hsplit : instances.map stored = before.map stored ++ stored i :: rest.map stored := by
      rw [h, List.map_append, List.map_cons]
    have hrest : ∀ later ∈ rest.map stored,
        later.1.IsKey ∧ fieldEquals (some later.1) i.key = false := by
      intro later hmem
      obtain ⟨j, hj, rfl⟩ := List.mem_map.1 hmem
      have hmem : j ∈ instances := by simp [h, hj]
      exact ⟨(hinstances j hmem).2.2.isKey (hkeys j hmem), hlater j hj⟩
    have hi : i ∈ instances := by simp [h]
    have hentry := hsavable (stored i) (List.mem_map_of_mem hi)
    rw [hsplit] at hsaved ⊢
    exact hsaved.subset_find? hentry hrest

end

/-- A batch is refused for its first instance of another model; else for any instance that lacks a key;
and else it is stored, if its keys have identities.  Only then is anything written. -/
theorem bulkInsert_outcome (a : Adapter) (m : Model) (instances : List Instance) (store : MemoryStore) :
    (∀ before other rest, instances = before ++ other :: rest →
      (∀ i ∈ before, i.model.name = m.name) → other.model.name ≠ m.name →
      Answers (a.bulkInsert m instances) store
        (.error (.mixedModels m.name other.model.name)) store) ∧
    ((∀ i ∈ instances, i.model.name = m.name) → (∃ i ∈ instances, i.LacksKey) →
      Answers (a.bulkInsert m instances) store (.error (.emptyRecord m.name)) store) ∧
    ((∀ i ∈ instances, i.model.name = m.name ∧ ¬i.LacksKey ∧ i.IsKeyed) →
      ∃ after, Answers (a.bulkInsert m instances) store (.ok ()) after ∧
        HoldsLast m instances (after.docs (a.collection m))) := by
  refine ⟨?_, ?_, fun h ↦ answers_bulkInsert_of_keyed a h store⟩
  · rintro before other rest rfl hbefore hother
    exact answers_bulkInsert_of_first_mixed a hbefore hother store
  · intro hnames hlacks
    exact answers_bulkInsert_of_error a (find?_mixed_eq_none hnames)
      (mapM_persistable_of_lacksKey hnames hlacks) store

/-- In one batch the first instance has no record and the second belongs to another model, in the next the
last instance has null for its key, and in the third the last record has the identity of the first. -/
theorem bulkInsert_outcome_tasks :
    let a : Adapter := {}
    let store := savedTasks [[("id", .int64 1), ("name", .string "b")]]
    let note : Instance := { model := { name := "Note" }, record := [("id", .string "1")] }
    let unnamed : Instance := { model := task, record := [("id", .null), ("name", .string "a")] }
    Answers (a.bulkInsert task [{ model := task, record := [] }, note, unnamed]) store
        (.error (.mixedModels "Task" "Note")) store ∧
      Answers (a.bulkInsert task (overlappingBatch ++ [unnamed])) store
        (.error (.emptyRecord "Task")) store ∧
      ∃ after, Answers (a.bulkInsert task overlappingBatch) store (.ok ()) after ∧
        ∃ doc, (after.docs (a.collection task)).find?
            (Document.isUnder (.double (.ofBits 0x3FF0000000000000))) = some doc ∧
          [("id", .double (.ofBits 0x3FF0000000000000)), ("at", .null),
            ("_id", .double (.ofBits 0x3FF0000000000000))] ⊆ doc := by
  intro a store note unnamed
  refine ⟨?_, ?_, ?_⟩
  · obtain ⟨hmixed, -, -⟩ :=
      bulkInsert_outcome a task [{ model := task, record := [] }, note, unnamed] store
    exact hmixed [{ model := task, record := [] }] note [unnamed] rfl (by simp) (by decide)
  · obtain ⟨-, hlacks, -⟩ := bulkInsert_outcome a task (overlappingBatch ++ [unnamed]) store
    exact hlacks (by simp [overlappingBatch, unnamed]) ⟨unnamed, by simp, .inr (.inr rfl)⟩
  · obtain ⟨-, -, hstored⟩ := bulkInsert_outcome a task overlappingBatch store
    have hinstances : ∀ i ∈ overlappingBatch, i.model.name = task.name ∧ ¬i.LacksKey ∧ i.IsKeyed := by
      intro i hi
      refine ⟨?_, ?_, isKeyed_overlappingBatch i hi⟩
      · revert i
        simp [overlappingBatch]
      · revert i
        simp [overlappingBatch, Instance.LacksKey, Instance.record?, task, Fields.get?]
    obtain ⟨after, hanswers, hfields⟩ := hstored hinstances
    exact ⟨after, hanswers, hfields (overlappingBatch.take 2) _ [] rfl (by simp)⟩

end DocQuery
