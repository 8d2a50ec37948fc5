import DocQuery.Proofs.Adapter.Refinement
import DocQuery.Proofs.Adapter.Selection

/-!
# Stores That Adapters Leave Behind

A memory store is reachable if operations and searches of adapters lead to it from an empty store.  The
adapters may be configured differently, and nothing is assumed of the records, the keys and the values
that are asked for.

A property of lists of documents that saving and removing preserve holds of every collection of a
reachable store: `Preserves` follows it through the commands of an adapter, `Reachable.docs` through a
run.  As a first use, every document of a reachable store has the field that identifies it.

Some properties are preserved only where the records that are saved have a property of their own.  They
hold of the collections of the stores that are reachable by such records.
-/

namespace DocQuery

/-- The memory stores that adapters can leave behind. -/
inductive Reachable : MemoryStore → Prop
  | empty : Reachable {}
  | perform {store : MemoryStore} (a : Adapter) (op : Operation) (h : Reachable store) :
    Reachable (op.perform a store).2
  | search {store : MemoryStore} (a : Adapter) (m : Model) (e : Expression) (h : Reachable store) :
    Reachable ((a.search m e).run.run store).2

/-- Whether all records that an operation is to store have a property. -/
def Operation.Stores (Q : Document → Prop) : Operation → Prop
  | save i => Q i.record
  | bulkInsert _ instances => ∀ i ∈ instances, Q i.record
  | _ => True

/-- The memory stores that adapters can leave behind if all records that they are to store have a
property. -/
inductive ReachableBy (Q : Document → Prop) : MemoryStore → Prop
  | empty : ReachableBy Q {}
  | perform {store : MemoryStore} (a : Adapter) (op : Operation) (hop : op.Stores Q)
    (h : ReachableBy Q store) : ReachableBy Q (op.perform a store).2
  | search {store : MemoryStore} (a : Adapter) (m : Model) (e : Expression) (h : ReachableBy Q store) :
    ReachableBy Q ((a.search m e).run.run store).2

theorem Operation.stores_any (op : Operation) : op.Stores fun _ ↦ True := by
  cases op with
  | bulkInsert m instances => exact fun _ _ ↦ trivial
  | _ => trivial

/-- Without a condition on records, every reachable store can be reached. -/
theorem Reachable.by_any {store : MemoryStore} (h : Reachable store) :
    ReachableBy (fun _ ↦ True) store := by
  induction h with
  | empty => exact .empty
  | perform a op _ ih => exact ih.perform a op op.stores_any
  | search a m e _ ih => exact ih.search a m e

/-- Every run of operations leads from a reachable store to a reachable store. -/
theorem Reachable.runAll {store : MemoryStore} (h : Reachable store) (a : Adapter)
    (operations : List Operation) :
    Reachable (DocQuery.runAll (Operation.perform a) operations store).2 := by
  induction operations generalizing store with
  | nil => exact h
  | cons op rest ih => exact ih (h.perform a op)

theorem ReachableBy.runAll {Q : Document → Prop} {store : MemoryStore} (h : ReachableBy Q store)
    (a : Adapter) {operations : List Operation} (hoperations : ∀ op ∈ operations, op.Stores Q) :
    ReachableBy Q (DocQuery.runAll (Operation.perform a) operations store).2 := by
  induction operations generalizing store with
  | nil => exact h
  | cons op rest ih =>
    obtain ⟨hop, hrest⟩ := List.forall_mem_cons.1 hoperations
    exact ih (h.perform a op hop) hrest

/-! ## Commands that preserve a property -/

variable {P : List Document → Prop} {α β : Type}

/-- Whether a command preserves a property of the documents of every collection, whatever it
answers. -/
def Preserves (P : List Document → Prop) (command : AdapterCommand MemoryStore α) : Prop :=
  ∀ store : MemoryStore, (∀ id, P (store.docs id)) → ∀ id, P ((command.run.run store).2.docs id)

namespace Preserves

theorem bind {command : AdapterCommand MemoryStore α} {next : α → AdapterCommand MemoryStore β}
    (h : Preserves P command) (hnext : ∀ value, Preserves P (next value)) :
    Preserves P (command >>= next) := by
  intro store hstore
  have hmiddle := h store hstore
  rw [ExceptT.run_bind, StateT.run_bind]
  revert hmiddle
  obtain ⟨answer, middle⟩ := command.run.run store
  intro hmiddle
  cases answer with
  | error e => exact hmiddle
  | ok value => exact hnext value middle hmiddle

theorem pure (value : α) : Preserves P (Pure.pure value) := fun _ h ↦ h

theorem settle (answer : Except AdapterError α) : Preserves P (Adapter.settle answer) := fun _ h ↦ h

theorem settle_bind {answer : Except AdapterError α} {next : α → AdapterCommand MemoryStore β}
    (hnext : ∀ value, answer = .ok value → Preserves P (next value)) :
    Preserves P (Adapter.settle answer >>= next) := by
  intro store hstore
  cases answer with
  | error e => exact hstore
  | ok value => exact hnext value rfl store hstore

theorem lookUp (a : Adapter) (m : Model) : Preserves P (a.lookUp m) := by
  intro store h id
  have hlookUp : ((a.lookUp m).run.run store).2 = store.create (a.collection m) := rfl
  rw [hlookUp, MemoryStore.docs_create]
  exact h id

theorem read (id : CollectionId) (query : List Document → Except StoreError α) :
    Preserves P (Adapter.ask (MemoryStore.read id query)) := fun _ h ↦ h

theorem write {id : CollectionId} {change : List Document → Collection.Written α}
    (hchange : ∀ docs, P docs → P (change docs).2) :
    Preserves P (Adapter.ask (MemoryStore.write id change)) := by
  intro store h other
  have hwrite : ((Adapter.ask (MemoryStore.write id change)).run.run store).2 =
      store.setDocs id (change (store.docs id)).2 := rfl
  rw [hwrite, MemoryStore.docs_setDocs]
  split
  · exact hchange _ (h id)
  · exact h other

theorem search (a : Adapter) (m : Model) (e : Expression) : Preserves P (a.search m e) := by
  unfold Adapter.search
  refine .bind (.lookUp a m) fun _ ↦ ?_
  dsimp only
  split
  · exact .bind (.pure _) fun _ ↦ .bind (.read _ _) fun _ ↦ .pure _
  · exact .bind (.settle _) fun _ ↦ .bind (.read _ _) fun _ ↦ .pure _

end Preserves

/-! ## Properties of reachable stores -/

/-- Whether the writes of adapters preserve a property of lists of documents. -/
structure KeptByWrites (P : List Document → Prop) : Prop where
  empty : P []
  saveOne : ∀ docs key record, P docs → P (Collection.updateOne docs (saveWrite key record)).2
  deleteOne : ∀ docs filter, P docs → P (Collection.deleteOne docs filter).2
  deleteMany : ∀ docs filter, P docs → P (Collection.deleteMany docs filter).2

/-- Whether the writes of adapters preserve a property of lists of documents, if all records that are to
be stored have another. -/
structure KeptByWritesOf (Q : Document → Prop) (P : List Document → Prop) : Prop where
  coerce : ∀ (m : Model) record, Q record → Q (m.coerce record)
  empty : P []
  saveOne : ∀ docs key record, Q record → P docs →
    P (Collection.updateOne docs (saveWrite key record)).2
  deleteOne : ∀ docs filter, P docs → P (Collection.deleteOne docs filter).2
  deleteMany : ∀ docs filter, P docs → P (Collection.deleteMany docs filter).2

theorem KeptByWrites.of_any (hP : KeptByWrites P) : KeptByWritesOf (fun _ ↦ True) P where
  coerce := fun _ _ _ ↦ trivial
  empty := hP.empty
  saveOne := fun docs key record _ ↦ hP.saveOne docs key record
  deleteOne := hP.deleteOne
  deleteMany := hP.deleteMany

namespace KeptByWritesOf

variable {Q : Document → Prop} (hP : KeptByWritesOf Q P)
include hP

theorem bulkWriteFrom {docs : List Document} (hdocs : P docs) {writes : List Write}
    (hwrites : ∀ w ∈ writes, ∃ key record, Q record ∧ w = saveWrite key record) (total : BulkCounts) :
    P (Collection.bulkWriteFrom total docs writes).2 := by
  induction writes generalizing docs total with
  | nil => exact hdocs
  | cons w rest ih =>
    obtain ⟨key, record, hrecord, rfl⟩ := hwrites w (List.mem_cons_self ..)
    have hrest := fun w hw ↦ hwrites w (List.mem_cons_of_mem _ hw)
    have hfirst := hP.saveOne docs key record hrecord hdocs
    rw [Collection.bulkWriteFrom]
    split
    · rename_i e after hwrite
      rwa [hwrite] at hfirst
    · rename_i counts after hwrite
      rw [hwrite] at hfirst
      exact ih hfirst hrest _

theorem preserves_save (a : Adapter) {i : Instance} (hi : Q i.record) : Preserves P (a.save i) := by
  unfold Adapter.save
  refine .settle_bind fun entry hentry ↦ .bind (.lookUp a i.model) fun _ ↦
    .bind (.write fun docs ↦ hP.saveOne docs entry.1 _ ?_) fun _ ↦ .pure _
  rw [← (Instance.of_persistable hentry).2]
  exact hP.coerce i.model i.record hi

theorem preserves_bulkInsert (a : Adapter) (m : Model) {instances : List Instance}
    (hinstances : ∀ i ∈ instances, Q i.record) : Preserves P (a.bulkInsert m instances) := by
  unfold Adapter.bulkInsert
  split
  · exact .settle _
  · split
    · exact .pure ()
    · refine .settle_bind fun writes hwrites ↦ .bind (.lookUp a m) fun _ ↦ .bind (.write ?_) fun _ ↦ .pure _
      intro docs hdocs
      rw [bulkWrites_eq, map_eq_ok] at hwrites
      obtain ⟨entries, hentries, rfl⟩ := hwrites
      refine hP.bulkWriteFrom hdocs ?_ {}
      intro w hw
      obtain ⟨stored, hstored, rfl⟩ := List.mem_map.1 hw
      obtain ⟨entry, hentry, rfl⟩ := List.mem_map.1 hstored
      obtain ⟨i, hi, hpersistable⟩ := exists_persistable_of_mapM hentries entry hentry
      have hrecord : Q entry.2 := (Instance.of_persistable hpersistable).2 ▸ hinstances i hi
      exact ⟨entry.1, m.coerce entry.2, hP.coerce m entry.2 hrecord, rfl⟩

theorem preserves_command (a : Adapter) {op : Operation} (hop : op.Stores Q) :
    Preserves P (op.command a) := by
  cases op with
  | save i => exact (hP.preserves_save a hop).bind fun _ ↦ .pure _
  | bulkInsert m instances => exact (hP.preserves_bulkInsert a m hop).bind fun _ ↦ .pure _
  | delete m id =>
    have hdelete : Preserves P (a.delete m id) :=
      .bind (.lookUp a m) fun _ ↦ .bind (.write fun docs ↦ hP.deleteOne docs _) fun _ ↦ .pure _
    exact hdelete.bind fun _ ↦ .pure _
  | bulkDelete m ids =>
    have hdelete : Preserves P (a.bulkDelete m ids) :=
      .bind (.lookUp a m) fun _ ↦ .bind (.write fun docs ↦ hP.deleteMany docs _) fun _ ↦ .pure _
    exact hdelete.bind fun _ ↦ .pure _
  | retrieve m id =>
    have hretrieve : Preserves P (a.retrieve m id) :=
      .bind (.lookUp a m) fun _ ↦ .bind (.read _ _) fun _ ↦ .pure _
    exact hretrieve.bind fun _ ↦ .pure _
  | count m =>
    have hcount : Preserves P (a.count m) := .bind (.lookUp a m) fun _ ↦ .read _ _
    exact hcount.bind fun _ ↦ .pure _

end KeptByWritesOf

/-- What the writes of adapters preserve for some records holds of every collection of a store that is
reachable by them. -/
theorem ReachableBy.docs {Q : Document → Prop} {store : MemoryStore} (h : ReachableBy Q store)
    (hP : KeptByWritesOf Q P) (id : CollectionId) : P (store.docs id) := by
  induction h generalizing id with
  | empty => exact hP.empty
  | perform a op hop _ ih => exact hP.preserves_command a hop _ ih id
  | search a m e _ ih => exact Preserves.search a m e _ ih id

/-- What the writes of adapters preserve holds of every collection of a reachable store. -/
theorem Reachable.docs {store : MemoryStore} (h : Reachable store) (hP : KeptByWrites P)
    (id : CollectionId) : P (store.docs id) :=
  h.by_any.docs hP.of_any id

/-! ## The field that identifies documents -/

/-- Whether every document has the field that identifies it. -/
def AllIdentified (docs : List Document) : Prop :=
  ∀ doc ∈ docs, (Fields.get? identityField doc).isSome = true

theorem keptByWrites_allIdentified : KeptByWrites AllIdentified where
  empty := fun _ h ↦ absurd h (by simp)
  saveOne := by
    intro docs key record h
    cases hmatch : firstMatch? [(identityField, key)] docs with
    | error e =>
      rw [updateOne_saveWrite_of_error hmatch]
      exact h
    | ok place =>
      obtain ⟨counts, hwrite⟩ := updateOne_saveWrite hmatch record
      rw [hwrite]
      intro doc hdoc
      cases place with
      | some index =>
        obtain ⟨n, hn⟩ := List.mem_iff_getElem?.1 hdoc
        rw [savedAt, List.getElem?_modify] at hn
        obtain ⟨old, hold, rfl⟩ := Option.map_eq_some_iff.1 hn
        split
        · exact isSome_get?_identityField_putAll old key record
        · exact h old (List.mem_of_getElem? hold)
      | none =>
        rcases List.mem_append.1 hdoc with hdoc | hdoc
        · exact h doc hdoc
        · obtain rfl := List.mem_singleton.1 hdoc
          exact isSome_get?_identityField_putAll _ key record
  deleteOne := fun docs filter h doc hdoc ↦ h doc ((deleteOne_sublist docs filter).subset hdoc)
  deleteMany := fun docs filter h doc hdoc ↦ h doc ((deleteMany_sublist docs filter).subset hdoc)

/-- Every document of a reachable store has the field that identifies it. -/
theorem Reachable.allIdentified {store : MemoryStore} (h : Reachable store) (id : CollectionId) :
    AllIdentified (store.docs id) :=
  h.docs keptByWrites_allIdentified id

end DocQuery
