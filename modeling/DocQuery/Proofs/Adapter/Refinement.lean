import DocQuery.Proofs.Adapter.RecordMap
import DocQuery.Proofs.Filter.Equations
import DocQuery.Store.Memory.Lemmas

/-!
# Adapters Keep Maps

An adapter over a memory store is compared with maps from identities to documents, one for each name of
a collection.  Every operation has a meaning on these maps, and the adapter does to the documents of the
store what the operation means: it gives the same answer, the changed collection holds the documents of
the changed map in their order, and no other collection changes.

The statement about one operation is `Keeps.perform`; the statement about runs of any length, from
an empty store, follows by induction.  The keys of the records and the identities that are asked for have
to be of a kind that has an identity.
-/

namespace DocQuery

/-! ## Operations -/

/-- What can be asked of an adapter about single records and by number. -/
inductive Operation where
  | save (i : Instance)
  | bulkInsert (m : Model) (instances : List Instance)
  | delete (m : Model) (id : Bson)
  | bulkDelete (m : Model) (ids : List Bson)
  | retrieve (m : Model) (id : Bson)
  | count (m : Model)

/-- What an adapter answers. -/
inductive Reply where
  | done
  | saved (record : Document)
  | found (record : Option Document)
  | number (n : Nat)

/-- A step of a system that answers operations. -/
abbrev Answering (σ : Type) := Operation → σ → Except AdapterError Reply × σ

/-- The answers to operations in turn, and the last state. -/
def runAll {σ : Type} (step : Answering σ) :
    List Operation → σ → List (Except AdapterError Reply) × σ
  | [], state => ([], state)
  | op :: rest, state =>
    let (answer, next) := step op state
    let (answers, last) := runAll step rest next
    (answer :: answers, last)

namespace Operation

/-- The command of an adapter for an operation. -/
def command (a : Adapter) : Operation → AdapterCommand MemoryStore Reply
  | save i => do return .saved (← a.save i)
  | bulkInsert m instances => do a.bulkInsert m instances; return .done
  | delete m id => do a.delete m id; return .done
  | bulkDelete m ids => do a.bulkDelete m ids; return .done
  | retrieve m id => do return .found (← a.retrieve m id)
  | count m => do return .number (← a.count m)

/-- What an adapter does to a memory store. -/
def perform (a : Adapter) : Answering MemoryStore :=
  fun op store ↦ (op.command a).run.run store

end Operation

/-! ## Meanings -/

/-- The maps that the collections of a store are, by their names. -/
abbrev Records := CollectionId → RecordMap

/-- Changes the map of one collection. -/
def Records.change (state : Records) (id : CollectionId) (f : RecordMap → RecordMap) : Records :=
  fun other ↦ if id = other then f (state other) else state other

/-- The key and the record that are stored for an instance of a model. -/
def Model.stored (m : Model) (entry : Bson × Document) : Bson × Document :=
  (entry.1, m.coerce entry.2)

namespace Operation

/-- What an operation means for maps. -/
def meaning (a : Adapter) : Answering Records
  | save i, state =>
    match i.persistable with
    | .error e => (.error e, state)
    | .ok entry =>
      let (key, record) := i.model.stored entry
      (.ok (.saved record), state.change (a.collection i.model) (·.save key record))
  | bulkInsert m instances, state =>
    match instances.find? fun i ↦ i.model.name ≠ m.name with
    | some other => (.error (.mixedModels m.name other.model.name), state)
    | none =>
      match instances.mapM Instance.persistable with
      | .error e => (.error e, state)
      | .ok entries =>
        (.ok .done, state.change (a.collection m) (·.saveAll (entries.map m.stored)))
  | delete m id, state => (.ok .done, state.change (a.collection m) (·.delete id))
  | bulkDelete m ids, state => (.ok .done, state.change (a.collection m) (·.deleteAll ids))
  | retrieve m id, state =>
    (.ok (.found (((state (a.collection m)).find? id).map withoutIdentity)), state)
  | count m, state => (.ok (.number (state (a.collection m)).length), state)

end Operation

/-- Whether an instance has a record that holds each name once, and a key that can identify it where
it is stored at all. -/
def Instance.IsKeyed (i : Instance) : Prop :=
  Fields.Distinct i.record ∧ ∀ key record, i.persistable = .ok (key, record) → key.IsKey

/-- Whether the keys and identities of an operation are of the kinds that have an identity. -/
def Operation.IsKeyed : Operation → Prop
  | save i => i.IsKeyed
  | bulkInsert _ instances => ∀ i ∈ instances, i.IsKeyed
  | delete _ id => id.IsKey
  | bulkDelete _ ids => ∀ id ∈ ids, id.IsKey
  | retrieve _ id => id.IsKey
  | count _ => True

/-! ## Answers of commands -/

/-- A command answers a store and leaves another behind. -/
def Answers {α : Type} (command : AdapterCommand MemoryStore α) (store : MemoryStore)
    (answer : Except AdapterError α) (after : MemoryStore) : Prop :=
  command.run.run store = (answer, after)

namespace Answers

variable {α β : Type} {store middle after : MemoryStore}
variable {command : AdapterCommand MemoryStore α} {next : α → AdapterCommand MemoryStore β}

theorem bind {value : α} {answer : Except AdapterError β}
    (h : Answers command store (.ok value) middle)
    (hnext : Answers (next value) middle answer after) :
    Answers (command >>= next) store answer after := by
  unfold Answers at h hnext ⊢
  rw [ExceptT.run_bind, StateT.run_bind, h]
  exact hnext

theorem bind_error {e : AdapterError} (h : Answers command store (.error e) after) :
    Answers (command >>= next) store (.error e) after := by
  unfold Answers at h ⊢
  rw [ExceptT.run_bind, StateT.run_bind, h]
  rfl

theorem pure (value : α) : Answers (Pure.pure value) store (.ok value) store := rfl

theorem settle (answer : Except AdapterError α) : Answers (Adapter.settle answer) store answer store :=
  rfl

theorem lookUp (a : Adapter) (m : Model) :
    Answers (a.lookUp m) store (.ok ()) (store.create (a.collection m)) := rfl

theorem read {id : CollectionId} {query : List Document → Except StoreError α} {value : α}
    (h : query (store.docs id) = .ok value) :
    Answers (Adapter.ask (MemoryStore.read id query)) store (.ok value) store := by
  have hrun : (Adapter.ask (MemoryStore.read id query)).run.run store =
      ((query (store.docs id)).mapError AdapterError.store, store) := rfl
  rw [Answers, hrun, h]
  rfl

theorem write {id : CollectionId} {change : List Document → Collection.Written α} {value : α}
    {docs : List Document} (h : change (store.docs id) = (.ok value, docs)) :
    Answers (Adapter.ask (MemoryStore.write id change)) store (.ok value)
      (store.setDocs id docs) := by
  have hrun : (Adapter.ask (MemoryStore.write id change)).run.run store =
      ((change (store.docs id)).1.mapError AdapterError.store,
        store.setDocs id (change (store.docs id)).2) := rfl
  rw [Answers, hrun, h]
  rfl

end Answers

/-! ## Stores that keep maps -/

/-- Whether the collections of a store hold the documents of valid maps. -/
def Keeps (store : MemoryStore) (state : Records) : Prop :=
  ∀ id, (state id).IsValid ∧ store.docs id = Fields.values (state id)

namespace Keeps

variable {a : Adapter} {store : MemoryStore} {state : Records}

theorem empty : Keeps {} fun _ ↦ [] :=
  fun _ ↦ ⟨RecordMap.isValid_nil, rfl⟩

theorem create (h : Keeps store state) (id : CollectionId) : Keeps (store.create id) state := by
  intro other
  rw [MemoryStore.docs_create]
  exact h other

/-- To set the documents of one collection to those of the changed map is to change the map. -/
theorem setDocs (h : Keeps store state) (id : CollectionId) {f : RecordMap → RecordMap}
    (hvalid : (f (state id)).IsValid) :
    Keeps (store.setDocs id (Fields.values (f (state id)))) (state.change id f) := by
  intro other
  rw [MemoryStore.docs_setDocs, Records.change]
  by_cases hother : id = other
  · subst hother
    rw [if_pos rfl, if_pos rfl]
    exact ⟨hvalid, rfl⟩
  · rw [if_neg hother, if_neg hother]
    exact h other

/-- A command that writes to a collection as its map is changed answers and keeps the maps. -/
theorem write (h : Keeps store state) (id : CollectionId) {α : Type}
    (change : List Document → Collection.Written α) (f : RecordMap → RecordMap)
    (hvalid : (f (state id)).IsValid)
    (hchange : ∃ value, change (Fields.values (state id)) = (.ok value, Fields.values (f (state id)))) :
    ∃ value after, Answers (Adapter.ask (MemoryStore.write id change)) store (.ok value) after ∧
      Keeps after (state.change id f) := by
  obtain ⟨value, hvalue⟩ := hchange
  rw [← (h id).2] at hvalue
  exact ⟨value, _, .write hvalue, h.setDocs id hvalid⟩

end Keeps

/-! ## One operation -/

/-- Whether an adapter answers an operation as it is meant and leaves the maps behind that it
means. -/
def Agrees (a : Adapter) (op : Operation) (store : MemoryStore) (state : Records) : Prop :=
  ∃ after, Answers (op.command a) store (op.meaning a state).1 after ∧
    Keeps after (op.meaning a state).2

variable {a : Adapter} {store : MemoryStore} {state : Records}

theorem Agrees.of_meaning {op : Operation} {answer : Except AdapterError Reply} {after : MemoryStore}
    {next : Records} (hmeaning : op.meaning a state = (answer, next))
    (hanswers : Answers (op.command a) store answer after) (hkeeps : Keeps after next) :
    Agrees a op store state := by
  refine ⟨after, ?_, ?_⟩
  · rw [hmeaning]
    exact hanswers
  · rw [hmeaning]
    exact hkeeps

theorem coerce_distinct (m : Model) {record : Document} (hrecord : Fields.Distinct record) :
    Fields.Distinct (m.coerce record) := by
  unfold Model.coerce
  induction m.properties generalizing record with
  | nil => exact hrecord
  | cons property rest ih =>
    refine ih ?_
    unfold coerceProperty
    split
    · exact hrecord.put _ _
    · exact hrecord

/-- An instance is stored under the value of the field that its model names, with its own record. -/
theorem Instance.of_persistable {i : Instance} {entry : Bson × Document}
    (h : i.persistable = .ok entry) :
    Fields.get? i.model.primaryKey i.record = some entry.1 ∧ i.record = entry.2 := by
  unfold Instance.persistable Instance.record? at h
  by_cases hempty : i.record.isEmpty = true
  · rw [if_pos hempty] at h
    cases h
  · rw [if_neg hempty] at h
    dsimp only at h
    split at h <;> cases h
    rename_i hget
    exact ⟨hget, rfl⟩

theorem Instance.isKeyed_of_get? {i : Instance} {key : Bson} (hdistinct : Fields.Distinct i.record)
    (hget : Fields.get? i.model.primaryKey i.record = some key) (hkey : key.IsKey) :
    i.IsKeyed := by
  refine ⟨hdistinct, fun other record h ↦ ?_⟩
  have hsame : some key = some other := hget.symm.trans (Instance.of_persistable h).1
  rwa [← Option.some.inj hsame]

/-- What is stored for a keyed instance can be saved. -/
theorem Instance.IsKeyed.isSavable_stored {i : Instance} (hi : i.IsKeyed) (m : Model)
    {entry : Bson × Document} (h : i.persistable = .ok entry) :
    RecordMap.IsSavable (m.stored entry) := by
  refine ⟨hi.2 entry.1 entry.2 h, coerce_distinct m ?_⟩
  rw [← (Instance.of_persistable h).2]
  exact hi.1

theorem mapM_persistable_cons (i : Instance) (rest : List Instance) :
    (i :: rest).mapM Instance.persistable =
      i.persistable.bind fun entry ↦ (rest.mapM Instance.persistable).map (entry :: ·) := by
  rw [List.mapM_cons]
  cases i.persistable with
  | error e => rfl
  | ok entry => cases rest.mapM Instance.persistable <;> rfl

/-- The updates of many instances are those that save what is stored for each. -/
theorem bulkWrites_eq (m : Model) (instances : List Instance) :
    Adapter.bulkWrites m instances =
      (instances.mapM Instance.persistable).map fun entries ↦
        (entries.map m.stored).map fun entry ↦ saveWrite entry.1 entry.2 := by
  induction instances with
  | nil => rfl
  | cons i rest ih =>
    have hcons : Adapter.bulkWrites m (i :: rest) =
        i.persistable.bind fun entry ↦ (Adapter.bulkWrites m rest).map
          (saveWrite (m.stored entry).1 (m.stored entry).2 :: ·) := by
      unfold Adapter.bulkWrites
      rw [List.mapM_cons]
      cases i.persistable with
      | error e => rfl
      | ok entry =>
        cases rest.mapM fun i ↦
          i.persistable.map fun (key, record) ↦ saveWrite key (m.coerce record) <;> rfl
    rw [hcons, mapM_persistable_cons, ih]
    cases i.persistable with
    | error e => rfl
    | ok entry => cases rest.mapM Instance.persistable <;> rfl

section
variable (a) {m : Model} {instances : List Instance}

theorem find?_mixed_eq_none (hnames : ∀ i ∈ instances, i.model.name = m.name) :
    (instances.find? fun i ↦ i.model.name ≠ m.name) = none := by
  rw [List.find?_eq_none]
  intro i hi
  simp [hnames i hi]

/-- A batch with an instance of another model is refused. -/
theorem answers_bulkInsert_of_mixed {other : Instance}
    (h : (instances.find? fun i ↦ i.model.name ≠ m.name) = some other) (store : MemoryStore) :
    Answers (a.bulkInsert m instances) store (.error (.mixedModels m.name other.model.name)) store := by
  unfold Adapter.bulkInsert
  rw [h]
  exact .settle _

variable (hmixed : (instances.find? fun i ↦ i.model.name ≠ m.name) = none)
include hmixed

/-- A batch with an instance that cannot be stored is refused. -/
theorem answers_bulkInsert_of_error {e : AdapterError}
    (h : instances.mapM Instance.persistable = .error e) (store : MemoryStore) :
    Answers (a.bulkInsert m instances) store (.error e) store := by
  have hnonempty : ¬instances.isEmpty = true := by
    intro hempty
    obtain rfl := List.isEmpty_iff.1 hempty
    cases h
  unfold Adapter.bulkInsert
  rw [hmixed]
  simp only [if_neg hnonempty, bulkWrites_eq, h]
  exact (Answers.settle _).bind_error

/-- A batch of which every instance can be stored answers as the store does to the updates. -/
theorem answers_bulkInsert_of_writes {entries : List (Bson × Document)} (hne : instances ≠ [])
    (hentries : instances.mapM Instance.persistable = .ok entries)
    {answer : Except AdapterError BulkCounts} {after : MemoryStore}
    (h : Answers (Adapter.ask (DocumentStore.bulkWrite (a.collection m)
        ((entries.map m.stored).map fun entry ↦ saveWrite entry.1 entry.2)))
      (store.create (a.collection m)) answer after) :
    Answers (a.bulkInsert m instances) store (answer.map fun _ ↦ ()) after := by
  have hnonempty : ¬instances.isEmpty = true := by rwa [List.isEmpty_iff]
  unfold Adapter.bulkInsert
  rw [hmixed]
  simp only [if_neg hnonempty, bulkWrites_eq, hentries]
  refine (Answers.settle _).bind ((Answers.lookUp a m).bind ?_)
  cases answer with
  | ok counts => exact h.bind (.pure _)
  | error e => exact h.bind_error

end

/-- What is stored for several instances is stored for one of them. -/
theorem exists_persistable_of_mapM {instances : List Instance} {entries : List (Bson × Document)}
    (h : instances.mapM Instance.persistable = .ok entries) :
    ∀ entry ∈ entries, ∃ i ∈ instances, i.persistable = .ok entry := by
  induction instances generalizing entries with
  | nil =>
    cases h
    exact fun entry hentry ↦ absurd hentry (by simp)
  | cons i rest ih =>
    rw [mapM_persistable_cons, bind_eq_ok] at h
    obtain ⟨first, hfirst, h⟩ := h
    obtain ⟨others, hothers, rfl⟩ := map_eq_ok.1 h
    intro entry hentry
    rcases List.mem_cons.1 hentry with rfl | hentry
    · exact ⟨i, List.mem_cons_self .., hfirst⟩
    · obtain ⟨j, hj, hstored⟩ := ih hothers entry hentry
      exact ⟨j, List.mem_cons_of_mem _ hj, hstored⟩

/-- What is stored for keyed instances can be saved. -/
theorem isSavable_of_mapM {instances : List Instance} (hinstances : ∀ i ∈ instances, i.IsKeyed)
    (m : Model) {entries : List (Bson × Document)}
    (h : instances.mapM Instance.persistable = .ok entries) :
    ∀ entry ∈ entries.map m.stored, RecordMap.IsSavable entry := by
  intro stored hstored
  obtain ⟨entry, hentry, rfl⟩ := List.mem_map.1 hstored
  obtain ⟨i, hi, hpersistable⟩ := exists_persistable_of_mapM h entry hentry
  exact (hinstances i hi).isSavable_stored m hpersistable

namespace Keeps

variable (h : Keeps store state)
include h

theorem save {i : Instance} (hi : i.IsKeyed) : Agrees a (.save i) store state := by
  cases hentry : i.persistable with
  | error e =>
    have hmeaning : (Operation.save i).meaning a state = (.error e, state) := by
      simp only [Operation.meaning, hentry]
    have hsave : Answers (a.save i) store (.error e) store := by
      unfold Adapter.save
      rw [hentry]
      exact (Answers.settle _).bind_error
    exact .of_meaning hmeaning hsave.bind_error h
  | ok entry =>
    let id := a.collection i.model
    let record := i.model.coerce entry.2
    have hmeaning : (Operation.save i).meaning a state =
        (.ok (.saved record), state.change id (·.save entry.1 record)) := by
      simp only [Operation.meaning, hentry]
      rfl
    obtain ⟨hkey, hrecord⟩ := hi.isSavable_stored i.model hentry
    obtain ⟨k, hk⟩ := hkey.exists_identity
    obtain ⟨hvalid, -⟩ := h id
    obtain ⟨counts, after, hwrite, hkeeps⟩ := (h.create id).write id
      (Collection.updateOne · (saveWrite entry.1 record)) (·.save entry.1 record)
      (hvalid.save hk hrecord) (RecordMap.updateOne_values hvalid hk hrecord)
    have hsave : Answers (a.save i) store (.ok record) after := by
      unfold Adapter.save
      rw [hentry]
      exact (Answers.settle _).bind ((Answers.lookUp a i.model).bind (hwrite.bind (.pure record)))
    exact .of_meaning hmeaning (hsave.bind (.pure _)) hkeeps

/-- Instances of one model that can all be stored are stored in turn. -/
theorem answers_bulkInsert {m : Model} {instances : List Instance}
    {entries : List (Bson × Document)} (hinstances : ∀ i ∈ instances, i.IsKeyed)
    (hmixed : (instances.find? fun i ↦ i.model.name ≠ m.name) = none)
    (hentries : instances.mapM Instance.persistable = .ok entries) :
    ∃ after, Answers (a.bulkInsert m instances) store (.ok ()) after ∧
      Keeps after (state.change (a.collection m) (·.saveAll (entries.map m.stored))) := by
  by_cases hempty : instances = []
  · subst hempty
    obtain rfl : [] = entries := Except.ok.inj hentries
    -- without instances the collection is not even looked up
    have hsame : state.change (a.collection m) (·.saveAll []) = state := by
      funext other
      exact ite_self _
    rw [List.map_nil, hsame]
    exact ⟨store, .pure (), h⟩
  · have hsavable := isSavable_of_mapM hinstances m hentries
    obtain ⟨hvalid, -⟩ := h (a.collection m)
    let writes := (entries.map m.stored).map fun entry ↦ saveWrite entry.1 entry.2
    obtain ⟨counts, after, hwrite, hkeeps⟩ :=
      (h.create (a.collection m)).write (a.collection m) (Collection.bulkWrite · writes)
        (·.saveAll (entries.map m.stored)) (hvalid.saveAll hsavable)
        (RecordMap.bulkWriteFrom_values hvalid hsavable {})
    exact ⟨after, answers_bulkInsert_of_writes a hmixed hempty hentries hwrite, hkeeps⟩

theorem bulkInsert {m : Model} {instances : List Instance}
    (hinstances : ∀ i ∈ instances, i.IsKeyed) :
    Agrees a (.bulkInsert m instances) store state := by
  cases hmixed : instances.find? fun i ↦ i.model.name ≠ m.name with
  | some other =>
    have hmeaning : (Operation.bulkInsert m instances).meaning a state =
        (.error (.mixedModels m.name other.model.name), state) := by
      simp only [Operation.meaning, hmixed]
    exact .of_meaning hmeaning (answers_bulkInsert_of_mixed a hmixed store).bind_error h
  | none =>
    cases hentries : instances.mapM Instance.persistable with
    | error e =>
      have hmeaning : (Operation.bulkInsert m instances).meaning a state = (.error e, state) := by
        simp only [Operation.meaning, hmixed, hentries]
      exact .of_meaning hmeaning (answers_bulkInsert_of_error a hmixed hentries store).bind_error h
    | ok entries =>
      have hmeaning : (Operation.bulkInsert m instances).meaning a state =
          (.ok .done, state.change (a.collection m) (·.saveAll (entries.map m.stored))) := by
        simp only [Operation.meaning, hmixed, hentries]
      obtain ⟨after, hinsert, hkeeps⟩ := h.answers_bulkInsert hinstances hmixed hentries
      exact .of_meaning hmeaning (hinsert.bind (.pure _)) hkeeps

theorem delete {m : Model} {id : Bson} (hid : id.IsKey) : Agrees a (.delete m id) store state := by
  obtain ⟨k, hk⟩ := hid.exists_identity
  obtain ⟨hvalid, -⟩ := h (a.collection m)
  obtain ⟨count, after, hwrite, hkeeps⟩ := (h.create (a.collection m)).write (a.collection m)
    (Collection.deleteOne · [(identityField, id)]) (·.delete id) (hvalid.filter _)
    (RecordMap.deleteOne_values hvalid hk)
  have hdelete : Answers (a.delete m id) store (.ok ()) after := by
    unfold Adapter.delete
    exact (Answers.lookUp a m).bind (hwrite.bind (.pure ()))
  exact .of_meaning rfl (hdelete.bind (.pure _)) hkeeps

theorem bulkDelete {m : Model} {ids : List Bson} (hids : ∀ id ∈ ids, id.IsKey) :
    Agrees a (.bulkDelete m ids) store state := by
  obtain ⟨hvalid, -⟩ := h (a.collection m)
  obtain ⟨count, after, hwrite, hkeeps⟩ := (h.create (a.collection m)).write (a.collection m)
    (Collection.deleteMany · [(identityField, .document [("$in", .array ids)])]) (·.deleteAll ids)
    (hvalid.filter _)
    (RecordMap.deleteMany_values hvalid fun id hid ↦ (hids id hid).exists_identity)
  have hdelete : Answers (a.bulkDelete m ids) store (.ok ()) after := by
    unfold Adapter.bulkDelete
    exact (Answers.lookUp a m).bind (hwrite.bind (.pure ()))
  exact .of_meaning rfl (hdelete.bind (.pure _)) hkeeps

theorem retrieve {m : Model} {id : Bson} (hid : id.IsKey) :
    Agrees a (.retrieve m id) store state := by
  obtain ⟨k, hk⟩ := hid.exists_identity
  have hcreate := h.create (a.collection m)
  obtain ⟨hvalid, hdocs⟩ := hcreate (a.collection m)
  have hfind := RecordMap.findOne_values hvalid hk
  rw [← hdocs] at hfind
  have hretrieve : Answers (a.retrieve m id) store
      (.ok (((state (a.collection m)).find? id).map withoutIdentity))
      (store.create (a.collection m)) := by
    unfold Adapter.retrieve
    exact (Answers.lookUp a m).bind ((Answers.read hfind).bind (.pure _))
  exact .of_meaning rfl (hretrieve.bind (.pure _)) hcreate

theorem count {m : Model} : Agrees a (.count m) store state := by
  have hcreate := h.create (a.collection m)
  obtain ⟨-, hdocs⟩ := hcreate (a.collection m)
  have hlength : ((store.create (a.collection m)).docs (a.collection m)).length =
      (state (a.collection m)).length := by
    rw [hdocs, Fields.values, List.length_map]
  have hcount : Answers (a.count m) store (.ok (state (a.collection m)).length)
      (store.create (a.collection m)) := by
    unfold Adapter.count
    exact (Answers.lookUp a m).bind (.read (by rw [hlength]))
  exact .of_meaning rfl (hcount.bind (.pure _)) hcreate

/-- An adapter answers every keyed operation as it is meant. -/
theorem perform {op : Operation} (hop : op.IsKeyed) :
    (op.perform a store).1 = (op.meaning a state).1 ∧
      Keeps (op.perform a store).2 (op.meaning a state).2 := by
  have hagrees : Agrees a op store state := by
    cases op with
    | save i => exact h.save hop
    | bulkInsert m instances => exact h.bulkInsert hop
    | delete m id => exact h.delete hop
    | bulkDelete m ids => exact h.bulkDelete hop
    | retrieve m id => exact h.retrieve hop
    | count m => exact h.count
  obtain ⟨after, hanswers, hkeeps⟩ := hagrees
  have hperform : op.perform a store = ((op.meaning a state).1, after) := hanswers
  rw [hperform]
  exact ⟨rfl, hkeeps⟩

/-! ## Runs -/

/-- An adapter answers every run of keyed operations as it is meant. -/
theorem runAll {operations : List Operation} (hoperations : ∀ op ∈ operations, op.IsKeyed) :
    (DocQuery.runAll (Operation.perform a) operations store).1 =
        (DocQuery.runAll (Operation.meaning a) operations state).1 ∧
      Keeps (DocQuery.runAll (Operation.perform a) operations store).2
        (DocQuery.runAll (Operation.meaning a) operations state).2 := by
  induction operations generalizing store state with
  | nil => exact ⟨rfl, h⟩
  | cons op rest ih =>
    obtain ⟨hanswer, hkeeps⟩ := h.perform (hoperations op (List.mem_cons_self ..))
    obtain ⟨hanswers, hlast⟩ :=
      ih hkeeps fun op hop ↦ hoperations op (List.mem_cons_of_mem _ hop)
    exact ⟨List.cons_eq_cons.2 ⟨hanswer, hanswers⟩, hlast⟩

end Keeps

/-- From an empty store, an adapter answers every run of keyed operations as it is meant on maps, and
then each collection holds the documents of its map in their order.  No two of these are equal to a
store in the field that identifies them. -/
theorem runAll_refines (a : Adapter) (operations : List Operation)
    (hoperations : ∀ op ∈ operations, op.IsKeyed) :
    let kept := runAll (Operation.perform a) operations {}
    let meant := runAll (Operation.meaning a) operations fun _ ↦ []
    kept.1 = meant.1 ∧
      ∀ id, kept.2.docs id = Fields.values (meant.2 id) ∧ (meant.2 id).IsValid ∧
        (kept.2.docs id).Pairwise fun x y ↦
          ∀ b c, Fields.get? identityField x = some b → Fields.get? identityField y = some c →
            fieldEquals (some b) c = false := by
  intro kept meant
  obtain ⟨hanswers, hkeeps⟩ := Keeps.empty.runAll hoperations
  refine ⟨hanswers, fun id ↦ ?_⟩
  obtain ⟨hvalid, hdocs⟩ := hkeeps id
  refine ⟨hdocs, hvalid, ?_⟩
  rw [hdocs]
  exact hvalid.values_pairwise

/-- A run that stores one record under two keys that are equal to a store, and two more, of which it
removes one. -/
def widthRun (m : Model) : List Operation :=
  [.save { model := m, record := [("id", .int32 1), ("name", .string "a")] },
    .save { model := m, record := [("id", .double (.ofBits 0x3FF0000000000000)), ("age", .int32 7)] },
    .bulkInsert m
      [{ model := m, record := [("id", .string "x")] },
        { model := m, record := [("id", .bool true), ("name", .null)] }],
    .retrieve m (.int64 1),
    .delete m (.string "x"),
    .bulkDelete m [.dateTime 0, .bool false],
    .count m]

/-- The keys and identities of the run are of kinds that have an identity. -/
theorem runAll_refines_widthRun :
    let m : Model := { name := "Item" }
    (∀ op ∈ widthRun m, op.IsKeyed) ∧
      (runAll (Operation.perform {}) (widthRun m) {}).1 =
          (runAll (Operation.meaning {}) (widthRun m) fun _ ↦ []).1 ∧
        ∀ id, RecordMap.IsValid ((runAll (Operation.meaning {}) (widthRun m) fun _ ↦ []).2 id) := by
  intro m
  have hkeyed : ∀ op ∈ widthRun m, op.IsKeyed := by
    have hinstance (record : Document) (key : Bson) (hdistinct : Fields.Distinct record)
        (hget : Fields.get? "id" record = some key) (hkey : key.IsKey) :
        Instance.IsKeyed { model := m, record } :=
      Instance.isKeyed_of_get? hdistinct hget hkey
    simp only [widthRun, List.forall_mem_cons, Operation.IsKeyed, List.not_mem_nil, forall_false,
      implies_true, and_true]
    refine ⟨?_, ?_, ⟨?_, ?_⟩, trivial, trivial, ⟨trivial, trivial⟩⟩
    · exact hinstance _ (.int32 1) (by decide) rfl trivial
    · have hfinite : (Double.ofBits 0x3FF0000000000000).isFinite = true := by decide
      exact hinstance _ (.double (.ofBits 0x3FF0000000000000)) (by decide) rfl hfinite
    · exact hinstance _ (.string "x") (by decide) rfl trivial
    · exact hinstance _ (.bool true) (by decide) rfl trivial
  obtain ⟨hanswers, hcollections⟩ := runAll_refines {} (widthRun m) hkeyed
  exact ⟨hkeyed, hanswers, fun id ↦ (hcollections id).2.1⟩

end DocQuery
