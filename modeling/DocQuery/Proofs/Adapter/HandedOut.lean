import DocQuery.Proofs.Adapter.SavedKey

/-!
# Records That Are Handed Out

An adapter keeps the field `_id` to itself: it removes the field from every document that it has from the
store.  What a search or a retrieval hands out therefore lacks it, whatever the store answers.

A record that has been saved is handed out as it was made ready for storing, without a look at the store.
It has the names that it was given with, and so it shows a field `_id` exactly if it came with one.  If the
model identifies its records by this field, this is the identity that the store keeps.

The statements are about every document store, not only the one in memory.
-/

namespace DocQuery

/-- Whether a record does not have the field that identifies documents. -/
def LacksIdentity (record : Document) : Prop := identityField ∉ Fields.names record

theorem lacksIdentity_withoutIdentity (doc : Document) : LacksIdentity (withoutIdentity doc) := by
  unfold LacksIdentity withoutIdentity
  rw [Fields.names_erase]
  simp

/-! ## What a command hands out -/

variable {σ α β : Type}

/-- Whether a command hands out only values with a property, whatever state it is given. -/
def HandsOutOnly (P : α → Prop) (command : AdapterCommand σ α) : Prop :=
  ∀ state value, (command.run.run state).1 = .ok value → P value

namespace HandsOutOnly

variable {P P' : α → Prop} {Q : β → Prop}

theorem mono {command : AdapterCommand σ α} (h : HandsOutOnly P command)
    (himp : ∀ value, P value → P' value) :
    HandsOutOnly P' command :=
  fun state value hvalue ↦ himp value (h state value hvalue)

/-- Only the last of several commands matters, but for the values that it is given. -/
theorem bind {command : AdapterCommand σ α} {next : α → AdapterCommand σ β}
    (hnext : ∀ value, HandsOutOnly Q (next value)) : HandsOutOnly Q (command >>= next) := by
  intro state last
  rw [ExceptT.run_bind, StateT.run_bind]
  obtain ⟨answer, middle⟩ := command.run.run state
  cases answer with
  | error e => exact fun h ↦ nomatch h
  | ok value => exact hnext value middle last

theorem pure {value : α} (h : P value) : HandsOutOnly P (Pure.pure value : AdapterCommand σ α) := by
  intro state other hvalue
  obtain rfl := Except.ok.inj hvalue
  exact h

theorem settle_bind {answer : Except AdapterError α} {next : α → AdapterCommand σ β}
    (hnext : ∀ value, answer = .ok value → HandsOutOnly Q (next value)) :
    HandsOutOnly Q (Adapter.settle answer >>= next) := by
  intro state last
  cases answer with
  | error e => exact fun h ↦ nomatch h
  | ok value => exact hnext value rfl state last

end HandsOutOnly

variable [DocumentStore σ] (a : Adapter)

theorem handsOutOnly_search (m : Model) (e : Expression) :
    HandsOutOnly (fun result : SearchResult ↦
      (∀ record ∈ result.instances, LacksIdentity record) ∧ result.page = none)
      (a.search m e : AdapterCommand σ SearchResult) := by
  have hfound (records : List Document) :
      ∀ record ∈ records.map withoutIdentity, LacksIdentity record := by
    intro record hrecord
    obtain ⟨doc, -, rfl⟩ := List.mem_map.1 hrecord
    exact lacksIdentity_withoutIdentity doc
  unfold Adapter.search
  refine .bind fun _ ↦ ?_
  dsimp only
  split
  · exact .bind fun _ ↦ .bind fun records ↦ .pure ⟨hfound records, rfl⟩
  · exact .bind fun _ ↦ .bind fun records ↦ .pure ⟨hfound records, rfl⟩

theorem handsOutOnly_retrieve (m : Model) (id : Bson) :
    HandsOutOnly (fun found : Option Document ↦ ∀ record ∈ found, LacksIdentity record)
      (a.retrieve m id : AdapterCommand σ (Option Document)) := by
  have hfound (found : Option Document) :
      ∀ record ∈ found.map withoutIdentity, LacksIdentity record := by
    intro record hrecord
    obtain ⟨doc, -, rfl⟩ := Option.map_eq_some_iff.1 hrecord
    exact lacksIdentity_withoutIdentity doc
  unfold Adapter.retrieve
  exact .bind fun _ ↦ .bind fun found ↦ .pure (hfound found)

/-- What is handed out of a saved record has the names of the record. -/
theorem handsOutOnly_save (i : Instance) :
    HandsOutOnly (fun record ↦ Fields.names record = Fields.names i.record)
      (a.save i : AdapterCommand σ Document) := by
  unfold Adapter.save
  refine .settle_bind fun entry hentry ↦ .bind fun _ ↦ .bind fun _ ↦ .pure ?_
  rw [Model.names_coerce, (Instance.of_persistable hentry).2]

/-- Searches and retrievals hand out no record with the field `_id`.  A save does so exactly if the record
that it was given has the field. -/
theorem handsOut_lacksIdentity :
    (∀ m e, HandsOutOnly (fun result : SearchResult ↦
      (∀ record ∈ result.instances, LacksIdentity record) ∧ result.page = none)
      (a.search m e : AdapterCommand σ SearchResult)) ∧
    (∀ m id, HandsOutOnly (fun found : Option Document ↦ ∀ record ∈ found, LacksIdentity record)
      (a.retrieve m id : AdapterCommand σ (Option Document))) ∧
    ∀ i, HandsOutOnly (fun record ↦ LacksIdentity record ↔ LacksIdentity i.record)
      (a.save i : AdapterCommand σ Document) := by
  refine ⟨handsOutOnly_search a, handsOutOnly_retrieve a, fun i ↦ ?_⟩
  refine (handsOutOnly_save a i).mono fun record hnames ↦ ?_
  unfold LacksIdentity
  rw [hnames]

/-- A task whose model identifies records by the field `_id` is handed out with this field when it is
saved, and without it when it is retrieved. -/
theorem saved_under_identityField_shows_it :
    let m : Model := { name := "Task", primaryKey := identityField }
    let i : Instance := { model := m, record := [("_id", .string "1"), ("name", .string "a")] }
    let a : Adapter := {}
    ¬LacksIdentity i.record ∧
      ∃ saved, Answers (a.save i) {} (.ok i.record) saved ∧
        saved.docs (a.collection m) = [i.record] ∧
          ∃ after, Answers (a.retrieve m (.string "1")) saved
            (.ok (some [("name", .string "a")])) after := by
  intro m i a
  have hkey : (Bson.string "1").IsKey := trivial
  have hdocs : (i.savedStore a (.string "1") {}).docs (a.collection m) = [i.record] :=
    i.docs_savedStore a (.string "1") {}
  have hretrieve := answers_retrieve_of_isKey hkey a m (i.savedStore a (.string "1") {})
  rw [hdocs] at hretrieve
  have hshown : ¬LacksIdentity i.record := by
    unfold LacksIdentity
    decide
  exact ⟨hshown, _, answers_save_of_isKey rfl hkey a {}, hdocs, _, hretrieve⟩

end DocQuery
