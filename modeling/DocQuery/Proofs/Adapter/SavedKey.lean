import DocQuery.Proofs.Adapter.NamedRecord
import DocQuery.Proofs.Model.Coercion

/-!
# Keys of Saved Records

An adapter saves a record under the key that the record has when it is handed in, and hands out the
record for storing.  The two have the same key unless the model declares its primary key as an instant
and the key is a text that names one.

A record can be retrieved by the key that it was handed out with, with all the fields that were handed
out, if its key stays as it is; the store may hold anything before.  Where the key does not stay as it
is, the record is lost from sight at least if it was saved in an empty store.
-/

namespace DocQuery

/-- Whether the record for storing has the same key. -/
def Model.KeepsKey (m : Model) (key : Bson) : Prop :=
  (m.primaryKey, .datetime) ∈ m.properties → coerceInstant key = key

theorem Model.get?_primaryKey_coerce {m : Model} {record : Document} {key : Bson}
    (hget : Fields.get? m.primaryKey record = some key) (hkeeps : m.KeepsKey key) :
    Fields.get? m.primaryKey (m.coerce record) = some key := by
  rw [Model.get?_coerce, hget]
  split
  · rename_i hdeclared
    rw [Option.map_some, hkeeps hdeclared]
  · rfl

theorem Bson.IsKey.ne_null {key : Bson} (h : key.IsKey) : key ≠ .null := by
  rintro rfl
  exact h

/-! ## Saved documents -/

section
variable {key : Bson} {record : Document}

/-- A document to which a record has been saved under a key is kept under the key. -/
theorem isUnder_putAll (hkey : key.IsKey) (hrecord : Fields.Distinct record) (old : Document) :
    Document.isUnder key (Fields.putAll old (Fields.put identityField key record)) = true := by
  obtain ⟨k, hk⟩ := hkey.exists_identity
  rw [Document.isUnder, Fields.get?_putAll _ (hrecord.put identityField key), Fields.get?_put_self]
  change fieldEquals (some key) key = true
  rw [fieldEquals_identity hk hk, decide_eq_true rfl]

/-- What is handed out of a document to which a record has been saved: the fields of the record, and those
that the document has had under other names. -/
theorem get?_withoutIdentity_putAll (hrecord : Fields.Distinct record) (old : Document) (name : String) :
    Fields.get? name (withoutIdentity (Fields.putAll old (Fields.put identityField key record))) =
      if identityField = name then none
      else (Fields.get? name record).or (Fields.get? name old) := by
  rw [withoutIdentity, Fields.get?_erase]
  split
  · rfl
  · rename_i hne
    rw [Fields.get?_putAll _ (hrecord.put identityField key), Fields.get?_put_of_ne hne]

/-- What is handed out of a document to which a record has been saved has all fields of the record. -/
theorem subset_withoutIdentity (hrecord : Fields.Distinct record)
    (hidentity : identityField ∉ Fields.names record) (old : Document) :
    record ⊆ withoutIdentity (Fields.putAll old (Fields.put identityField key record)) := by
  intro field hfield
  have hne : identityField ≠ field.1 := by
    intro heq
    exact hidentity (heq ▸ List.mem_map_of_mem hfield)
  apply Fields.mem_of_get?
  rw [get?_withoutIdentity_putAll hrecord, if_neg hne, Fields.get?_of_mem hrecord hfield]
  rfl

/-- The first document kept under a key after a save is the one that the save has written: the first that
was there before, or a new one. -/
theorem find?_savedAt {test : Document → Bool} (docs : List Document)
    (htest : ∀ old, test (Fields.putAll old (Fields.put identityField key record)) = true) :
    (savedAt docs key record (docs.findIdx? test)).find? test =
      some (Fields.putAll ((docs.find? test).getD (upsertSeed [(identityField, key)]))
        (Fields.put identityField key record)) := by
  cases hplace : docs.findIdx? test with
  | none =>
    have hbefore : docs.find? test = none := by
      rw [List.find?_eq_none]
      exact fun doc hdoc ↦ Bool.eq_false_iff.1 (List.findIdx?_eq_none_iff.1 hplace doc hdoc)
    rw [savedAt, List.find?_append, hbefore, Option.none_or, List.find?_cons_of_pos (htest _)]
    rfl
  | some index =>
    obtain ⟨hindex, -, hearlier⟩ := List.findIdx?_eq_some_iff_getElem.1 hplace
    have hbefore : docs.find? test = some docs[index] := by
      rw [List.find?_eq_bind_findIdx?_getElem?, hplace, Option.bind_some,
        List.getElem?_eq_getElem hindex]
    rw [hbefore, savedAt, List.find?_eq_some_iff_getElem]
    refine ⟨htest _, index, by rwa [List.length_modify], ?_, fun n hn ↦ ?_⟩
    · rw [List.getElem_modify, if_pos rfl]
      rfl
    · rw [List.getElem_modify, if_neg (by omega)]
      simpa using hearlier n hn

end

/-! ## The key that is handed out -/

/-- Whether an instance can be saved in a store, and what is handed out can then be retrieved with all
its fields by the key that it has. -/
def ReturnsSaved (a : Adapter) (i : Instance) (store : MemoryStore) : Prop :=
  ∃ record saved, Answers (a.save i) store (.ok record) saved ∧
    ∃ key, Fields.get? i.model.primaryKey record = some key ∧
      ∃ doc after, Answers (a.retrieve i.model key) saved (.ok (some doc)) after ∧ record ⊆ doc

/-- The store that is left behind when an instance is saved under a key. -/
def Instance.savedStore (i : Instance) (a : Adapter) (key : Bson) (store : MemoryStore) : MemoryStore :=
  let docs := store.docs (a.collection i.model)
  (store.create (a.collection i.model)).setDocs (a.collection i.model)
    (savedAt docs key (i.model.coerce i.record) (docs.findIdx? (Document.isUnder key)))

theorem Instance.docs_savedStore (i : Instance) (a : Adapter) (key : Bson) (store : MemoryStore) :
    (i.savedStore a key store).docs (a.collection i.model) =
      savedAt (store.docs (a.collection i.model)) key (i.model.coerce i.record)
        ((store.docs (a.collection i.model)).findIdx? (Document.isUnder key)) := by
  unfold savedStore
  rw [MemoryStore.docs_setDocs, if_pos rfl]

theorem matches_eq_isUnder_of_identity {key : Bson} {k : Identity} (hkey : key.identity? = some k)
    (docs : List Document) :
    ∀ doc ∈ docs, Document.matches doc [(identityField, key)] = .ok (doc.isUnder key) := by
  have hnull : key ≠ .null := by
    rintro rfl
    cases hkey
  exact matches_eq_isUnder (Bson.isOperatorDocument_of_identity? hkey) (.inl hnull)

theorem matches_eq_isUnder_of_isKey {key : Bson} (hkey : key.IsKey) (docs : List Document) :
    ∀ doc ∈ docs, Document.matches doc [(identityField, key)] = .ok (doc.isUnder key) := by
  obtain ⟨k, hk⟩ := hkey.exists_identity
  exact matches_eq_isUnder_of_identity hk docs

theorem answers_retrieve_of_isKey {key : Bson} (hkey : key.IsKey) (a : Adapter) (m : Model)
    (store : MemoryStore) :
    Answers (a.retrieve m key) store
      (.ok (((store.docs (a.collection m)).find? (Document.isUnder key)).map withoutIdentity))
      (store.create (a.collection m)) :=
  answers_retrieve a m (findOne_eq_find? (matches_eq_isUnder_of_isKey hkey _))

section
variable {i : Instance} {key : Bson}
variable (hget : Fields.get? i.model.primaryKey i.record = some key) (hkey : key.IsKey)
include hget hkey

theorem answers_save_of_isKey (a : Adapter) (store : MemoryStore) :
    Answers (a.save i) store (.ok (i.model.coerce i.record)) (i.savedStore a key store) :=
  answers_save a hget hkey.ne_null (firstMatch?_eq_findIdx? (matches_eq_isUnder_of_isKey hkey _))

theorem returnsSaved_of_keepsKey (hdistinct : Fields.Distinct i.record)
    (hidentity : identityField ∉ Fields.names i.record) (hkeeps : i.model.KeepsKey key)
    (a : Adapter) (store : MemoryStore) : ReturnsSaved a i store := by
  let record := i.model.coerce i.record
  have hrecord : Fields.Distinct record := coerce_distinct i.model hdistinct
  have hnames : identityField ∉ Fields.names record := by
    rwa [Model.names_coerce]
  have hfind := find?_savedAt (store.docs (a.collection i.model)) (isUnder_putAll hkey hrecord)
  have hretrieve := answers_retrieve_of_isKey hkey a i.model (i.savedStore a key store)
  rw [i.docs_savedStore, hfind] at hretrieve
  exact ⟨record, _, answers_save_of_isKey hget hkey a store, key,
    Model.get?_primaryKey_coerce hget hkeeps, _, _, hretrieve,
    subset_withoutIdentity hrecord hnames _⟩

/-- Saved in an empty store under a text that becomes an instant, a record is not found under the
instant. -/
theorem not_returnsSaved_empty (hdistinct : Fields.Distinct i.record)
    (hchanges : ¬i.model.KeepsKey key) (a : Adapter) : ¬ReturnsSaved a i {} := by
  obtain ⟨hdeclared, hne⟩ := Classical.not_imp.1 hchanges
  obtain ⟨s, t, rfl, ht⟩ := exists_of_coerceInstant_ne hne
  rintro ⟨record, saved, hsave, other, hother, doc, after, hretrieve, -⟩
  obtain ⟨hrecord, rfl⟩ := hsave.unique (answers_save_of_isKey hget hkey a {})
  obtain rfl := Except.ok.inj hrecord
  have hreturned : Fields.get? i.model.primaryKey (i.model.coerce i.record) = some (.dateTime t) := by
    rw [Model.get?_coerce, if_pos hdeclared, hget, Option.map_some, ht]
  obtain rfl : Bson.dateTime t = other := Option.some.inj (hreturned.symm.trans hother)
  let stored := Fields.putAll (upsertSeed [(identityField, .string s)])
    (Fields.put identityField (.string s) (i.model.coerce i.record))
  have hdocs : (i.savedStore a (.string s) {}).docs (a.collection i.model) = [stored] :=
    i.docs_savedStore a (.string s) {}
  have hstored : Fields.get? identityField stored = some (.string s) := by
    rw [Fields.get?_putAll _ ((coerce_distinct i.model hdistinct).put identityField _),
      Fields.get?_put_self]
    rfl
  have hnotUnder : ¬Document.isUnder (.dateTime t) stored = true := by
    rw [Document.isUnder, hstored]
    exact Bool.false_ne_true
  have hinstant : (Bson.dateTime t).IsKey := trivial
  have hlost := answers_retrieve_of_isKey hinstant a i.model (i.savedStore a (.string s) {})
  rw [hdocs, List.find?_cons_of_neg hnotUnder] at hlost
  exact absurd (hretrieve.unique hlost).1 (by simp)

end

/-- A record is retrieved by the key that it was handed out with, from whatever reachable store it was
saved in, exactly if the record for storing has the key of the record that was handed in. -/
theorem returnsSaved_iff_keepsKey {i : Instance} (hdistinct : Fields.Distinct i.record)
    (hidentity : identityField ∉ Fields.names i.record) {key : Bson}
    (hget : Fields.get? i.model.primaryKey i.record = some key) (hkey : key.IsKey) (a : Adapter) :
    (∀ store, Reachable store → ReturnsSaved a i store) ↔ i.model.KeepsKey key := by
  constructor
  · intro h
    apply Classical.byContradiction
    intro hchanges
    exact not_returnsSaved_empty hget hkey hdistinct hchanges a (h {} .empty)
  · intro hkeeps store _
    exact returnsSaved_of_keepsKey hget hkey hdistinct hidentity hkeeps a store

/-- A task with an instant is saved over one that is kept under a number of another width. -/
theorem returnsSaved_iff_keepsKey_otherWidth :
    let store := savedTasks [[("id", .double (.ofBits 0x3FF0000000000000)), ("name", .string "a")]]
    let i : Instance :=
      { model := { name := "Task", properties := [("at", .datetime), ("id", .integer)] }
        record := [("id", .int32 1), ("at", .string "2021-03-04")] }
    Fields.Distinct i.record ∧ identityField ∉ Fields.names i.record ∧
      Fields.get? i.model.primaryKey i.record = some (.int32 1) ∧ (Bson.int32 1).IsKey ∧
      i.model.KeepsKey (.int32 1) ∧ Reachable store ∧ ReturnsSaved {} i store := by
  intro store i
  have hdistinct : Fields.Distinct i.record := by decide
  have hidentity : identityField ∉ Fields.names i.record := by decide
  have hget : Fields.get? i.model.primaryKey i.record = some (.int32 1) := rfl
  have hkey : (Bson.int32 1).IsKey := trivial
  have hkeeps : i.model.KeepsKey (.int32 1) := fun _ ↦ rfl
  have hstore : Reachable store := reachable_savedTasks _
  exact ⟨hdistinct, hidentity, hget, hkey, hkeeps, hstore,
    (returnsSaved_iff_keepsKey hdistinct hidentity hget hkey {}).2 hkeeps store hstore⟩

/-- An event whose key is declared as an instant is saved under a text and handed out with an instant,
by which it is not found. -/
theorem saved_under_text_not_returned :
    let i : Instance :=
      { model := { name := "Event", primaryKey := "at", properties := [("at", .datetime)] }
        record := [("at", .string "2021-03-04"), ("name", .string "a")] }
    let a : Adapter := {}
    Fields.Distinct i.record ∧ identityField ∉ Fields.names i.record ∧
      (Bson.string "2021-03-04").IsKey ∧
      ∃ saved,
        Answers (a.save i) {} (.ok [("at", .dateTime 1614816000000), ("name", .string "a")]) saved ∧
        ∃ after, Answers (a.retrieve i.model (.dateTime 1614816000000)) saved (.ok none) after := by
  intro i a
  have hkey : (Bson.string "2021-03-04").IsKey := trivial
  have hinstant : (Bson.dateTime 1614816000000).IsKey := trivial
  have hget : Fields.get? i.model.primaryKey i.record = some (.string "2021-03-04") := rfl
  have hlost := answers_retrieve_of_isKey hinstant a i.model
    (i.savedStore a (.string "2021-03-04") {})
  rw [i.docs_savedStore] at hlost
  exact ⟨by decide, by decide, hkey, _, answers_save_of_isKey hget hkey a {}, _, hlost⟩

end DocQuery
