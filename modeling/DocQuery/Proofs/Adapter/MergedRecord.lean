import DocQuery.Proofs.Adapter.SavedKey

/-!
# Records Merged With Older Ones

An adapter hands out the record that it was given, made ready for storing.  What it stores is this record
merged with the document that was kept under the same key before: fields that the record does not name
stay in the document, and they are found again when the record is retrieved.

So the two have the same fields exactly if no other field was there, in particular if the key is new.  In
any case what is retrieved has all fields that were handed out, whatever the store held before.
-/

namespace DocQuery

/-- Whether two records have the same fields with the same values, in any order. -/
def FieldsAgree (x y : Document) : Prop := ∀ name, Fields.get? name x = Fields.get? name y

/-- Whether a record names all fields of a document, but perhaps the one that identifies it. -/
def NamesAllOf (record old : Document) : Prop :=
  ∀ name ∈ Fields.names old, name = identityField ∨ name ∈ Fields.names record

/-- What is handed out of a document to which a record has been saved is the record exactly if the record
names all fields of the document. -/
theorem fieldsAgree_withoutIdentity_iff {key : Bson} {record : Document}
    (hrecord : Fields.Distinct record) (hidentity : identityField ∉ Fields.names record)
    (old : Document) :
    FieldsAgree (withoutIdentity (Fields.putAll old (Fields.put identityField key record))) record ↔
      NamesAllOf record old := by
  constructor
  · intro hsame name hname
    refine Decidable.or_iff_not_imp_left.2 fun hne ↦ Classical.byContradiction fun hnot ↦ ?_
    have hget := hsame name
    rw [get?_withoutIdentity_putAll hrecord, if_neg (Ne.symm hne),
      (Fields.get?_eq_none_iff name record).2 hnot, Option.none_or] at hget
    exact (Fields.get?_eq_none_iff name old).1 hget hname
  · intro hnames name
    rw [get?_withoutIdentity_putAll hrecord]
    split
    · rename_i heq
      exact ((Fields.get?_eq_none_iff name record).2 (heq ▸ hidentity)).symm
    · rename_i hne
      cases hget : Fields.get? name record with
      | some value => rfl
      | none =>
        have hrecordName : name ∉ Fields.names record := (Fields.get?_eq_none_iff name record).1 hget
        have hold : name ∉ Fields.names old := fun hname ↦
          (hnames name hname).elim (fun heq ↦ hne heq.symm) hrecordName
        rw [(Fields.get?_eq_none_iff name old).2 hold]
        rfl

/-- A record that is saved under a key can be retrieved by the key with all fields that were handed out.
It has no others exactly if the record names all fields of the document that was kept under the key. -/
theorem retrieved_fieldsAgree_iff {i : Instance} (hdistinct : Fields.Distinct i.record)
    (hidentity : identityField ∉ Fields.names i.record) {key : Bson}
    (hget : Fields.get? i.model.primaryKey i.record = some key) (hkey : key.IsKey) (a : Adapter)
    (store : MemoryStore) :
    ∃ record saved, Answers (a.save i) store (.ok record) saved ∧
      ∃ doc after, Answers (a.retrieve i.model key) saved (.ok (some doc)) after ∧
        record ⊆ doc ∧
        (FieldsAgree doc record ↔
          ∀ old, (store.docs (a.collection i.model)).find? (Document.isUnder key) = some old →
            NamesAllOf i.record old) := by
  let docs := store.docs (a.collection i.model)
  let record := i.model.coerce i.record
  have hrecord : Fields.Distinct record := coerce_distinct i.model hdistinct
  have hnames : Fields.names record = Fields.names i.record := Model.names_coerce ..
  have hfree : identityField ∉ Fields.names record := by rwa [hnames]
  have hretrieve := answers_retrieve_of_isKey hkey a i.model (i.savedStore a key store)
  rw [i.docs_savedStore, find?_savedAt docs (isUnder_putAll hkey hrecord)] at hretrieve
  refine ⟨record, _, answers_save_of_isKey hget hkey a store, _, _, hretrieve,
    subset_withoutIdentity hrecord hfree _, ?_⟩
  rw [fieldsAgree_withoutIdentity_iff hrecord hfree]
  unfold NamesAllOf
  rw [hnames]
  cases hold : docs.find? (Document.isUnder key) with
  | some old =>
    exact ⟨fun h _ hsome ↦ Option.some.inj hsome ▸ h, fun h ↦ h old rfl⟩
  | none =>
    -- the new document has only the field that identifies it
    obtain ⟨k, hk⟩ := hkey.exists_identity
    rw [Option.getD_none, upsertSeed_of_identity hk]
    refine ⟨fun _ _ h ↦ absurd h (by simp), fun _ name hname ↦ .inl ?_⟩
    simpa [Fields.names] using hname

/-- A task is saved over one that has no other field but its key. -/
theorem retrieved_fieldsAgree_iff_sameNames :
    let a : Adapter := {}
    let store := savedTasks [[("id", .string "1")], [("id", .string "2"), ("name", .string "a")]]
    let i : Instance := { model := task, record := [("id", .string "1"), ("age", .int32 7)] }
    Fields.Distinct i.record ∧ identityField ∉ Fields.names i.record ∧ (Bson.string "1").IsKey ∧
      ∃ record saved, Answers (a.save i) store (.ok record) saved ∧
        ∃ doc after, Answers (a.retrieve task (.string "1")) saved (.ok (some doc)) after ∧
          FieldsAgree doc record := by
  intro a store i
  have hdistinct : Fields.Distinct i.record := by decide
  have hidentity : identityField ∉ Fields.names i.record := by decide
  have hkey : (Bson.string "1").IsKey := trivial
  obtain ⟨record, saved, hsave, doc, after, hretrieve, -, hsame⟩ :=
    retrieved_fieldsAgree_iff hdistinct hidentity rfl hkey a store
  refine ⟨hdistinct, hidentity, hkey, record, saved, hsave, doc, after, hretrieve, hsame.2 ?_⟩
  intro old hold
  have hfound : (store.docs (a.collection task)).find? (Document.isUnder (.string "1")) =
      some [("_id", .string "1"), ("id", .string "1")] := rfl
  obtain rfl := Option.some.inj (hfound.symm.trans hold)
  unfold NamesAllOf
  decide

/-- A task is saved without the name that the task of its key has.  It is handed out without a name and
retrieved with one. -/
theorem saved_without_name_retrieved_with_name :
    let a : Adapter := {}
    let store := savedTasks [[("id", .string "1"), ("name", .string "a")]]
    let i : Instance := { model := task, record := [("id", .string "1"), ("age", .int32 7)] }
    Reachable store ∧ Fields.Distinct i.record ∧ identityField ∉ Fields.names i.record ∧
      ∃ saved, Answers (a.save i) store (.ok i.record) saved ∧
        ∃ after, Answers (a.retrieve task (.string "1")) saved
            (.ok (some [("id", .string "1"), ("name", .string "a"), ("age", .int32 7)])) after ∧
          ¬FieldsAgree [("id", .string "1"), ("name", .string "a"), ("age", .int32 7)] i.record := by
  intro a store i
  have hkey : (Bson.string "1").IsKey := trivial
  have hretrieve := answers_retrieve_of_isKey hkey a task (i.savedStore a (.string "1") store)
  have hbefore : store.docs (a.collection task) =
      [[("_id", .string "1"), ("id", .string "1"), ("name", .string "a")]] := rfl
  have hdocs : (i.savedStore a (.string "1") store).docs (a.collection task) =
      [[("_id", .string "1"), ("id", .string "1"), ("name", .string "a"), ("age", .int32 7)]] := by
    rw [i.docs_savedStore, hbefore]
    rfl
  rw [hdocs] at hretrieve
  refine ⟨reachable_savedTasks _, by decide, by decide, _,
    answers_save_of_isKey rfl hkey a store, _, hretrieve, fun hsame ↦ ?_⟩
  have hname : some (Bson.string "a") = none := hsame "name"
  cases hname

end DocQuery
