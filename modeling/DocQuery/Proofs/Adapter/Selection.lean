import DocQuery.Proofs.Adapter.RecordMap
import DocQuery.Proofs.Filter.Equations
import DocQuery.Proofs.Store.FailedWrite

/-!
# Documents Kept Under a Value

A document is kept under a value if its field `_id` equals the value to a store.  An adapter asks for
such documents by a filter that holds the value itself.  Where the value is no document of operators,
this filter is a plain test of documents, and the commands of a collection are the operations on lists
that find, remove or change the first element that passes the test.

The statements on collections are about any filter that comes to a test of documents; those on saving
are about any key.
-/

namespace DocQuery

/-! ## Filters that are tests -/

section
variable {filter : Document} {docs : List Document} {test : Document → Bool}
variable (h : ∀ doc ∈ docs, Document.matches doc filter = .ok (test doc))
include h

theorem firstMatch?_eq_findIdx? : firstMatch? filter docs = .ok (docs.findIdx? test) := by
  induction docs with
  | nil => rfl
  | cons doc rest ih =>
    have hrest := ih fun doc hdoc ↦ h doc (List.mem_cons_of_mem _ hdoc)
    rw [firstMatch?_cons, h doc (List.mem_cons_self ..), hrest, List.findIdx?_cons]
    cases test doc <;> rfl

theorem selectDocuments_eq_filter : selectDocuments filter docs = .ok (docs.filter test) := by
  induction docs with
  | nil => rfl
  | cons doc rest ih =>
    have hrest := ih fun doc hdoc ↦ h doc (List.mem_cons_of_mem _ hdoc)
    rw [selectDocuments, h doc (List.mem_cons_self ..), hrest, List.filter_cons]
    rfl

theorem findOne_eq_find? : Collection.findOne docs filter = .ok (docs.find? test) := by
  rw [Collection.findOne, firstMatch?_eq_findIdx? h, List.find?_eq_bind_findIdx?_getElem?]
  rfl

theorem deleteOne_eq_eraseP :
    ∃ count, Collection.deleteOne docs filter = (.ok count, docs.eraseP test) := by
  unfold Collection.deleteOne
  rw [firstMatch?_eq_findIdx? h, List.eraseP_eq_eraseIdx]
  cases docs.findIdx? test with
  | none => exact ⟨0, rfl⟩
  | some index => exact ⟨1, rfl⟩

theorem deleteMany_eq_filter :
    ∃ count, Collection.deleteMany docs filter =
      (.ok count, docs.filter fun doc ↦ !test doc) :=
  ⟨_, Collection.deleteMany_of_matches h⟩

end

/-! ## Asking for a value -/

/-- Whether a document is kept under a value. -/
def Document.isUnder (id : Bson) (doc : Document) : Bool :=
  (Fields.get? identityField doc).any fun key ↦ fieldEquals (some key) id

/-- A document is kept under a value with an identity exactly if it has this identity. -/
theorem Document.isUnder_eq {id : Bson} {k : Identity} (hid : id.identity? = some k)
    (doc : Document) : doc.isUnder id = decide (doc.identity? = some k) := by
  unfold Document.isUnder Document.identity?
  cases Fields.get? identityField doc with
  | none => rfl
  | some key =>
    change fieldEquals (some key) id = decide (key.identity? = some k)
    cases hkey : key.identity? with
    | some j =>
      rw [fieldEquals_identity hkey hid]
      simp
    | none =>
      have hne : key.compare? id ≠ some .eq := by
        intro heq
        rw [Bson.identity?_of_compare? hid heq] at hkey
        cases hkey
      simpa [fieldEquals] using hne

/-- Null is the value of a missing field, too; any other value is only that of a field. -/
theorem fieldEquals_eq_isUnder {doc : Document} {id : Bson}
    (hdoc : id ≠ .null ∨ (Fields.get? identityField doc).isSome = true) :
    fieldEquals (Fields.get? identityField doc) id = doc.isUnder id := by
  rw [Document.isUnder]
  cases hkey : Fields.get? identityField doc with
  | some key => rfl
  | none =>
    have hnull : id ≠ .null := hdoc.resolve_right (by simp [hkey])
    cases id with
    | null => exact absurd rfl hnull
    | _ => rfl

/-- A value that is no document of operators is asked for literally. -/
theorem matches_isUnder {doc : Document} {id : Bson} (hid : isOperatorDocument id = false)
    (hdoc : id ≠ .null ∨ (Fields.get? identityField doc).isSome = true) :
    Document.matches doc [(identityField, id)] = .ok (doc.isUnder id) := by
  rw [matches_single doc (by decide), fieldMatches_of_not_isOperatorDocument _ hid,
    fieldEquals_eq_isUnder hdoc]

/-- The values of a list are asked for literally, each of them. -/
theorem matches_any_isUnder {ids : List Bson} (hids : ∀ id ∈ ids, id ≠ .null) (doc : Document) :
    Document.matches doc [(identityField, .document [("$in", .array ids)])] =
      .ok (ids.any fun id ↦ doc.isUnder id) := by
  have hany : ids.any (fieldEquals (Fields.get? identityField doc)) =
      ids.any fun id ↦ doc.isUnder id := by
    induction ids with
    | nil => rfl
    | cons id rest ih =>
      obtain ⟨hid, hrest⟩ := List.forall_mem_cons.1 hids
      rw [List.any_cons, List.any_cons, fieldEquals_eq_isUnder (.inl hid), ih hrest]
  rw [matches_single doc (by decide), fieldMatches_in, hany]

/-! ## Removing -/

theorem deleteOne_sublist (docs : List Document) (filter : Document) :
    (Collection.deleteOne docs filter).2.Sublist docs := by
  unfold Collection.deleteOne
  split
  · exact List.Sublist.refl docs
  · exact List.eraseIdx_sublist ..
  · exact List.Sublist.refl docs

theorem deleteMany_sublist (docs : List Document) (filter : Document) :
    (Collection.deleteMany docs filter).2.Sublist docs := by
  unfold Collection.deleteMany
  split
  · exact List.Sublist.refl docs
  · exact Collection.retain_sublist ..

/-! ## Saving -/

/-- The documents after a record has been saved under a key, whose first match stands at a place. -/
def savedAt (docs : List Document) (key : Bson) (record : Document) : Option Nat → List Document
  | some index => docs.modify index fun doc ↦ Fields.putAll doc (Fields.put identityField key record)
  | none => docs ++ [Fields.putAll (upsertSeed [(identityField, key)])
      (Fields.put identityField key record)]

/-- A save sets its fields at its place, in a new document if there is none, and changes no other
place. -/
theorem getElem?_savedAt {docs : List Document} {place : Option Nat}
    (hplace : ∀ index, place = some index → index < docs.length) (key : Bson) (record : Document)
    (n : Nat) :
    (savedAt docs key record place)[n]? =
      if place.getD docs.length = n then
        some (Fields.putAll (docs[n]?.getD (upsertSeed [(identityField, key)]))
          (Fields.put identityField key record))
      else docs[n]? := by
  cases place with
  | some index =>
    have hindex := hplace index rfl
    rw [savedAt, List.getElem?_modify, Option.getD_some]
    by_cases hn : index = n
    · subst hn
      simp [hindex]
    · simp [hn]
  | none =>
    rw [savedAt, Option.getD_none, List.getElem?_append]
    by_cases hn : docs.length = n
    · simp [← hn]
    · rw [if_neg hn]
      split
      · rfl
      · rw [List.getElem?_singleton, if_neg (by omega), List.getElem?_eq_none (by omega)]

/-- A saved document has the field that identifies it. -/
theorem isSome_get?_identityField_putAll (doc : Document) (key : Bson) (record : Document) :
    (Fields.get? identityField
      (Fields.putAll doc (Fields.put identityField key record))).isSome = true :=
  Fields.isSome_get?_putAll (.inl (by simp))

section
variable {docs : List Document} {key : Bson}

/-- To save a record changes the first match, or inserts a document. -/
theorem updateOne_saveWrite {place : Option Nat}
    (h : firstMatch? [(identityField, key)] docs = .ok place) (record : Document) :
    ∃ counts, Collection.updateOne docs (saveWrite key record) =
      (.ok counts, savedAt docs key record place) := by
  have happly (doc : Document) : applyUpdate doc (saveWrite key record).update =
      { doc := Fields.putAll doc (Fields.put identityField key record), error := none } := rfl
  have hmatch : firstMatch? (saveWrite key record).filter docs = .ok place := h
  unfold Collection.updateOne
  rw [hmatch]
  cases place with
  | some index =>
    simp only [Collection.updateAt, happly, savedAt, List.modify_eq_set]
    exact ⟨_, rfl⟩
  | none =>
    have hupsert : (saveWrite key record).upsert = true := rfl
    simp only [hupsert, if_true, Collection.insertSeed, happly]
    exact ⟨_, rfl⟩

theorem updateOne_saveWrite_of_error {e : StoreError}
    (h : firstMatch? [(identityField, key)] docs = .error e) (record : Document) :
    Collection.updateOne docs (saveWrite key record) = (.error e, docs) := by
  have hmatch : firstMatch? (saveWrite key record).filter docs = .error e := h
  unfold Collection.updateOne
  rw [hmatch]

end

end DocQuery
