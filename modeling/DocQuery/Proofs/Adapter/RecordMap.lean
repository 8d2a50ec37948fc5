import DocQuery.Adapter.Basic
import DocQuery.Proofs.Fields.Writing
import DocQuery.Proofs.Store.Identity
import DocQuery.Proofs.Store.Removal

/-!
# Collections as Maps

A collection that an adapter keeps is a map from identities to documents, in the order in which the
identities were first stored.  To save a record under an identity that is known overwrites the fields
of its document, in its place; under a new identity it appends a document, which starts with the field
`_id`.

Each command of a collection that an adapter uses does to the documents what the operation of the map
does to its entries.  What makes this go through is `RecordMap.IsValid`: every document has the identity
that it is kept under, and no identity is kept twice.  Every operation preserves it.
-/

namespace DocQuery

/-- The identity of a document, which is that of its field `_id`. -/
def Document.identity? (doc : Document) : Option Identity :=
  (Fields.get? identityField doc).bind Bson.identity?

/-- A document to which a record has been saved has the identity of the key. -/
theorem Document.identity?_putAll {record : Document} (hrecord : Fields.Distinct record) (key : Bson)
    (old : Document) :
    Document.identity? (Fields.putAll old (Fields.put identityField key record)) =
      key.identity? := by
  have hget : Fields.get? identityField
      (Fields.putAll old (Fields.put identityField key record)) = some key := by
    rw [Fields.get?_putAll _ (hrecord.put identityField key), Fields.get?_put_self]
    rfl
  rw [Document.identity?, hget]
  rfl

/-- Documents by their identities, in the order in which they were first stored. -/
abbrev RecordMap := List (Identity × Document)

namespace RecordMap

/-! ## Operations -/

/-- Saves a record under a key. -/
def save (entries : RecordMap) (key : Bson) (record : Document) : RecordMap :=
  match key.identity? with
  | none => entries
  | some k =>
    match Fields.get? k entries with
    | some old =>
      Fields.put k (Fields.overwrite old (Fields.put identityField key record)) entries
    | none => entries ++ [(k, (identityField, key) :: withoutIdentity record)]

/-- Saves several records in turn. -/
def saveAll (entries : RecordMap) (records : List (Bson × Document)) : RecordMap :=
  records.foldl (fun acc entry ↦ acc.save entry.1 entry.2) entries

/-- Removes the document with the identity of a value. -/
def delete (entries : RecordMap) (id : Bson) : RecordMap :=
  entries.filter fun entry ↦ some entry.1 ≠ id.identity?

/-- Removes the documents with the identity of one of several values. -/
def deleteAll (entries : RecordMap) (ids : List Bson) : RecordMap :=
  entries.filter fun entry ↦ some entry.1 ∉ ids.map Bson.identity?

/-- The document with the identity of a value. -/
def find? (entries : RecordMap) (id : Bson) : Option Document :=
  id.identity?.bind fun k ↦ Fields.get? k entries

/-! ## Valid maps -/

/-- Whether every document is kept under its identity, and under one only. -/
structure IsValid (entries : RecordMap) : Prop where
  /-- Every document has the identity that it is kept under. -/
  identity : ∀ entry ∈ entries, entry.2.identity? = some entry.1
  /-- No identity is kept twice. -/
  distinct : Fields.Distinct entries
  /-- No document holds a name twice. -/
  fields : ∀ entry ∈ entries, Fields.Distinct entry.2

theorem isValid_nil : IsValid [] where
  identity := fun entry h ↦ absurd h (by simp)
  distinct := List.nodup_nil
  fields := fun entry h ↦ absurd h (by simp)

/-- A part of a valid map is valid. -/
theorem IsValid.filter {entries : RecordMap} (h : entries.IsValid) (p : Identity × Document → Bool) :
    IsValid (entries.filter p) where
  identity := fun entry hentry ↦ h.identity entry (List.mem_filter.1 hentry).1
  distinct := (List.filter_sublist.map _).nodup h.distinct
  fields := fun entry hentry ↦ h.fields entry (List.mem_filter.1 hentry).1

theorem IsValid.put {entries : RecordMap} (h : entries.IsValid) {k : Identity} {doc : Document}
    (hdoc : doc.identity? = some k) (hfields : Fields.Distinct doc) :
    IsValid (Fields.put k doc entries) where
  identity := fun entry hentry ↦ by
    rcases Fields.mem_put hentry with rfl | hentry
    · exact hdoc
    · exact h.identity entry hentry
  distinct := h.distinct.put k doc
  fields := fun entry hentry ↦ by
    rcases Fields.mem_put hentry with rfl | hentry
    · exact hfields
    · exact h.fields entry hentry

/-- Two documents of a valid map are equal to a store in the field that identifies them only if they
are one document. -/
theorem IsValid.values_pairwise {entries : RecordMap} (h : entries.IsValid) :
    (Fields.values entries).Pairwise fun x y ↦ ∀ a b, Fields.get? identityField x = some a →
      Fields.get? identityField y = some b → fieldEquals (some a) b = false := by
  have hpairs : entries.Pairwise fun x y ↦ x.1 ≠ y.1 := List.pairwise_map.1 h.distinct
  refine List.pairwise_map.2 (hpairs.imp_of_mem ?_)
  intro x y hx hy hne a b ha hb
  have hj := h.identity x hx
  have hk := h.identity y hy
  rw [Document.identity?, ha] at hj
  rw [Document.identity?, hb] at hk
  rw [fieldEquals_identity hj hk, decide_eq_false hne]

/-! ## Saved documents -/

section
variable {key : Bson} {k : Identity} (hkey : key.identity? = some k)
variable {record : Document} (hrecord : Fields.Distinct record)

include hrecord in
/-- What an update makes of a document that is there. -/
theorem putAll_stored {old : Document} (hold : Fields.Distinct old) :
    Fields.putAll old (Fields.put identityField key record) =
      Fields.overwrite old (Fields.put identityField key record) :=
  Fields.putAll_eq_overwrite hold (hrecord.put identityField key)

include hrecord in
/-- What an update makes of the document that a new identity starts from. -/
theorem putAll_seed :
    Fields.putAll [(identityField, key)] (Fields.put identityField key record) =
      (identityField, key) :: withoutIdentity record := by
  have hseed : Fields.Distinct [(identityField, key)] := Fields.distinct_singleton _
  have hothers : (Fields.put identityField key record).filter
      (fun field ↦ field.1 ∉ Fields.names [(identityField, key)]) = withoutIdentity record := by
    rw [withoutIdentity, ← Fields.erase_put_self identityField key record]
    simp [Fields.erase, Fields.names]
  rw [Fields.putAll_eq_overwrite hseed (hrecord.put identityField key), Fields.overwrite, hothers]
  simp

include hkey hrecord in
theorem identity?_putAll (old : Document) :
    Document.identity? (Fields.putAll old (Fields.put identityField key record)) = some k :=
  (Document.identity?_putAll hrecord key old).trans hkey

include hkey in
theorem save_of_get?_eq_some {entries : RecordMap} {old : Document}
    (hold : Fields.get? k entries = some old) :
    entries.save key record =
      Fields.put k (Fields.overwrite old (Fields.put identityField key record)) entries := by
  unfold save
  simp only [hkey, hold]

include hkey in
theorem save_of_get?_eq_none {entries : RecordMap} (hnone : Fields.get? k entries = none) :
    entries.save key record =
      Fields.put k ((identityField, key) :: withoutIdentity record) entries := by
  have hnew : k ∉ Fields.names entries := (Fields.get?_eq_none_iff k entries).1 hnone
  unfold save
  simp only [hkey, hnone]
  exact (Fields.put_of_not_mem hnew _).symm

include hkey hrecord in
/-- Saving a record preserves valid maps. -/
theorem IsValid.save {entries : RecordMap} (h : entries.IsValid) :
    IsValid (entries.save key record) := by
  cases hget : Fields.get? k entries with
  | some old =>
    have hold := h.fields _ (Fields.mem_of_get? hget)
    rw [save_of_get?_eq_some hkey hget, ← putAll_stored hrecord hold]
    exact h.put (identity?_putAll hkey hrecord old) (hold.putAll _)
  | none =>
    have hseed : Fields.Distinct [(identityField, key)] := Fields.distinct_singleton _
    rw [save_of_get?_eq_none hkey hget, ← putAll_seed hrecord]
    exact h.put (identity?_putAll hkey hrecord _) (hseed.putAll _)

end

end RecordMap

/-! ## Commands of a collection -/

section
variable {doc : Document} {j : Identity} (hdoc : doc.identity? = some j)
include hdoc

theorem matches_identity {key : Bson} {k : Identity} (hkey : key.identity? = some k) :
    Document.matches doc [(identityField, key)] = .ok (decide (j = k)) := by
  obtain ⟨b, hget, hb⟩ := Option.bind_eq_some_iff.1 hdoc
  rw [matches_single doc (by decide), hget, fieldMatches_identity hb hkey]

theorem matches_among {ids : List Bson} (hids : ∀ id ∈ ids, ∃ k, id.identity? = some k) :
    Document.matches doc [(identityField, .document [("$in", .array ids)])] =
      .ok (decide (some j ∈ ids.map Bson.identity?)) := by
  obtain ⟨b, hget, hb⟩ := Option.bind_eq_some_iff.1 hdoc
  rw [matches_single doc (by decide), hget, fieldMatches_among hb hids]

end

/-- A document that is inserted under a key with an identity starts with the key. -/
theorem upsertSeed_of_identity {key : Bson} {k : Identity} (hkey : key.identity? = some k) :
    upsertSeed [(identityField, key)] = [(identityField, key)] := by
  have hplain := Bson.isOperatorDocument_of_identity? hkey
  have hname : isOperatorName identityField = false := by decide
  simp [upsertSeed, hplain, hname, Fields.putAll, Fields.put]

namespace RecordMap

section
variable {entries : RecordMap} (hentries : entries.IsValid)
variable {key : Bson} {k : Identity} (hkey : key.identity? = some k)
include hentries hkey

/-- The first document that a key selects stands at the place of its identity. -/
theorem firstMatch?_values :
    firstMatch? [(identityField, key)] (Fields.values entries) =
      .ok (Fields.position? k entries) := by
  have hidentity := hentries.identity
  clear hentries
  induction entries with
  | nil => rfl
  | cons entry rest ih =>
    have hrest := ih fun entry hentry ↦ hidentity entry (List.mem_cons_of_mem _ hentry)
    have hfirst := matches_identity (hidentity entry (List.mem_cons_self ..)) hkey
    rw [Fields.values_cons, firstMatch?_cons, hfirst, hrest, Fields.position?_cons]
    by_cases h : entry.1 = k
    · rw [if_pos h, decide_eq_true h]
      rfl
    · rw [if_neg h, decide_eq_false h]
      rfl

theorem findOne_values :
    Collection.findOne (Fields.values entries) [(identityField, key)] =
      .ok (entries.find? key) := by
  rw [Collection.findOne, firstMatch?_values hentries hkey, find?, hkey]
  cases hplace : Fields.position? k entries with
  | none =>
    rw [Option.bind_some, Fields.get?_of_position?_eq_none hplace]
    rfl
  | some index =>
    obtain ⟨old, hget, hat⟩ := Fields.get?_of_position? hplace
    rw [Option.bind_some, hget, ← hat]
    rfl

/-- Updating the first document of a key, or inserting one, saves the record. -/
theorem updateOne_values {record : Document} (hrecord : Fields.Distinct record) :
    ∃ counts, Collection.updateOne (Fields.values entries) (saveWrite key record) =
      (.ok counts, Fields.values (entries.save key record)) := by
  have happly (old : Document) : applyUpdate old (saveWrite key record).update =
      { doc := Fields.putAll old (Fields.put identityField key record), error := none } := rfl
  have hfind : firstMatch? (saveWrite key record).filter (Fields.values entries) =
      .ok (Fields.position? k entries) := firstMatch?_values hentries hkey
  unfold Collection.updateOne
  rw [hfind]
  cases hplace : Fields.position? k entries with
  | some index =>
    obtain ⟨old, hget, hat⟩ := Fields.get?_of_position? hplace
    have hold := hentries.fields _ (Fields.mem_of_get? hget)
    simp only [Collection.updateAt, hat, Option.getD_some, happly]
    rw [save_of_get?_eq_some hkey hget, Fields.values_put hplace, putAll_stored hrecord hold]
    exact ⟨_, rfl⟩
  | none =>
    have hget := Fields.get?_of_position?_eq_none hplace
    have hseed : upsertSeed (saveWrite key record).filter = [(identityField, key)] :=
      upsertSeed_of_identity hkey
    have hnew : k ∉ Fields.names entries := (Fields.get?_eq_none_iff k entries).1 hget
    have hupsert : (saveWrite key record).upsert = true := rfl
    simp only [hupsert, if_true, Collection.insertSeed, hseed, happly]
    rw [save_of_get?_eq_none hkey hget, Fields.put_of_not_mem hnew, putAll_seed hrecord,
      Fields.values_append]
    exact ⟨_, rfl⟩

theorem deleteOne_values :
    ∃ count, Collection.deleteOne (Fields.values entries) [(identityField, key)] =
      (.ok count, Fields.values (entries.delete key)) := by
  have herase : entries.delete key = Fields.erase k entries := by
    unfold delete Fields.erase
    rw [hkey]
    simp only [Option.some.injEq, ne_eq]
  rw [herase]
  unfold Collection.deleteOne
  rw [firstMatch?_values hentries hkey]
  cases hplace : Fields.position? k entries with
  | none =>
    rw [Fields.erase_of_position?_eq_none hplace]
    exact ⟨0, rfl⟩
  | some index =>
    rw [Fields.values_erase hentries.distinct hplace]
    exact ⟨1, rfl⟩

end

/-- Whether a record can be saved under a key. -/
def IsSavable (entry : Bson × Document) : Prop :=
  entry.1.IsKey ∧ Fields.Distinct entry.2

theorem IsValid.saveAll {entries : RecordMap} (h : entries.IsValid)
    {records : List (Bson × Document)} (hrecords : ∀ entry ∈ records, IsSavable entry) :
    IsValid (entries.saveAll records) := by
  induction records generalizing entries with
  | nil => exact h
  | cons entry rest ih =>
    obtain ⟨hkey, hrecord⟩ := hrecords entry (List.mem_cons_self ..)
    obtain ⟨k, hk⟩ := hkey.exists_identity
    exact ih (h.save hk hrecord) fun entry hentry ↦ hrecords entry (List.mem_cons_of_mem _ hentry)

/-- Updates in turn save the records in turn. -/
theorem bulkWriteFrom_values {entries : RecordMap} (hentries : entries.IsValid)
    {records : List (Bson × Document)} (hrecords : ∀ entry ∈ records, IsSavable entry)
    (total : BulkCounts) :
    ∃ counts, Collection.bulkWriteFrom total (Fields.values entries)
        (records.map fun entry ↦ saveWrite entry.1 entry.2) =
      (.ok counts, Fields.values (entries.saveAll records)) := by
  induction records generalizing entries total with
  | nil => exact ⟨total, rfl⟩
  | cons entry rest ih =>
    obtain ⟨hkey, hrecord⟩ := hrecords entry (List.mem_cons_self ..)
    obtain ⟨k, hk⟩ := hkey.exists_identity
    obtain ⟨counts, hwrite⟩ := updateOne_values hentries hk hrecord
    rw [List.map_cons, Collection.bulkWriteFrom, hwrite]
    exact ih (hentries.save hk hrecord)
      (fun entry hentry ↦ hrecords entry (List.mem_cons_of_mem _ hentry)) (total.add counts)

theorem deleteMany_values {entries : RecordMap} (hentries : entries.IsValid) {ids : List Bson}
    (hids : ∀ id ∈ ids, ∃ k, id.identity? = some k) :
    ∃ count, Collection.deleteMany (Fields.values entries)
        [(identityField, .document [("$in", .array ids)])] =
      (.ok count, Fields.values (entries.deleteAll ids)) := by
  let test (doc : Document) : Bool := decide (doc.identity? ∈ ids.map Bson.identity?)
  have htest : ∀ doc ∈ Fields.values entries,
      Document.matches doc [(identityField, .document [("$in", .array ids)])] = .ok (test doc) := by
    intro doc hdoc
    obtain ⟨entry, hentry, rfl⟩ := List.mem_map.1 hdoc
    have hidentity := hentries.identity entry hentry
    rw [matches_among hidentity hids]
    simp only [test, hidentity]
  have hleft : (Fields.values entries).filter (fun doc ↦ !test doc) =
      Fields.values (entries.deleteAll ids) := by
    unfold Fields.values deleteAll
    rw [List.filter_map]
    congr 1
    refine List.filter_congr fun entry hentry ↦ ?_
    simp only [Function.comp_apply, test, hentries.identity entry hentry, decide_not]
  rw [Collection.deleteMany_of_matches htest, hleft]
  exact ⟨_, rfl⟩

end RecordMap

end DocQuery
