import DocQuery.Proofs.Adapter.SavedKey

/-!
# Records Saved in Turn

A record is saved at the place of its key: where the first document stands that is kept under the key, or
at the end.  A key that has a place keeps it through all later saves, whatever they write, since a save
sets the identity that it has looked for.  So every document is what the records with its place have made
of it, one after the other.

`HasSaved` says this of a list of documents and the records that have been saved in it; one save preserves
it, and hence any number.  Two things follow.  The last record that is saved under a key stands in its
document with all its fields.  And to save the same records again changes nothing: on the way the documents
may differ from what they were, but each record sets the same fields of the same document as before.
-/

namespace DocQuery

open RecordMap (IsSavable)

/-! ## Identities -/

/-- The identities of documents, in order. -/
def identities (docs : List Document) : List (Option Identity) := docs.map Document.identity?

/-- The place of a key is that of the first document with its identity. -/
theorem findIdx?_isUnder {key : Bson} {k : Identity} (hkey : key.identity? = some k)
    (docs : List Document) :
    docs.findIdx? (Document.isUnder key) = (identities docs).findIdx? fun id ↦ id = some k := by
  have htest : Document.isUnder key = (fun id ↦ decide (id = some k)) ∘ Document.identity? := by
    funext doc
    exact Document.isUnder_eq hkey doc
  rw [identities, List.findIdx?_map, htest]

/-- A save sets the identity of its place to that of the key. -/
theorem identities_savedAt {record : Document} (hrecord : Fields.Distinct record) (key : Bson)
    (docs : List Document) (place : Option Nat) :
    identities (savedAt docs key record place) =
      match place with
      | some index => (identities docs).set index key.identity?
      | none => identities docs ++ [key.identity?] := by
  have hidentity := Document.identity?_putAll hrecord key
  cases place with
  | some index =>
    apply List.ext_getElem?
    intro n
    rw [savedAt, identities, identities, List.getElem?_map, List.getElem?_modify, List.getElem?_set,
      List.getElem?_map]
    by_cases h : index = n
    · subst h
      cases hdoc : docs[index]? with
      | none => simp [List.getElem?_eq_none_iff.1 hdoc]
      | some doc => simp [hidentity, (List.getElem?_eq_some_iff.1 hdoc).1]
    · simp [h]
  | none => simp [savedAt, identities, hidentity]

/-- Under a key with an identity, a save sets the identity that it has looked for. -/
theorem identities_savedAt_of_identity {key : Bson} {k : Identity} (hkey : key.identity? = some k)
    {record : Document} (hrecord : Fields.Distinct record) (docs : List Document) :
    identities (savedAt docs key record (docs.findIdx? (Document.isUnder key))) =
      if some k ∈ identities docs then identities docs else identities docs ++ [some k] := by
  rw [identities_savedAt hrecord, findIdx?_isUnder hkey, hkey]
  cases hplace : (identities docs).findIdx? fun id ↦ id = some k with
  | some index =>
    obtain ⟨hindex, hat, -⟩ := List.findIdx?_eq_some_iff_getElem.1 hplace
    have hsame : (identities docs)[index] = some k := of_decide_eq_true hat
    rw [if_pos (hsame ▸ List.getElem_mem hindex)]
    dsimp only
    rw [← hsame, List.set_getElem_self]
  | none =>
    have hnew : some k ∉ identities docs := by
      intro hmem
      have hnot := List.findIdx?_eq_none_iff.1 hplace _ hmem
      simp at hnot
    rw [if_neg hnew]

/-! ## One record -/

/-- The place at which a record is saved under a key. -/
def savePlace (docs : List Document) (key : Bson) : Nat :=
  (docs.findIdx? (Document.isUnder key)).getD docs.length

/-- The documents after a record has been saved under a key that is asked for as it stands. -/
def saveUnder (docs : List Document) (entry : Bson × Document) : List Document :=
  savedAt docs entry.1 entry.2 (docs.findIdx? (Document.isUnder entry.1))

section
variable (docs : List Document) {entry : Bson × Document}

theorem getElem?_saveUnder (entry : Bson × Document) (n : Nat) :
    (saveUnder docs entry)[n]? =
      if savePlace docs entry.1 = n then
        some (Fields.putAll (docs[n]?.getD (upsertSeed [(identityField, entry.1)]))
          (Fields.put identityField entry.1 entry.2))
      else docs[n]? :=
  getElem?_savedAt (fun _ h ↦ (List.findIdx?_eq_some_iff_findIdx_eq.1 h).1) entry.1 entry.2 n

variable (hentry : IsSavable entry)
include hentry

/-- A save keeps the identities that are there. -/
theorem identities_saveUnder :
    ∃ new, identities (saveUnder docs entry) = identities docs ++ new := by
  obtain ⟨hkey, hrecord⟩ := hentry
  obtain ⟨k, hk⟩ := hkey.exists_identity
  rw [saveUnder, identities_savedAt_of_identity hk hrecord]
  split
  · exact ⟨[], (List.append_nil _).symm⟩
  · exact ⟨_, rfl⟩

/-- A key keeps its place. -/
theorem findIdx?_saveUnder {key : Bson} (hkey : key.IsKey) {n : Nat}
    (h : docs.findIdx? (Document.isUnder key) = some n) :
    (saveUnder docs entry).findIdx? (Document.isUnder key) = some n := by
  obtain ⟨k, hk⟩ := hkey.exists_identity
  obtain ⟨new, hnew⟩ := identities_saveUnder docs hentry
  rw [findIdx?_isUnder hk] at h ⊢
  rw [hnew, List.findIdx?_append, h]
  rfl

/-- The key of a record that is saved has the place where it is saved. -/
theorem findIdx?_saveUnder_self :
    (saveUnder docs entry).findIdx? (Document.isUnder entry.1) = some (savePlace docs entry.1) := by
  unfold savePlace
  cases hplace : docs.findIdx? (Document.isUnder entry.1) with
  | some index => exact findIdx?_saveUnder docs hentry hentry.1 hplace
  | none =>
    have hunder := isUnder_putAll hentry.1 hentry.2 (upsertSeed [(identityField, entry.1)])
    rw [saveUnder, hplace, savedAt, List.findIdx?_append, hplace, List.findIdx?_cons, hunder]
    simp

end

/-! ## Fields by places -/

/-- The fields that records set in the document at a place, in turn. -/
def fieldsAt (docs : List Document) (entries : List (Bson × Document)) (n : Nat) : Document :=
  (entries.filter fun entry ↦ docs.findIdx? (Document.isUnder entry.1) = some n).flatMap fun entry ↦
    Fields.put identityField entry.1 entry.2

section
variable {docs : List Document} {entries : List (Bson × Document)} {n : Nat}

theorem fieldsAt_append (docs : List Document) (entries others : List (Bson × Document)) (n : Nat) :
    fieldsAt docs (entries ++ others) n = fieldsAt docs entries n ++ fieldsAt docs others n := by
  rw [fieldsAt, List.filter_append, List.flatMap_append]
  rfl

theorem fieldsAt_cons (docs : List Document) (entry : Bson × Document)
    (rest : List (Bson × Document)) (n : Nat) :
    fieldsAt docs (entry :: rest) n =
      (if docs.findIdx? (Document.isUnder entry.1) = some n then
        Fields.put identityField entry.1 entry.2
      else []) ++ fieldsAt docs rest n := by
  rw [fieldsAt, List.filter_cons]
  by_cases h : docs.findIdx? (Document.isUnder entry.1) = some n
  · simp [h, fieldsAt]
  · simp [h, fieldsAt]

theorem fieldsAt_eq_nil (h : ∀ entry ∈ entries, docs.findIdx? (Document.isUnder entry.1) ≠ some n) :
    fieldsAt docs entries n = [] := by
  have hnone : (entries.filter fun entry ↦
      docs.findIdx? (Document.isUnder entry.1) = some n) = [] :=
    List.filter_eq_nil_iff.2 (by simpa using h)
  rw [fieldsAt, hnone]
  rfl

/-- Whether the keys of all records have places. -/
def AllPlaced (docs : List Document) (entries : List (Bson × Document)) : Prop :=
  ∀ entry ∈ entries, ∃ n, docs.findIdx? (Document.isUnder entry.1) = some n

/-- Records with places have them after a save and set their fields there. -/
theorem AllPlaced.saveUnder (h : AllPlaced docs entries) (hentries : ∀ entry ∈ entries, IsSavable entry)
    {entry : Bson × Document} (hentry : IsSavable entry) :
    AllPlaced (saveUnder docs entry) entries ∧
      ∀ n, fieldsAt (saveUnder docs entry) entries n = fieldsAt docs entries n := by
  have hsame : ∀ other ∈ entries, (DocQuery.saveUnder docs entry).findIdx?
      (Document.isUnder other.1) = docs.findIdx? (Document.isUnder other.1) := by
    intro other hother
    obtain ⟨n, hn⟩ := h other hother
    rw [hn, findIdx?_saveUnder docs hentry (hentries other hother).1 hn]
  constructor
  · intro other hother
    rw [hsame other hother]
    exact h other hother
  · intro n
    unfold fieldsAt
    rw [List.filter_congr fun other hother ↦ by rw [hsame other hother]]

end

/-! ## Several records -/

/-- The documents after several records have been saved in turn. -/
def saveAllUnder (docs : List Document) (entries : List (Bson × Document)) : List Document :=
  entries.foldl saveUnder docs

/-- Whether a list of documents holds what records have saved in it: every key has a place, and every
document is what the records with its place have made of some document. -/
structure HasSaved (docs : List Document) (entries : List (Bson × Document)) : Prop where
  placed : AllPlaced docs entries
  written : ∀ n doc, docs[n]? = some doc → ∃ old, doc = Fields.putAll old (fieldsAt docs entries n)

section
variable {docs : List Document} {entries : List (Bson × Document)}

theorem hasSaved_nil (docs : List Document) : HasSaved docs [] where
  placed := fun entry h ↦ absurd h (by simp)
  written := fun n doc _ ↦ ⟨doc, rfl⟩

theorem HasSaved.saveUnder (h : HasSaved docs entries) (hentries : ∀ entry ∈ entries, IsSavable entry)
    {entry : Bson × Document} (hentry : IsSavable entry) :
    HasSaved (saveUnder docs entry) (entries ++ [entry]) := by
  obtain ⟨hplaced, hfields⟩ := h.placed.saveUnder hentries hentry
  have hself := findIdx?_saveUnder_self docs hentry
  constructor
  · intro other hother
    rcases List.mem_append.1 hother with hother | hother
    · exact hplaced other hother
    · obtain rfl := List.mem_singleton.1 hother
      exact ⟨_, hself⟩
  · intro n doc hdoc
    have hnew : fieldsAt (DocQuery.saveUnder docs entry) [entry] n =
        if savePlace docs entry.1 = n then Fields.put identityField entry.1 entry.2 else [] := by
      rw [fieldsAt_cons, hself]
      simp [fieldsAt]
    rw [getElem?_saveUnder] at hdoc
    rw [fieldsAt_append, hfields, hnew]
    split at hdoc
    · rename_i hn
      obtain rfl := Option.some.inj hdoc
      simp only [if_pos hn, Fields.putAll_append]
      cases hold : docs[n]? with
      | some old =>
        obtain ⟨first, rfl⟩ := h.written n old hold
        exact ⟨first, rfl⟩
      | none =>
        -- no record that was saved before has a place behind the end
        have hnone : fieldsAt docs entries n = [] := by
          refine fieldsAt_eq_nil fun other _ hother ↦ ?_
          obtain ⟨hlt, -⟩ := List.findIdx?_eq_some_iff_getElem.1 hother
          exact absurd (List.getElem?_eq_none_iff.1 hold) (Nat.not_le.2 hlt)
        rw [hnone]
        exact ⟨_, rfl⟩
    · rename_i hn
      rw [if_neg hn, List.append_nil]
      exact h.written n doc hdoc

theorem HasSaved.saveAllUnder (h : HasSaved docs entries) {others : List (Bson × Document)}
    (hall : ∀ entry ∈ entries ++ others, IsSavable entry) :
    HasSaved (saveAllUnder docs others) (entries ++ others) := by
  induction others generalizing docs entries with
  | nil => rwa [List.append_nil]
  | cons entry rest ih =>
    have hentries : ∀ other ∈ entries, IsSavable other :=
      fun other hother ↦ hall other (List.mem_append_left _ hother)
    have hentry : IsSavable entry :=
      hall entry (List.mem_append_right _ (List.mem_cons_self ..))
    rw [List.append_cons] at hall ⊢
    exact ih (h.saveUnder hentries hentry) hall

/-- Records that have been saved in turn stand in the documents. -/
theorem hasSaved_saveAllUnder (docs : List Document) (hentries : ∀ entry ∈ entries, IsSavable entry) :
    HasSaved (saveAllUnder docs entries) entries :=
  (hasSaved_nil docs).saveAllUnder hentries

/-- All fields of the last record that has been saved under a key stand in the document kept under it. -/
theorem HasSaved.subset_find? {before rest : List (Bson × Document)} {entry : Bson × Document}
    (h : HasSaved docs (before ++ entry :: rest)) (hentry : IsSavable entry)
    (hrest : ∀ later ∈ rest, later.1.IsKey ∧ fieldEquals (some later.1) entry.1 = false) :
    ∃ doc, docs.find? (Document.isUnder entry.1) = some doc ∧
      Fields.put identityField entry.1 entry.2 ⊆ doc := by
  obtain ⟨k, hk⟩ := hentry.1.exists_identity
  obtain ⟨n, hn⟩ := h.placed entry (by simp)
  obtain ⟨hlt, hunder, -⟩ := List.findIdx?_eq_some_iff_getElem.1 hn
  have hidentity : docs[n].identity? = some k := by
    rw [Document.isUnder_eq hk] at hunder
    exact of_decide_eq_true hunder
  have hlater : fieldsAt docs rest n = [] := by
    refine fieldsAt_eq_nil fun later hlater hplace ↦ ?_
    obtain ⟨hkey, hne⟩ := hrest later hlater
    obtain ⟨j, hj⟩ := hkey.exists_identity
    obtain ⟨_, hsame, -⟩ := List.findIdx?_eq_some_iff_getElem.1 hplace
    rw [Document.isUnder_eq hj, hidentity] at hsame
    rw [fieldEquals_identity hj hk, Option.some.inj (of_decide_eq_true hsame)] at hne
    simp at hne
  obtain ⟨old, hold⟩ := h.written n docs[n] (List.getElem?_eq_getElem hlt)
  refine ⟨docs[n], ?_, ?_⟩
  · rw [List.find?_eq_bind_findIdx?_getElem?, hn, Option.bind_some, List.getElem?_eq_getElem hlt]
  · rw [fieldsAt_append, fieldsAt_cons, if_pos hn, hlater, List.append_nil, Fields.putAll_append] at hold
    rw [hold]
    exact Fields.subset_putAll _ (hentry.2.put identityField entry.1)

/-! ## Records saved again -/

/-- Records with places set their fields there, and nothing else changes. -/
theorem getElem?_saveAllUnder (hplaced : AllPlaced docs entries)
    (hentries : ∀ entry ∈ entries, IsSavable entry) (n : Nat) :
    (saveAllUnder docs entries)[n]? =
      docs[n]?.map fun doc ↦ Fields.putAll doc (fieldsAt docs entries n) := by
  induction entries generalizing docs with
  | nil => exact Option.map_id'.symm
  | cons entry rest ih =>
    obtain ⟨hentry, hrest⟩ := List.forall_mem_cons.1 hentries
    obtain ⟨⟨place, hplace⟩, hplaces⟩ := List.forall_mem_cons.1 hplaced
    obtain ⟨hkept, hfields⟩ := AllPlaced.saveUnder hplaces hrest hentry
    obtain ⟨hlt, -⟩ := List.findIdx?_eq_some_iff_getElem.1 hplace
    change (saveAllUnder (saveUnder docs entry) rest)[n]? = _
    rw [ih hkept hrest, hfields, getElem?_saveUnder, fieldsAt_cons, savePlace, hplace, Option.getD_some]
    by_cases hn : place = n
    · subst hn
      simp [hlt, Fields.putAll_append]
    · simp [hn]

/-- To save records again changes nothing. -/
theorem HasSaved.saveAllUnder_eq (h : HasSaved docs entries)
    (hentries : ∀ entry ∈ entries, IsSavable entry) : DocQuery.saveAllUnder docs entries = docs := by
  apply List.ext_getElem?
  intro n
  rw [getElem?_saveAllUnder h.placed hentries]
  cases hdoc : docs[n]? with
  | none => rfl
  | some doc =>
    obtain ⟨old, rfl⟩ := h.written n doc hdoc
    rw [Option.map_some, Fields.putAll_putAll_self]

/-! ## Batches -/

/-- Updates one after the other save their records in turn. -/
theorem bulkWriteFrom_saveWrite (hentries : ∀ entry ∈ entries, IsSavable entry) (docs : List Document)
    (total : BulkCounts) :
    ∃ counts, Collection.bulkWriteFrom total docs
        (entries.map fun entry ↦ saveWrite entry.1 entry.2) =
      (.ok counts, saveAllUnder docs entries) := by
  induction entries generalizing docs total with
  | nil => exact ⟨total, rfl⟩
  | cons entry rest ih =>
    obtain ⟨⟨hkey, -⟩, hrest⟩ := List.forall_mem_cons.1 hentries
    have hplace := firstMatch?_eq_findIdx? (matches_eq_isUnder_of_isKey hkey docs)
    obtain ⟨counts, hwrite⟩ := updateOne_saveWrite hplace entry.2
    rw [List.map_cons, Collection.bulkWriteFrom, hwrite]
    exact ih hrest (saveUnder docs entry) (total.add counts)

/-- A batch of instances that can all be saved saves their records in turn. -/
theorem answers_bulkInsert_of_isSavable (a : Adapter) {m : Model} {instances : List Instance}
    (hmixed : (instances.find? fun i ↦ i.model.name ≠ m.name) = none) (hne : instances ≠ [])
    (hpersistable : instances.mapM Instance.persistable = .ok entries)
    (hentries : ∀ entry ∈ entries.map m.stored, IsSavable entry) (store : MemoryStore) :
    Answers (a.bulkInsert m instances) store (.ok ())
      ((store.create (a.collection m)).setDocs (a.collection m)
        (saveAllUnder (store.docs (a.collection m)) (entries.map m.stored))) := by
  obtain ⟨counts, hwrite⟩ := bulkWriteFrom_saveWrite hentries (store.docs (a.collection m)) {}
  have hanswers : Answers
      (Adapter.ask (DocumentStore.bulkWrite (a.collection m)
        ((entries.map m.stored).map fun entry ↦ saveWrite entry.1 entry.2)))
      (store.create (a.collection m)) (.ok counts) _ := .write_create hwrite
  exact answers_bulkInsert_of_writes a hmixed hne hpersistable hanswers

/-- A batch of keyed instances has one answer for all stores and changes none of them, or it saves records
in turn. -/
theorem answers_bulkInsert_cases (a : Adapter) {m : Model} {instances : List Instance}
    (hinstances : ∀ i ∈ instances, i.IsKeyed) :
    (∃ answer, ∀ store, Answers (a.bulkInsert m instances) store answer store) ∨
      ∃ records, (∀ record ∈ records, IsSavable record) ∧
        ∀ store, Answers (a.bulkInsert m instances) store (.ok ())
          ((store.create (a.collection m)).setDocs (a.collection m)
            (saveAllUnder (store.docs (a.collection m)) records)) := by
  cases hmixed : instances.find? fun i ↦ i.model.name ≠ m.name with
  | some other => exact .inl ⟨_, answers_bulkInsert_of_mixed a hmixed⟩
  | none =>
    cases hpersistable : instances.mapM Instance.persistable with
    | error e => exact .inl ⟨_, answers_bulkInsert_of_error a hmixed hpersistable⟩
    | ok entries =>
      by_cases hempty : instances = []
      · subst hempty
        exact .inl ⟨.ok (), fun _ ↦ .pure ()⟩
      · have hrecords := isSavable_of_mapM hinstances m hpersistable
        exact .inr ⟨_, hrecords,
          answers_bulkInsert_of_isSavable a hmixed hempty hpersistable hrecords⟩

end

/-- Two of three tasks have keys that are equal but of different types, and each of the two sets a field
that the other does not. -/
def overlappingBatch : List Instance :=
  [{ model := task, record := [("id", .int32 1), ("name", .string "a"), ("age", .int32 7)] },
    { model := task, record := [("id", .string "x")] },
    { model := task, record := [("id", .double (.ofBits 0x3FF0000000000000)), ("at", .null)] }]

theorem isKeyed_overlappingBatch : ∀ i ∈ overlappingBatch, i.IsKeyed := by
  have hone : (Double.ofBits 0x3FF0000000000000).isFinite = true := by decide
  simp only [overlappingBatch, List.forall_mem_cons, List.not_mem_nil, forall_false, implies_true,
    and_true]
  refine ⟨?_, ?_, ?_⟩
  · exact Instance.isKeyed_of_get? (by decide) rfl (show (Bson.int32 1).IsKey from trivial)
  · exact Instance.isKeyed_of_get? (by decide) rfl (show (Bson.string "x").IsKey from trivial)
  · exact Instance.isKeyed_of_get? (by decide) rfl hone

end DocQuery
