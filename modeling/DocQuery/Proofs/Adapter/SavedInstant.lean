import DocQuery.Proofs.Adapter.SavedRecords
import DocQuery.Proofs.Adapter.TopRecords
import DocQuery.Proofs.Filter.DateBound

/-!
# Bounds on Saved Instants

A text in a field that is declared as an instant is saved as a native date, and a text in a bound is
compiled to one.  Both are read by the same notations and keep the milliseconds.  So a search by a bound
finds a record that has been saved exactly if the milliseconds of the two texts stand in the order that
the bound asks for, in whatever notation, with whatever offset and with whatever fraction they are
written.

The store may hold anything before, and the record may be merged with an older one.
-/

namespace DocQuery

/-! ## The saved document -/

/-- Whether a document is the one that a record has been saved to under a key: it stands in the place of
the save and has the key and all fields of the record. -/
structure IsSavedTo (before after : List Document) (key : Bson) (record doc : Document) : Prop where
  place : after[savePlace before key]? = some doc
  identity : Fields.get? identityField doc = some key
  fields : ∀ name ∈ Fields.names record, name ≠ identityField →
    Fields.get? name doc = Fields.get? name record

theorem IsSavedTo.mem {before after : List Document} {key : Bson} {record doc : Document}
    (h : IsSavedTo before after key record doc) : doc ∈ after :=
  List.mem_of_getElem? h.place

theorem answers_save_isSavedTo {i : Instance} {key : Bson} (hdistinct : Fields.Distinct i.record)
    (hget : Fields.get? i.model.primaryKey i.record = some key) (hkey : isOperatorDocument key = false)
    (hnull : key ≠ .null) (a : Adapter) (store : MemoryStore) :
    ∃ saved doc, Answers (a.save i) store (.ok (i.model.coerce i.record)) saved ∧
      IsSavedTo (store.docs (a.collection i.model)) (saved.docs (a.collection i.model)) key
        (i.model.coerce i.record) doc := by
  let docs := store.docs (a.collection i.model)
  let record := i.model.coerce i.record
  let old := docs[savePlace docs key]?.getD (upsertSeed [(identityField, key)])
  have hrecord : Fields.Distinct (Fields.put identityField key record) :=
    (coerce_distinct i.model hdistinct).put identityField key
  have hplace : firstMatch? [(identityField, key)] docs =
      .ok (docs.findIdx? (Document.isUnder key)) :=
    firstMatch?_eq_findIdx? (matches_eq_isUnder hkey (.inl hnull))
  refine ⟨_, Fields.putAll old (Fields.put identityField key record), answers_save a hget hnull hplace,
    ?_, ?_, fun name hname hne ↦ ?_⟩
  · rw [MemoryStore.docs_setDocs, if_pos rfl]
    exact (getElem?_saveUnder docs (key, record) _).trans (if_pos rfl)
  · rw [Fields.get?_putAll _ hrecord, Fields.get?_put_self]
    rfl
  · obtain ⟨value, hvalue⟩ := Option.isSome_iff_exists.1 ((Fields.get?_isSome_iff name record).2 hname)
    rw [Fields.get?_putAll _ hrecord, Fields.get?_put_of_ne (Ne.symm hne), hvalue]
    rfl

theorem get?_withoutIdentity_of_ne {name : String} (h : name ≠ identityField) (doc : Document) :
    Fields.get? name (withoutIdentity doc) = Fields.get? name doc := by
  rw [withoutIdentity, Fields.get?_erase, if_neg (Ne.symm h)]

/-! ## Searches by a bound -/

/-- A search by a single bound. -/
def DateBound.query (b : DateBound) : Expression := { tokens := [.statement (.bound b)] }

section
variable {a : Adapter} {m : Model} {b : DateBound} {store : MemoryStore}

theorem DateBound.compile_query (b : DateBound) (dates : DateRendering) :
    compile b.query.tokens dates = .ok (.and [b.clause dates]) := by
  rw [compile, compileToken_group]
  rfl

/-- A search by a bound finds the documents of which the bound admits the field. -/
theorem answers_search_bound (hkey : isOperatorName b.key = false) :
    let admitted := (store.docs (a.collection m)).filter fun doc ↦
      b.comparator.holds (Fields.get? b.key doc) (b.operand a.dates)
    Answers (a.search m b.query) store (.ok { instances := admitted.map withoutIdentity })
      (store.create (a.collection m)) := by
  intro admitted
  have hmatches (doc : Document) :
      Document.matches doc (MatchTree.and [b.clause a.dates]).toDocument =
        .ok (b.comparator.holds (Fields.get? b.key doc) (b.operand a.dates)) := by
    rw [matches_and, MatchTree.toDocuments, matchesEvery_cons, entryMatches_document,
      DateBound.clause, MatchTree.toDocument, matches_single doc hkey, fieldMatches_compare]
    cases b.comparator.holds (Fields.get? b.key doc) (b.operand a.dates) <;> rfl
  refine answers_search_of_fetch (b.compile_query a.dates) ?_
  unfold Expression.request
  rw [fetch_find, selectDocuments_eq_filter fun doc _ ↦ hmatches doc]
  rfl

end

/-- A record with a text that names an instant is saved, and found by exactly those bounds that admit the
milliseconds of the instant. -/
theorem saved_instant_found_iff_admitted {a : Adapter} (hdates : a.dates = .native) {i : Instance}
    (hdistinct : Fields.Distinct i.record) {key : Bson}
    (hget : Fields.get? i.model.primaryKey i.record = some key)
    (hkey : isOperatorDocument key = false) (hnull : key ≠ .null) {field : String}
    (hdeclared : (field, .datetime) ∈ i.model.properties) (hfield : field ≠ identityField)
    (hname : isOperatorName field = false) {text : String} {instant : Instant}
    (htext : Fields.get? field i.record = some (.string text))
    (hinstant : Instant.ofText? text = some instant) (store : MemoryStore) :
    ∃ saved doc, Answers (a.save i) store (.ok (i.model.coerce i.record)) saved ∧
      IsSavedTo (store.docs (a.collection i.model)) (saved.docs (a.collection i.model)) key
        (i.model.coerce i.record) doc ∧
      ∀ (b : DateBound) (bound : Instant), b.key = field → b.IsAt bound →
        Document.matches doc (b.clause .native).toDocument =
            .ok (b.admits bound.millis instant.millis) ∧
          ∃ found after, Answers (a.search i.model b.query) saved (.ok found) after ∧
            (withoutIdentity doc ∈ found.instances ↔
              b.admits bound.millis instant.millis = true) := by
  obtain ⟨saved, doc, hsave, hdoc⟩ := answers_save_isSavedTo hdistinct hget hkey hnull a store
  have hcoerced : Fields.get? field (i.model.coerce i.record) = some instant.toBson := by
    rw [Model.get?_coerce, if_pos hdeclared, htext, Option.map_some, coerceInstant_string, hinstant]
    rfl
  have hvalue : Fields.get? field doc = some (.dateTime instant.millis) := by
    rw [hdoc.fields field ((Fields.get?_isSome_iff _ _).1 (by rw [hcoerced]; rfl)) hfield, hcoerced]
    rfl
  refine ⟨saved, doc, hsave, hdoc, fun b bound hb hbound ↦ ?_⟩
  subst hb
  refine ⟨hbound.matches_native hname hvalue, _, _, answers_search_bound hname, ?_⟩
  have hadmits (other : Document) (hother : Fields.get? b.key other = some (.dateTime instant.millis)) :
      b.comparator.holds (Fields.get? b.key other) (b.operand a.dates) =
        b.admits bound.millis instant.millis := by
    rw [hdates, hother, DateBound.holds_comparator (hbound.fieldCompare?_native _)]
  rw [List.mem_map]
  constructor
  · -- what is found may stand for another document, but that one has the same field
    rintro ⟨other, hmem, hsame⟩
    have hother : Fields.get? b.key other = some (.dateTime instant.millis) := by
      have hget := congrArg (Fields.get? b.key) hsame
      rwa [get?_withoutIdentity_of_ne hfield, get?_withoutIdentity_of_ne hfield, hvalue] at hget
    exact hadmits other hother ▸ (List.mem_filter.1 hmem).2
  · intro hadmitted
    exact ⟨doc, List.mem_filter.2 ⟨hdoc.mem, (hadmits doc hvalue).trans hadmitted⟩, rfl⟩

/-- A time of 1912 that is saved with an offset and six digits, over another task of its key, and bounds at
its millisecond that have two digits and no offset.  Only the inclusive one finds it. -/
theorem saved_instant_found_iff_admitted_1912 :
    let a : Adapter := {}
    let m := task.withProperty "at" .datetime
    let i : Instance := { model := m, record :=
      [("id", .string "1"), ("at", .string "1912-06-23T00:30:00.250999+01:00")] }
    let store := savedTasks [[("id", .string "1"), ("at", .string "1912"), ("name", .string "a")]]
    let b : DateBound := { side := .before, key := "at", date := .string "1912-06-22T23:30:00.25" }
    ∃ saved doc, Answers (a.save i) store (.ok (m.coerce i.record)) saved ∧
      (∃ found after, Answers (a.search m b.query) saved (.ok found) after ∧
        withoutIdentity doc ∉ found.instances) ∧
      ∃ found after, Answers (a.search m { b with inclusive := true }.query) saved (.ok found) after ∧
        withoutIdentity doc ∈ found.instances := by
  intro a m i store b
  let instant : Instant := { seconds := -1815352200, nanos := 250999000 }
  let bound : Instant := { seconds := -1815352200, nanos := 250000000 }
  have hinstant : Instant.ofText? "1912-06-23T00:30:00.250999+01:00" = some instant := by
    decide +kernel
  have hbound : DateBound.instantOf? (.string "1912-06-22T23:30:00.25") = some bound := by
    decide +kernel
  have hdates : a.dates = .native := rfl
  have hget : Fields.get? i.model.primaryKey i.record = some (.string "1") := rfl
  have hdeclared : ("at", .datetime) ∈ i.model.properties := by decide
  obtain ⟨saved, doc, hsave, -, hfound⟩ :=
    saved_instant_found_iff_admitted hdates (by decide) hget rfl nofun hdeclared (by decide)
      (by decide) rfl hinstant store
  obtain ⟨-, found, after, hsearch, hiff⟩ := hfound b bound rfl ⟨rfl, hbound⟩
  obtain ⟨-, foundToo, afterToo, hsearchToo, hiffToo⟩ :=
    hfound { b with inclusive := true } bound rfl ⟨rfl, hbound⟩
  refine ⟨saved, doc, hsave, ⟨found, after, hsearch, ?_⟩, foundToo, afterToo, hsearchToo, ?_⟩
  · rw [hiff]
    decide
  · rw [hiffToo]
    decide

end DocQuery
