import DocQuery.Store.Collection

/-!
# Writes That Fail

A removal that fails leaves the documents of its collection as they were, and so does an update that
fails before it has found a document or while it makes a new one.  An update that has found a document
works on it in place: its operators up to the one that is refused stay applied.

`appliedFields` and `refusedOperator?` take an update apart without any document, so the result of every
update is known from them.  The main statement is that a failing write leaves the list of documents as
it was, for an update exactly where what it has applied says nothing new about the first match.
-/

namespace DocQuery

/-! ## Updates of one document -/

/-- The fields that an update sets up to its end or to the operator that is refused. -/
def appliedFields : Document → Document
  | ("$set", .document fields) :: rest => fields ++ appliedFields rest
  | _ => []

/-- The operator of an update that is refused. -/
def refusedOperator? : Document → Option String
  | [] => none
  | ("$set", .document _) :: rest => refusedOperator? rest
  | (name, _) :: _ => some name

/-- To apply an update is to set its applied fields; it fails exactly if an operator is refused. -/
theorem applyUpdate_eq (doc update : Document) :
    applyUpdate doc update =
      { doc := Fields.putAll doc (appliedFields update)
        error := (refusedOperator? update).map .update } := by
  induction update generalizing doc with
  | nil => rfl
  | cons operator rest ih =>
    obtain ⟨name, body⟩ := operator
    unfold applyUpdate appliedFields refusedOperator?
    split
    · rw [ih]
      simp [Fields.putAll, List.foldl_append]
    · split <;> simp_all [Fields.putAll]

namespace Collection

variable {docs after : List Document} {w : Write} {e : StoreError}

/-- What an update leaves of the documents when the operators of it are applied to one of them. -/
theorem updateAt_docs (docs : List Document) (index : Nat) (update : Document) :
    (updateAt docs index update).2 =
      docs.modify index fun doc ↦ Fields.putAll doc (appliedFields update) := by
  simp only [updateAt, applyUpdate_eq]
  exact (List.modify_eq_set (Fields.putAll · (appliedFields update)) index docs).symm

/-- An insertion that fails inserts nothing. -/
theorem insertSeed_of_error (h : insertSeed docs w = (.error e, after)) : after = docs := by
  unfold insertSeed at h
  dsimp only at h
  split at h
  · exact (Prod.mk.inj h).2.symm
  · cases h

/-! ## Writes to a collection -/

/-- An update that fails has changed at most the first match, by the operators before the refused one. -/
theorem updateOne_of_error (h : updateOne docs w = (.error e, after)) :
    after =
      match firstMatch? w.filter docs with
      | .ok (some index) => docs.modify index fun doc ↦ Fields.putAll doc (appliedFields w.update)
      | _ => docs := by
  unfold updateOne at h
  cases hmatch : firstMatch? w.filter docs with
  | error fault =>
    rw [hmatch] at h
    exact (Prod.mk.inj h).2.symm
  | ok found =>
    rw [hmatch] at h
    cases found with
    | some index =>
      exact (congrArg Prod.snd h).symm.trans (updateAt_docs docs index w.update)
    | none =>
      dsimp only at h
      split at h
      · exact insertSeed_of_error h
      · cases h

theorem modify_eq_self_iff {α : Type} (items : List α) (index : Nat) (f : α → α) :
    items.modify index f = items ↔ ∀ item, items[index]? = some item → f item = item := by
  constructor
  · intro h item hitem
    have hat : (items.modify index f)[index]? = some (f item) := by
      rw [List.getElem?_modify_eq, hitem]
      rfl
    rw [h, hitem] at hat
    exact (Option.some.inj hat).symm
  · intro h
    apply List.ext_getElem?
    intro place
    rw [List.getElem?_modify]
    by_cases hplace : index = place
    · subst hplace
      cases hitem : items[index]? with
      | none => rfl
      | some item => simp [h item hitem]
    · simp [hplace]

theorem deleteOne_of_error {filter : Document} (h : deleteOne docs filter = (.error e, after)) :
    after = docs := by
  unfold deleteOne at h
  split at h
  · exact (Prod.mk.inj h).2.symm
  · cases h
  · cases h

theorem deleteMany_of_error {filter : Document} (h : deleteMany docs filter = (.error e, after)) :
    after = docs := by
  unfold deleteMany at h
  split at h
  · exact (Prod.mk.inj h).2.symm
  · cases h

/-- A write that fails leaves the documents as they were.  For an update this holds exactly where the
first match, if there is one, already has all that the operators before the refused one set. -/
theorem failed_write_keeps_docs (docs : List Document) :
    (∀ (w : Write) (e : StoreError) (after : List Document),
      updateOne docs w = (.error e, after) →
        (after = docs ↔ ∀ index doc, firstMatch? w.filter docs = .ok (some index) →
          docs[index]? = some doc → Fields.putAll doc (appliedFields w.update) = doc)) ∧
      (∀ (filter : Document) (e : StoreError) (after : List Document),
        deleteOne docs filter = (.error e, after) → after = docs) ∧
      ∀ (filter : Document) (e : StoreError) (after : List Document),
        deleteMany docs filter = (.error e, after) → after = docs := by
  refine ⟨?_, fun _ _ _ h ↦ deleteOne_of_error h, fun _ _ _ h ↦ deleteMany_of_error h⟩
  intro w e after h
  rw [updateOne_of_error h]
  cases hmatch : firstMatch? w.filter docs with
  | error fault => simp
  | ok found =>
    cases found with
    | none => simp
    | some index =>
      dsimp only
      rw [modify_eq_self_iff]
      constructor
      · intro hkept place doc hplace hdoc
        obtain rfl : index = place := Option.some.inj (Except.ok.inj hplace)
        exact hkept doc hdoc
      · exact fun hkept doc hdoc ↦ hkept index doc rfl hdoc

/-- An update of the second of two documents that is refused after it has set what is there already,
and removals whose filter fails at the second document. -/
theorem failed_write_keeps_docs_second :
    let docs : List Document :=
      [[("_id", .string "a")], [("_id", .string "b"), ("n", .int32 1)]]
    let w : Write :=
      { filter := [("_id", .string "b")]
        update := [("$set", .document [("n", .int32 1)]), ("$inc", .document [("n", .int32 1)])]
        upsert := true }
    let filter : Document := [("_id", .string "b"), ("$where", .string "true")]
    (∃ e after, updateOne docs w = (.error e, after) ∧ after = docs) ∧
      (∃ e after, deleteOne docs filter = (.error e, after) ∧ after = docs) ∧
        ∃ e after, deleteMany docs filter = (.error e, after) ∧ after = docs := by
  intro docs w filter
  obtain ⟨hupdate, hone, hmany⟩ := failed_write_keeps_docs docs
  refine ⟨⟨_, _, rfl, ?_⟩, ⟨_, _, rfl, hone filter _ _ rfl⟩, ⟨_, _, rfl, hmany filter _ _ rfl⟩⟩
  rw [hupdate w _ _ rfl]
  intro index doc hindex hdoc
  obtain rfl : 1 = index := Option.some.inj (Except.ok.inj hindex)
  obtain rfl := Option.some.inj hdoc
  rfl

/-- An update whose second operator is refused has set a new field by then. -/
theorem updateOne_error_changes_docs :
    let docs : List Document := [[("_id", .string "a")]]
    let w : Write :=
      { filter := [("_id", .string "a")]
        update := [("$set", .document [("n", .int32 1)]), ("$inc", .document [("n", .int32 1)])]
        upsert := false }
    ∃ after, updateOne docs w = (.error (.update "$inc"), after) ∧ after ≠ docs := by
  intro docs w
  refine ⟨[[("_id", .string "a"), ("n", .int32 1)]], rfl, ?_⟩
  intro h
  exact absurd (congrArg (List.map List.length) h) (by decide)

end Collection

end DocQuery
