import DocQuery.Proofs.Adapter.SavedRecords

/-!
# No Identity Twice

In a store that adapters leave behind, no collection has two documents with one identity, as long as the
records hold each name once.  Nothing is assumed of the keys, and the values that are asked for may be
anything, also documents of operators: a save under a key without an identity takes the identity of some
document away, and one under a key with an identity finds the document that has it.

Records have to hold each name once because a second field `_id` would take the place of the key.
-/

namespace DocQuery

/-! ## Lists of identities -/

/-- Whether no identity occurs twice; there may be any number of documents without one. -/
def Unrepeated (ids : List (Option Identity)) : Prop :=
  ids.Pairwise fun x y ↦ x = y → x = none

namespace Unrepeated

variable {ids : List (Option Identity)}

theorem append_singleton (h : Unrepeated ids) {id : Option Identity} (hid : id ∈ ids → id = none) :
    Unrepeated (ids ++ [id]) := by
  refine List.pairwise_append.2 ⟨h, List.pairwise_singleton .., fun x hx y hy heq ↦ ?_⟩
  obtain rfl := List.mem_singleton.1 hy
  subst heq
  exact hid hx

theorem set_none (h : Unrepeated ids) (n : Nat) : Unrepeated (ids.set n none) := by
  induction ids generalizing n with
  | nil => exact h
  | cons id rest ih =>
    obtain ⟨hid, hrest⟩ := List.pairwise_cons.1 h
    cases n with
    | zero => exact List.pairwise_cons.2 ⟨fun _ _ _ ↦ rfl, hrest⟩
    | succ n =>
      refine List.pairwise_cons.2 ⟨fun other hother heq ↦ ?_, ih hrest n⟩
      rcases List.mem_or_eq_of_mem_set hother with hother | rfl
      · exact hid other hother heq
      · exact heq

end Unrepeated

/-! ## Documents -/

/-- Whether no two documents have one identity. -/
def DistinctIdentities (docs : List Document) : Prop := Unrepeated (identities docs)

theorem DistinctIdentities.sublist {docs left : List Document} (h : DistinctIdentities docs)
    (hleft : left.Sublist docs) : DistinctIdentities left :=
  List.Pairwise.sublist (hleft.map _) h

/-- A save keeps identities distinct. -/
theorem distinctIdentities_updateOne {docs : List Document} (h : DistinctIdentities docs) (key : Bson)
    {record : Document} (hrecord : Fields.Distinct record) :
    DistinctIdentities (Collection.updateOne docs (saveWrite key record)).2 := by
  cases hmatch : firstMatch? [(identityField, key)] docs with
  | error e => rwa [updateOne_saveWrite_of_error hmatch]
  | ok place =>
    obtain ⟨counts, hwrite⟩ := updateOne_saveWrite hmatch record
    rw [hwrite]
    unfold DistinctIdentities at h ⊢
    cases hkey : key.identity? with
    | none =>
      rw [identities_savedAt hrecord, hkey]
      cases place with
      | some index => exact h.set_none index
      | none => exact h.append_singleton fun _ ↦ rfl
    | some k =>
      rw [firstMatch?_eq_findIdx? (matches_eq_isUnder_of_identity hkey docs)] at hmatch
      obtain rfl := Except.ok.inj hmatch
      rw [identities_savedAt_of_identity hkey hrecord]
      split
      · exact h
      · rename_i hnew
        exact h.append_singleton fun hmem ↦ absurd hmem hnew

theorem keptByWritesOf_distinctIdentities :
    KeptByWritesOf Fields.Distinct DistinctIdentities where
  coerce := fun m _ hrecord ↦ coerce_distinct m hrecord
  empty := List.Pairwise.nil
  saveOne := fun _ key _ hrecord h ↦ distinctIdentities_updateOne h key hrecord
  deleteOne := fun docs filter h ↦ h.sublist (deleteOne_sublist docs filter)
  deleteMany := fun docs filter h ↦ h.sublist (deleteMany_sublist docs filter)

/-- No collection of a store has two documents with one identity, if the store is reachable by records
that hold each name once. -/
theorem ReachableBy.distinctIdentities {store : MemoryStore} (h : ReachableBy Fields.Distinct store)
    (id : CollectionId) : DistinctIdentities (store.docs id) :=
  h.docs keptByWritesOf_distinctIdentities id

end DocQuery
