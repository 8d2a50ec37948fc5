import DocQuery.Proofs.Fields.Writing
import DocQuery.Proofs.Store.FailedWrite
import DocQuery.Proofs.Store.Removal

/-!
# What Writes Account For

An update that succeeds does one of three things: it sets fields of the first match, it inserts a
document, or it finds nothing and leaves everything as it was.  It says which in its counts.

A bulk write adds the counts up while every update works on what the ones before it have left.  The
account still balances: each document of before keeps its place and has at most fields set, the
documents behind them are as many as have been inserted, and every write has matched, inserted or
missed.  Removals account for the documents in the same way, since what they leave are the documents
that are not selected.
-/

namespace DocQuery

/-! ## One update -/

namespace Write

/-- What a write makes of a document that it is applied to. -/
def applied (w : Write) (doc : Document) : Document := Fields.putAll doc (appliedFields w.update)

/-- Whether a write finds nothing among documents and inserts nothing either. -/
def misses (w : Write) (docs : List Document) : Bool :=
  !w.upsert && docs.all fun doc ↦ !Document.isSelected w.filter doc

theorem misses_eq_not_upsert {w : Write} {docs : List Document}
    (h : ∀ doc ∈ docs, Document.matches doc w.filter = .ok false) : w.misses docs = !w.upsert := by
  have hnone : (docs.all fun doc ↦ !Document.isSelected w.filter doc) = true :=
    List.all_eq_true.2 fun doc hdoc ↦ by rw [Document.isSelected_of_matches (h doc hdoc)]; rfl
  rw [misses, hnone, Bool.and_true]

end Write

namespace Collection

/-- What an update that succeeds makes of the documents of a collection, and how it counts this. -/
inductive Updates (w : Write) : List Document → UpdateCounts → List Document → Prop where
  | set {before rest : List Document} {doc : Document} (hfirst : IsFirstMatch w.filter before doc) :
    Updates w (before ++ doc :: rest)
      { matched := 1, modified := if Document.same (w.applied doc) doc then 0 else 1 }
      (before ++ w.applied doc :: rest)
  | insert {docs : List Document}
    (hnone : ∀ doc ∈ docs, Document.matches doc w.filter = .ok false) (hupsert : w.upsert = true) :
    Updates w docs { upserted := true } (docs ++ [w.applied (upsertSeed w.filter)])
  | miss {docs : List Document}
    (hnone : ∀ doc ∈ docs, Document.matches doc w.filter = .ok false) (hupsert : w.upsert = false) :
    Updates w docs {} docs

section
variable {w : Write} {docs after : List Document} {counts : UpdateCounts}

theorem updates_of_updateAt {before rest : List Document} {doc : Document}
    (hfirst : IsFirstMatch w.filter before doc)
    (h : updateAt (before ++ doc :: rest) before.length w.update = (.ok counts, after)) :
    Updates w (before ++ doc :: rest) counts after := by
  have hdoc : (before ++ doc :: rest)[before.length]? = some doc := by simp
  simp only [updateAt, applyUpdate_eq, hdoc, Option.getD_some] at h
  cases hrefused : refusedOperator? w.update with
  | some operator => rw [hrefused] at h; cases h
  | none =>
    rw [hrefused] at h
    obtain ⟨hcounts, hafter⟩ := Prod.mk.inj h
    obtain rfl := Except.ok.inj hcounts
    rw [List.set_append_right _ _ (Nat.le_refl _), Nat.sub_self, List.set_cons_zero] at hafter
    exact hafter ▸ .set hfirst

theorem updates_of_insertSeed (hnone : ∀ doc ∈ docs, Document.matches doc w.filter = .ok false)
    (hupsert : w.upsert = true) (h : insertSeed docs w = (.ok counts, after)) :
    Updates w docs counts after := by
  simp only [insertSeed, applyUpdate_eq] at h
  cases hrefused : refusedOperator? w.update with
  | some operator => rw [hrefused] at h; cases h
  | none =>
    rw [hrefused] at h
    cases h
    exact .insert hnone hupsert

theorem updates_of_updateOne (h : updateOne docs w = (.ok counts, after)) :
    Updates w docs counts after := by
  unfold updateOne at h
  split at h
  · cases h
  · rename_i index hmatch
    obtain ⟨before, doc, rest, rfl, rfl, hfirst⟩ := firstMatch?_eq_some_iff.1 hmatch
    exact updates_of_updateAt hfirst h
  · rename_i hmatch
    have hnone := firstMatch?_eq_none_iff.1 hmatch
    split at h
    · rename_i hupsert
      exact updates_of_insertSeed hnone hupsert h
    · rename_i hupsert
      cases h
      exact .miss hnone (Bool.eq_false_iff.2 hupsert)

/-- An update has matched, inserted or missed, and it has inserted as many documents as it says. -/
theorem Updates.balance (h : Updates w docs counts after) :
    after.length = docs.length + (if counts.upserted then 1 else 0) ∧
      counts.matched + (if counts.upserted then 1 else 0) + (if w.misses docs then 1 else 0) = 1 ∧
        counts.modified ≤ counts.matched := by
  cases h with
  | @set before rest doc hfirst =>
    have hmisses : w.misses (before ++ doc :: rest) = false := by
      simp [Write.misses, Document.isSelected_of_matches hfirst.selected]
    rw [hmisses]
    refine ⟨by simp, rfl, ?_⟩
    dsimp only
    split <;> decide
  | insert hnone hupsert =>
    rw [Write.misses_eq_not_upsert hnone, hupsert]
    exact ⟨List.length_append, rfl, Nat.le_refl 0⟩
  | miss hnone hupsert =>
    rw [Write.misses_eq_not_upsert hnone, hupsert]
    exact ⟨rfl, rfl, Nat.le_refl 0⟩

end

/-! ## Documents with fields set -/

/-- Whether a document is another one with fields set that stand in the updates of writes. -/
def IsSetBy (writes : List Write) (doc now : Document) : Prop :=
  ∃ fields, (∀ field ∈ fields, ∃ w ∈ writes, field ∈ appliedFields w.update) ∧
    now = Fields.putAll doc fields

namespace IsSetBy

variable {w : Write} {rest : List Write} {doc now later : Document}

theorem refl (writes : List Write) (doc : Document) : IsSetBy writes doc doc :=
  ⟨[], by simp, rfl⟩

/-- What the later writes make of the document that the first one leaves. -/
theorem applied_cons (h : IsSetBy rest (w.applied doc) now) : IsSetBy (w :: rest) doc now := by
  obtain ⟨fields, hfields, rfl⟩ := h
  refine ⟨appliedFields w.update ++ fields, fun field hfield ↦ ?_, (Fields.putAll_append ..).symm⟩
  rcases List.mem_append.1 hfield with hfirst | hlater
  · exact ⟨w, List.mem_cons_self .., hfirst⟩
  · obtain ⟨other, hother, hmem⟩ := hfields field hlater
    exact ⟨other, List.mem_cons_of_mem _ hother, hmem⟩

theorem cons (h : IsSetBy rest doc now) (w : Write) : IsSetBy (w :: rest) doc now := by
  obtain ⟨fields, hfields, rfl⟩ := h
  refine ⟨fields, fun field hfield ↦ ?_, rfl⟩
  obtain ⟨other, hother, hmem⟩ := hfields field hfield
  exact ⟨other, List.mem_cons_of_mem _ hother, hmem⟩

end IsSetBy

section
variable {w : Write} {docs between : List Document} {counts : UpdateCounts}

/-- A document stays in its place, as it was or with the update applied. -/
theorem Updates.kept (h : Updates w docs counts between) {index : Nat} {doc : Document}
    (hdoc : docs[index]? = some doc) :
    between[index]? = some doc ∨ between[index]? = some (w.applied doc) := by
  cases h with
  | @set before rest first hfirst =>
    rcases Nat.lt_trichotomy index before.length with hlt | rfl | hgt
    · rw [List.getElem?_append_left hlt] at hdoc ⊢
      exact .inl hdoc
    · rw [List.getElem?_append_right (Nat.le_refl _), Nat.sub_self] at hdoc ⊢
      obtain rfl : first = doc := Option.some.inj hdoc
      exact .inr rfl
    · obtain ⟨inner, rfl⟩ : ∃ inner, index = before.length + (inner + 1) :=
        ⟨index - before.length - 1, by omega⟩
      rw [List.getElem?_append_right (Nat.le_add_right ..), Nat.add_sub_cancel_left] at hdoc ⊢
      exact .inl hdoc
  | insert hnone hupsert =>
    obtain ⟨hindex, -⟩ := List.getElem?_eq_some_iff.1 hdoc
    rw [List.getElem?_append_left hindex]
    exact .inl hdoc
  | miss hnone hupsert => exact .inl hdoc

/-- A document behind those that were there has been made of the match document of an upsert. -/
theorem Updates.inserted (h : Updates w docs counts between) {index : Nat} {now : Document}
    (hnow : between[index]? = some now) (hindex : docs.length ≤ index) :
    w.upsert = true ∧ now = w.applied (upsertSeed w.filter) := by
  cases h with
  | @set before rest first hfirst =>
    obtain ⟨hlt, -⟩ := List.getElem?_eq_some_iff.1 hnow
    simp only [List.length_append, List.length_cons] at hlt hindex
    omega
  | insert hnone hupsert =>
    obtain ⟨hlt, -⟩ := List.getElem?_eq_some_iff.1 hnow
    obtain rfl : docs.length = index := by
      simp only [List.length_append, List.length_singleton] at hlt
      omega
    rw [List.getElem?_append_right (Nat.le_refl _), Nat.sub_self] at hnow
    exact ⟨hupsert, (Option.some.inj hnow).symm⟩
  | miss hnone hupsert =>
    obtain ⟨hlt, -⟩ := List.getElem?_eq_some_iff.1 hnow
    omega

end

/-! ## Updates in turn -/

/-- The number of writes that miss, each among the documents that the ones before it leave. -/
def missed (docs : List Document) : List Write → Nat
  | [] => 0
  | w :: rest => (if w.misses docs then 1 else 0) + missed (updateOne docs w).2 rest

/-- What a bulk write accounts for that has counted up a total before. -/
structure Accounts (total : BulkCounts) (docs : List Document) (writes : List Write)
    (counts : BulkCounts) (after : List Document) : Prop where
  kept : ∀ (index : Nat) (doc : Document), docs[index]? = some doc →
    ∃ now, after[index]? = some now ∧ IsSetBy writes doc now
  inserted : ∀ (index : Nat) (now : Document), after[index]? = some now → docs.length ≤ index →
    ∃ w ∈ writes, w.upsert = true ∧ IsSetBy writes (upsertSeed w.filter) now
  length : after.length + total.upserted = docs.length + counts.upserted
  answered : counts.matched + counts.upserted + missed docs writes =
    total.matched + total.upserted + writes.length
  modified : counts.modified + total.matched ≤ total.modified + counts.matched

namespace Accounts

variable {total counts : BulkCounts} {docs between after : List Document} {w : Write}
variable {rest : List Write} {first : UpdateCounts}

theorem nil (total : BulkCounts) (docs : List Document) : Accounts total docs [] total docs where
  kept _ doc hdoc := ⟨doc, hdoc, .refl [] doc⟩
  inserted index now hnow hindex := by
    obtain ⟨hlt, -⟩ := List.getElem?_eq_some_iff.1 hnow
    exact absurd hlt (Nat.not_lt.2 hindex)
  length := rfl
  answered := rfl
  modified := Nat.le_refl _

/-- An update in front of others adds its counts to the total and its fields to those that are set. -/
theorem cons (hfirst : updateOne docs w = (.ok first, between))
    (h : Accounts (total.add first) between rest counts after) :
    Accounts total docs (w :: rest) counts after := by
  have hupdates := updates_of_updateOne hfirst
  obtain ⟨hlength, hanswered, hmodified⟩ := hupdates.balance
  have hmissed : missed docs (w :: rest) = (if w.misses docs then 1 else 0) + missed between rest := by
    rw [missed, hfirst]
  have htotal := h.length
  have hlater := h.answered
  have hbound := h.modified
  simp only [BulkCounts.add] at htotal hlater hbound
  refine ⟨fun index doc hdoc ↦ ?_, fun index now hnow hindex ↦ ?_, ?_, ?_, ?_⟩
  · rcases hupdates.kept hdoc with hsame | hset
    · obtain ⟨now, hnow, hby⟩ := h.kept index doc hsame
      exact ⟨now, hnow, hby.cons w⟩
    · obtain ⟨now, hnow, hby⟩ := h.kept index _ hset
      exact ⟨now, hnow, hby.applied_cons⟩
  · -- what stands there has been inserted by the first update or by a later one
    by_cases hbetween : between.length ≤ index
    · obtain ⟨other, hother, hupsert, hby⟩ := h.inserted index now hnow hbetween
      exact ⟨other, List.mem_cons_of_mem _ hother, hupsert, hby.cons w⟩
    · obtain ⟨seed, hseed⟩ : ∃ seed, between[index]? = some seed :=
        ⟨_, List.getElem?_eq_getElem (Nat.not_le.1 hbetween)⟩
      obtain ⟨hupsert, rfl⟩ := hupdates.inserted hseed hindex
      obtain ⟨later, hlast, hby⟩ := h.kept index _ hseed
      obtain rfl : later = now := Option.some.inj (hlast.symm.trans hnow)
      exact ⟨w, List.mem_cons_self .., hupsert, hby.applied_cons⟩
  · omega
  · rw [hmissed, List.length_cons]
    omega
  · omega

theorem of_bulkWriteFrom {writes : List Write}
    (h : bulkWriteFrom total docs writes = (.ok counts, after)) :
    Accounts total docs writes counts after := by
  induction writes generalizing total docs with
  | nil =>
    cases h
    exact nil ..
  | cons w rest ih =>
    rw [bulkWriteFrom] at h
    split at h
    · cases h
    · rename_i first between hfirst
      exact cons hfirst (ih h)

end Accounts

/-- A bulk write that succeeds leaves every document in its place, as it was or with fields set by the
writes, and behind these only documents that its upserts have made, as many as it says.  Each of the
writes has matched, inserted or missed, and no more documents are modified than matched.  A removal of
one document takes away the first match and a removal of many all matches; what they leave is as it was
and in its order, and their counts are what is gone. -/
theorem writes_account (docs : List Document) :
    (∀ (writes : List Write) (counts : BulkCounts) (after : List Document),
      bulkWrite docs writes = (.ok counts, after) →
        (∀ (index : Nat) (doc : Document), docs[index]? = some doc →
          ∃ now, after[index]? = some now ∧ IsSetBy writes doc now) ∧
        (∀ (index : Nat) (now : Document), after[index]? = some now → docs.length ≤ index →
          ∃ w ∈ writes, w.upsert = true ∧ IsSetBy writes (upsertSeed w.filter) now) ∧
        after.length = docs.length + counts.upserted ∧
        counts.matched + counts.upserted + missed docs writes = writes.length ∧
        counts.modified ≤ counts.matched) ∧
      (∀ (filter : Document) (count : Nat) (after : List Document),
        deleteOne docs filter = (.ok count, after) ↔
          (count = 0 ∧ after = docs ∧ ∀ doc ∈ docs, Document.matches doc filter = .ok false) ∨
            count = 1 ∧ ∃ before doc rest, docs = before ++ doc :: rest ∧ after = before ++ rest ∧
              IsFirstMatch filter before doc) ∧
      ∀ (filter : Document) (count : Nat) (after : List Document),
        deleteMany docs filter = (.ok count, after) ↔
          (∀ doc ∈ docs, ∃ selected, Document.matches doc filter = .ok selected) ∧
            after = docs.filter (fun doc ↦ !Document.isSelected filter doc) ∧
              after.length + count = docs.length := by
  refine ⟨fun writes counts after h ↦ ?_, fun _ _ _ ↦ deleteOne_eq_ok_iff,
    fun _ _ _ ↦ deleteMany_eq_ok_iff⟩
  have haccounts : Accounts {} docs writes counts after := .of_bulkWriteFrom h
  refine ⟨haccounts.kept, haccounts.inserted, haccounts.length, ?_, ?_⟩
  · exact haccounts.answered.trans (Nat.zero_add _)
  · simpa using haccounts.modified

/-- A write that sets what is there already, one that inserts, one that changes what has been inserted, and
one that finds nothing. -/
theorem writes_account_fourWrites :
    let docs : List Document :=
      [[("_id", .string "a")], [("_id", .string "b"), ("name", .string "Ada")]]
    let writes : List Write :=
      [{ filter := [("_id", .string "b")], update := [("$set", .document [("name", .string "Ada")])]
         upsert := true },
       { filter := [("_id", .string "c")], update := [("$set", .document [("name", .string "Bob")])]
         upsert := true },
       { filter := [("name", .string "Bob")], update := [("$set", .document [("done", .bool true)])]
         upsert := false },
       { filter := [("_id", .string "z")], update := [("$set", .document [("name", .null)])]
         upsert := false }]
    ∃ after, bulkWrite docs writes = (.ok { matched := 2, modified := 1, upserted := 1 }, after) ∧
      after.length = docs.length + 1 ∧ 2 + 1 + missed docs writes = writes.length := by
  intro docs writes
  let after : List Document :=
    docs ++ [[("_id", .string "c"), ("name", .string "Bob"), ("done", .bool true)]]
  have hwrite : bulkWrite docs writes =
      (.ok { matched := 2, modified := 1, upserted := 1 }, after) := rfl
  obtain ⟨-, -, hlength, hanswered, -⟩ := (writes_account docs).1 writes _ after hwrite
  exact ⟨after, hwrite, hlength, hanswered⟩

end Collection

end DocQuery
