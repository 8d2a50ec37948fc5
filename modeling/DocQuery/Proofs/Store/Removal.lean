import DocQuery.Store.Collection

/-!
# Finding and Removing Documents

A collection finds documents by asking a match document about each of them in turn.  The search for
the first match stops there, so only what stands in front of it has to be answered; the removal of
all matches asks about every document before it removes one.

The flags that a removal has collected go with the documents one by one, so what it leaves are the
documents that are not selected, and it counts the others.  The main statements say exactly when a
removal succeeds, and with which result.
-/

namespace DocQuery

variable {filter : Document} {docs : List Document}

/-- Whether a match document selects a document, and without an error. -/
def Document.isSelected (filter doc : Document) : Bool :=
  match Document.matches doc filter with
  | .ok selected => selected
  | .error _ => false

theorem Document.isSelected_of_matches {doc : Document} {selected : Bool}
    (h : Document.matches doc filter = .ok selected) : isSelected filter doc = selected := by
  rw [isSelected, h]

/-! ## The first match -/

/-- Whether a match document selects a document and passes over all those in front of it. -/
structure IsFirstMatch (filter : Document) (before : List Document) (doc : Document) : Prop where
  selected : Document.matches doc filter = .ok true
  passed : ∀ other ∈ before, Document.matches other filter = .ok false

theorem firstMatch?_cons (filter doc : Document) (rest : List Document) :
    firstMatch? filter (doc :: rest) =
      (Document.matches doc filter).bind fun selected ↦
        if selected then .ok (some 0)
        else (firstMatch? filter rest).map fun index ↦ index.map (· + 1) := by
  rw [firstMatch?]
  cases Document.matches doc filter with
  | error e => rfl
  | ok selected =>
    cases selected with
    | true => rfl
    | false => cases firstMatch? filter rest <;> rfl

theorem firstMatch?_eq_none_iff :
    firstMatch? filter docs = .ok none ↔ ∀ doc ∈ docs, Document.matches doc filter = .ok false := by
  induction docs with
  | nil => simp [firstMatch?]
  | cons doc rest ih =>
    rw [firstMatch?_cons, List.forall_mem_cons, ← ih]
    cases Document.matches doc filter with
    | error e => simp [Except.bind]
    | ok selected =>
      cases selected with
      | true => simp [Except.bind]
      | false => cases firstMatch? filter rest <;> simp [Except.bind, Except.map]

theorem firstMatch?_eq_some_iff {index : Nat} :
    firstMatch? filter docs = .ok (some index) ↔
      ∃ before doc rest, docs = before ++ doc :: rest ∧ before.length = index ∧
        IsFirstMatch filter before doc := by
  induction docs generalizing index with
  | nil => simp [firstMatch?]
  | cons doc rest ih =>
    rw [firstMatch?_cons]
    constructor
    · intro h
      cases hdoc : Document.matches doc filter with
      | error e => rw [hdoc] at h; cases h
      | ok selected =>
        rw [hdoc] at h
        cases selected with
        | true =>
          obtain rfl : 0 = index := Option.some.inj (Except.ok.inj h)
          exact ⟨[], doc, rest, rfl, rfl, hdoc, by simp⟩
        | false =>
          cases hrest : firstMatch? filter rest with
          | error e => rw [hrest] at h; cases h
          | ok place =>
            rw [hrest] at h
            obtain ⟨inner, rfl, rfl⟩ := Option.map_eq_some_iff.1 (Except.ok.inj h)
            obtain ⟨before, found, after, rfl, rfl, hfound⟩ := ih.1 hrest
            exact ⟨doc :: before, found, after, rfl, rfl, hfound.selected,
              List.forall_mem_cons.2 ⟨hdoc, hfound.passed⟩⟩
    · rintro ⟨before, found, after, hsplit, rfl, hselected, hpassed⟩
      cases before with
      | nil =>
        obtain ⟨rfl, rfl⟩ := List.cons.inj hsplit
        rw [hselected]
        rfl
      | cons first others =>
        obtain ⟨rfl, rfl⟩ := List.cons.inj hsplit
        obtain ⟨hfirst, hothers⟩ := List.forall_mem_cons.1 hpassed
        rw [hfirst, ih.2 ⟨others, found, after, rfl, rfl, hselected, hothers⟩]
        rfl

namespace Collection

/-! ## Flags -/

theorem selectionFlags_cons (filter doc : Document) (rest : List Document) :
    selectionFlags filter (doc :: rest) =
      (Document.matches doc filter).bind fun selected ↦
        (selectionFlags filter rest).map (selected :: ·) := by
  unfold selectionFlags
  rw [List.mapM_cons]
  cases Document.matches doc filter with
  | error e => rfl
  | ok selected => cases List.mapM (fun doc ↦ Document.matches doc filter) rest <;> rfl

/-- There are flags only if every document has been answered for. -/
theorem exists_of_selectionFlags {flags : List Bool} (h : selectionFlags filter docs = .ok flags) :
    ∀ doc ∈ docs, ∃ selected, Document.matches doc filter = .ok selected := by
  induction docs generalizing flags with
  | nil => simp
  | cons doc rest ih =>
    rw [selectionFlags_cons] at h
    cases hdoc : Document.matches doc filter with
    | error e => rw [hdoc] at h; cases h
    | ok selected =>
      cases hrest : selectionFlags filter rest with
      | error e => rw [hdoc, hrest] at h; cases h
      | ok others => exact List.forall_mem_cons.2 ⟨⟨selected, hdoc⟩, ih hrest⟩

theorem retain_sublist (flags : List Bool) (docs : List Document) :
    (retain flags docs).Sublist docs := by
  induction docs generalizing flags with
  | nil => cases flags <;> exact List.Sublist.slnil
  | cons doc rest ih =>
    cases flags with
    | nil => exact List.Sublist.refl _
    | cons flag others =>
      rw [retain]
      split
      · exact (ih others).cons doc
      · exact (ih others).cons_cons doc

/-- Flags that are the answers of a test keep the documents that fail it. -/
theorem retain_map (test : Document → Bool) (docs : List Document) :
    retain (docs.map test) docs = docs.filter fun doc ↦ !test doc := by
  induction docs with
  | nil => rfl
  | cons doc rest ih =>
    rw [List.map_cons, retain, ih, List.filter_cons]
    cases test doc <;> rfl

section
variable {test : Document → Bool}
variable (h : ∀ doc ∈ docs, Document.matches doc filter = .ok (test doc))
include h

theorem selectionFlags_eq_map : selectionFlags filter docs = .ok (docs.map test) := by
  induction docs with
  | nil => rfl
  | cons doc rest ih =>
    obtain ⟨hdoc, hrest⟩ := List.forall_mem_cons.1 h
    rw [selectionFlags_cons, hdoc, ih hrest]
    rfl

/-- Where a match document comes to a test, its removal keeps what fails the test and counts the
rest. -/
theorem deleteMany_of_matches :
    deleteMany docs filter = (.ok (docs.countP test), docs.filter fun doc ↦ !test doc) := by
  have hcount : (docs.map test).count true = docs.countP test := by
    rw [List.count, List.countP_map]
    exact List.countP_congr fun doc _ ↦ by simp
  unfold deleteMany
  rw [selectionFlags_eq_map h]
  dsimp only
  rw [hcount, retain_map]

end

/-! ## Removals that succeed -/

variable {count : Nat} {after : List Document}

/-- A removal of one document succeeds where none matches, and removes nothing, and where all in front
of the first match are answered for, and removes this one. -/
theorem deleteOne_eq_ok_iff :
    deleteOne docs filter = (.ok count, after) ↔
      (count = 0 ∧ after = docs ∧ ∀ doc ∈ docs, Document.matches doc filter = .ok false) ∨
        count = 1 ∧ ∃ before doc rest, docs = before ++ doc :: rest ∧ after = before ++ rest ∧
          IsFirstMatch filter before doc := by
  have hremove (before rest : List Document) (doc : Document) :
      (before ++ doc :: rest).eraseIdx before.length = before ++ rest := by
    rw [List.eraseIdx_append_of_length_le (Nat.le_refl _), Nat.sub_self, List.eraseIdx_cons_zero]
  unfold deleteOne
  constructor
  · intro h
    split at h
    · cases h
    · rename_i index hindex
      obtain ⟨before, doc, rest, rfl, rfl, hfirst⟩ := firstMatch?_eq_some_iff.1 hindex
      rw [hremove] at h
      cases h
      exact .inr ⟨rfl, before, doc, rest, rfl, rfl, hfirst⟩
    · rename_i hnone
      cases h
      exact .inl ⟨rfl, rfl, firstMatch?_eq_none_iff.1 hnone⟩
  · rintro (⟨rfl, rfl, hnone⟩ | ⟨rfl, before, doc, rest, rfl, rfl, hfirst⟩)
    · rw [firstMatch?_eq_none_iff.2 hnone]
    · rw [firstMatch?_eq_some_iff.2 ⟨before, doc, rest, rfl, rfl, hfirst⟩]
      dsimp only
      rw [hremove]

/-- A removal of all matches succeeds exactly if every document is answered for.  It leaves those that
are not selected and counts the others. -/
theorem deleteMany_eq_ok_iff :
    deleteMany docs filter = (.ok count, after) ↔
      (∀ doc ∈ docs, ∃ selected, Document.matches doc filter = .ok selected) ∧
        after = docs.filter (fun doc ↦ !Document.isSelected filter doc) ∧
          after.length + count = docs.length := by
  have hresult (hanswered : ∀ doc ∈ docs, ∃ selected, Document.matches doc filter = .ok selected) :
      deleteMany docs filter = (.ok (docs.countP (Document.isSelected filter)),
        docs.filter fun doc ↦ !Document.isSelected filter doc) := by
    refine deleteMany_of_matches fun doc hdoc ↦ ?_
    obtain ⟨selected, hselected⟩ := hanswered doc hdoc
    rw [hselected, Document.isSelected_of_matches hselected]
  have hlength : (docs.filter fun doc ↦ !Document.isSelected filter doc).length +
      docs.countP (Document.isSelected filter) = docs.length := by
    have hothers : (docs.filter fun doc ↦ !Document.isSelected filter doc).length =
        docs.countP fun doc ↦ ¬Document.isSelected filter doc = true := by
      rw [← List.countP_eq_length_filter]
      exact List.countP_congr fun doc _ ↦ by simp
    rw [hothers, Nat.add_comm, ← List.length_eq_countP_add_countP]
  constructor
  · intro h
    have hanswered : ∀ doc ∈ docs, ∃ selected, Document.matches doc filter = .ok selected := by
      unfold deleteMany at h
      split at h
      · cases h
      · rename_i hflags
        exact exists_of_selectionFlags hflags
    rw [hresult hanswered] at h
    cases h
    exact ⟨hanswered, rfl, hlength⟩
  · rintro ⟨hanswered, rfl, hcount⟩
    have hsame : count = docs.countP (Document.isSelected filter) := by omega
    rw [hresult hanswered, hsame]

end Collection

end DocQuery
