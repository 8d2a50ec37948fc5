import DocQuery.Proofs.Adapter.NamedRecord
import DocQuery.Proofs.Filter.Meaning
import DocQuery.Proofs.Store.ReadPaths
import DocQuery.Proofs.Store.Sorting

/-!
# The First Records of a Search

A search with a sort and a number of records to take selects the documents that match, sorts them and
cuts the result.  If no check of the filter fails and no matching document holds a NaN in the field of
the sort, the records that are found are the first ones: none of the matching documents that are left
out precedes one of them.
-/

namespace DocQuery

/-- The sort document of a sort rule is one. -/
theorem SortRule.isSortDocument (rule : SortRule) : IsSortDocument rule.toDocument := by
  intro field hfield
  obtain rfl := List.mem_singleton.1 hfield
  have hone : (Bson.int32 1).rank? = some 0x3FF0000000000000 := by decide +kernel
  have hminusOne : (Bson.int32 (-1)).rank? = some (-0x3FF0000000000000) := by decide +kernel
  cases rule.order with
  | ascending => exact ⟨_, hone, by decide⟩
  | descending => exact ⟨_, hminusOne, by decide⟩

/-- To run documents through the aggregation of a tree is to select them by its match document. -/
theorem runPipeline_toPipeline (docs : List Document) (tree : MatchTree) :
    runPipeline docs tree.toPipeline = selectDocuments tree.toDocument docs :=
  (runPipeline_singleton ..).trans (runStage_matchStage ..)

theorem applyLimit_count (docs : List Document) (take : Take) :
    applyLimit docs take.count = docs.take take.count := by
  have hpos := take.count_pos
  rw [applyLimit, if_neg (by omega), Int.natAbs_natCast]

variable {a : Adapter} {m : Model} {e : Expression} {tree : MatchTree} {store : MemoryStore}

/-- The read of a search, from a source. -/
def Expression.request (e : Expression) (source : Source) : Request where
  source := source
  sort := e.sort.map (·.toDocument)
  limit := e.take.map (·.count)

/-- A search finds what a find by its match document does, on whichever path it reads. -/
theorem answers_search_of_fetch (hcompile : compile e.tokens a.dates = .ok tree)
    {found : List Document}
    (hfound : Collection.fetch (store.docs (a.collection m)) (e.request (.find tree.toDocument)) =
      .ok found) :
    Answers (a.search m e) store (.ok { instances := found.map withoutIdentity })
      (store.create (a.collection m)) := by
  let id := a.collection m
  have hread {source : Source} (hsame : Collection.fetch (store.docs id) (e.request source) =
      Collection.fetch (store.docs id) (e.request (.find tree.toDocument))) :
      Answers (Adapter.ask (DocumentStore.fetch id (e.request source))) (store.create id)
        (.ok found) (store.create id) :=
    Answers.read_create (hsame.trans hfound)
  unfold Adapter.search
  refine (Answers.lookUp a m).bind ?_
  dsimp only
  split
  · rename_i hempty
    -- without tokens the match document is that of the tree that selects everything
    obtain rfl : MatchTree.all = tree := by
      rw [List.isEmpty_iff.1 hempty] at hcompile
      exact Except.ok.inj hcompile
    exact (Answers.pure _).bind ((hread rfl).bind (.pure _))
  · rw [Expression.toPipeline, hcompile]
    refine (Answers.settle _).bind ((hread ?_).bind (.pure _))
    unfold Expression.request
    rw [fetch_aggregate, runPipeline_toPipeline, fetch_find]

/-- A search sorts and cuts what its filter selects. -/
theorem answers_search (hcompile : compile e.tokens a.dates = .ok tree) {rule : SortRule}
    (hrule : e.sort = some rule) {take : Take} (htake : e.take = some take)
    {found sorted : List Document}
    (hselect : selectDocuments tree.toDocument (store.docs (a.collection m)) = .ok found)
    (hsort : sortDocuments found rule.toDocument = .ok sorted) :
    Answers (a.search m e) store
      (.ok { instances := (sorted.take take.count).map withoutIdentity })
      (store.create (a.collection m)) := by
  refine answers_search_of_fetch hcompile ?_
  unfold Expression.request
  rw [hrule, htake, fetch_find, hselect]
  refine bind_eq_ok.2 ⟨found, rfl, bind_eq_ok.2 ⟨sorted, hsort, ?_⟩⟩
  exact congrArg Except.ok (applyLimit_count sorted take)

/-- No document behind the first ones of a sorted list precedes one of them. -/
theorem IsSorting.not_precedes {spec : Document} {docs sorted : List Document}
    (h : IsSorting spec docs sorted) (count : Nat) {first left : Document}
    (hfirst : first ∈ sorted.take count) (hleft : left ∈ sorted.drop count) :
    ¬DocumentPrecedes spec left first := by
  have hordered := h.ordered
  rw [← List.take_append_drop count sorted, List.pairwise_append] at hordered
  exact hordered.2.2 first hfirst left hleft

/-- Documents without a NaN in a field of the sort are sorted, whatever the sort document.  Hence a
search that takes a number of records finds the first ones of the documents that match, and none that is
left out precedes one that is found. -/
theorem sorts_and_takes_first :
    (∀ (spec : Document) (docs : List Document), IsSortDocument spec →
      (∀ doc ∈ docs, HasPlace spec doc) →
        ∃ sorted, sortDocuments docs spec = .ok sorted ∧ IsSorting spec docs sorted) ∧
    ∀ (a : Adapter) (m : Model) (store : MemoryStore) (e : Expression) (tree : MatchTree)
      (rule : SortRule) (take : Take),
      compile e.tokens a.dates = .ok tree → e.sort = some rule → e.take = some take →
      (∀ doc ∈ store.docs (a.collection m), ∃ truth, tree.Means doc truth) →
      let matching := (store.docs (a.collection m)).filter fun doc ↦ tree.selects doc
      (∀ doc ∈ matching, HasPlace rule.toDocument doc) →
        ∃ sorted, IsSorting rule.toDocument matching sorted ∧
          Answers (a.search m e) store
            (.ok { instances := (sorted.take take.count).map withoutIdentity })
            (store.create (a.collection m)) ∧
          (sorted.take take.count).length = min take.count matching.length ∧
          ∀ first ∈ sorted.take take.count, ∀ left ∈ sorted.drop take.count,
            ¬DocumentPrecedes rule.toDocument left first := by
  refine ⟨fun spec docs ↦ sortDocuments_eq_ok, ?_⟩
  intro a m store e tree rule take hcompile hrule htake hfilter matching hplaces
  have hselect : selectDocuments tree.toDocument (store.docs (a.collection m)) = .ok matching := by
    refine selectDocuments_eq_filter fun doc hdoc ↦ ?_
    obtain ⟨truth, hmeans⟩ := hfilter doc hdoc
    rw [hmeans.selects]
    exact hmeans
  obtain ⟨sorted, hsort, hsorting⟩ := sortDocuments_eq_ok rule.isSortDocument hplaces
  refine ⟨sorted, hsorting, answers_search hcompile hrule htake hselect hsort, ?_, ?_⟩
  · rw [List.length_take, hsorting.perm.length_eq]
  · exact fun first hfirst left hleft ↦ hsorting.not_precedes _ hfirst hleft

/-- Documents of which one lacks the field, and others hold a text and numbers of two widths. -/
def mixedDocuments : List Document :=
  [[("id", .string "a"), ("size", .int64 7)], [("id", .string "b")],
    [("id", .string "c"), ("size", .string "large")], [("id", .string "d"), ("size", .int32 7)]]

/-- Mixed documents sorted by two fields in two directions, and the first two of them that a search
without tokens finds. -/
theorem sorts_and_takes_first_mixed :
    let spec : Document := [("size", .int32 (-1)), ("id", .int64 3)]
    let m : Model := { name := "Item" }
    let a : Adapter := {}
    let store : MemoryStore := { collections := [(a.collection m, mixedDocuments)] }
    let e : Expression :=
      { sort := some { key := "size", order := .descending }, take := some ⟨2, by decide, by decide⟩ }
    (∃ sorted, sortDocuments mixedDocuments spec = .ok sorted ∧
      IsSorting spec mixedDocuments sorted) ∧
      ∃ sorted, IsSorting [("size", .int32 (-1))] mixedDocuments sorted ∧
        Answers (a.search m e) store (.ok { instances := (sorted.take 2).map withoutIdentity })
          (store.create (a.collection m)) := by
  intro spec m a store e
  have hspec : IsSortDocument spec := by
    have hfirst : (Bson.int32 (-1)).rank? = some (-0x3FF0000000000000) := by decide +kernel
    have hsecond : (Bson.int64 3).rank? = some 0x4008000000000000 := by decide +kernel
    intro field hfield
    rcases List.mem_cons.1 hfield with rfl | hfield
    · exact ⟨_, hfirst, by decide⟩
    · obtain rfl := List.mem_singleton.1 hfield
      exact ⟨_, hsecond, by decide⟩
  have hplaces (spec : Document) : ∀ doc ∈ mixedDocuments, HasPlace spec doc := by
    intro doc hdoc field _ x hx
    have hmem := Fields.mem_of_get? hx
    simp only [mixedDocuments, List.mem_cons, List.not_mem_nil, or_false] at hdoc
    -- none of the documents holds a double
    rcases hdoc with rfl | rfl | rfl | rfl <;> simp at hmem
  have hmatching : ((store.docs (a.collection m)).filter fun doc ↦ MatchTree.all.selects doc) =
      mixedDocuments := by
    have hdocs : store.docs (a.collection m) = mixedDocuments := by
      simp [store, MemoryStore.docs, Fields.get?]
    rw [hdocs]
    rfl
  obtain ⟨hsorts, htakes⟩ := sorts_and_takes_first
  refine ⟨hsorts spec mixedDocuments hspec (hplaces spec), ?_⟩
  have hfound := htakes a m store e .all _ _ rfl rfl rfl (fun _ _ ↦ ⟨true, rfl⟩)
  rw [hmatching] at hfound
  obtain ⟨sorted, hsorting, hanswers, -⟩ := hfound (hplaces _)
  exact ⟨sorted, hsorting, hanswers⟩

end DocQuery
