import DocQuery.Proofs.Number.IntegerOrder
import DocQuery.Query.Expression
import DocQuery.Store.Collection

/-!
# Paths of a Read

A read may leave the work to the cursor, which sorts and cuts what its source finds, or to the stages of
an aggregation.  Both paths do the same: the sort and the limit of a cursor are a `$sort` and a `$limit`
stage at the end of its aggregation, and to find by a match document is to run a `$match` stage.  The
results are equal as a whole, in the order of the documents and also in the error, whether or not the
match document and the sort document are ones.

A limit of a cursor is an integer and that of a stage a number, which becomes a double and is rounded
back.  No count that a query can ask for is changed on this way.
-/

namespace DocQuery

/-! ## Stages -/

/-- The stage that selects by a match document. -/
def matchStage (filter : Document) : Document := [("$match", .document filter)]

/-- The stage that sorts by a sort document. -/
def sortStage (spec : Document) : Document := [("$sort", .document spec)]

/-- The stage that cuts behind a number of documents. -/
def limitStage (count : Bson) : Document := [("$limit", count)]

/-- The stages for the sort and the limit of a cursor, as far as it has them. -/
def cursorStages (sort : Option Document) (count : Option Bson) : List Document :=
  sort.toList.map sortStage ++ count.toList.map limitStage

section
variable (docs : List Document)

theorem runStage_matchStage (filter : Document) :
    runStage docs (matchStage filter) = selectDocuments filter docs := by
  rw [matchStage, runStage, if_neg (by decide)]

theorem runStage_sortStage (spec : Document) :
    runStage docs (sortStage spec) = sortDocuments docs spec := by
  rw [sortStage, runStage, if_neg (by decide)]

/-- A limit that is a count is not changed by the double that it becomes. -/
theorem runStage_limitStage {count : Bson} {n : Int} (hcount : count.number? = some (.ofInt n))
    (hpos : 0 < n) (hbound : n.natAbs ≤ 2 ^ 53) :
    runStage docs (limitStage count) = .ok (applyLimit docs n) := by
  have hcompare : (Double.ofInt n).compare? (.ofInt 1) = some (compare n 1) :=
    Double.compare?_ofInt hbound (by decide)
  have hnotless : compare n 1 ≠ .lt := by
    rw [ne_eq, Int.compare_eq_lt]
    omega
  unfold limitStage runStage
  dsimp only
  rw [if_pos rfl, hcount]
  dsimp only
  rw [hcompare, Double.saturate_ofInt hbound]
  split
  · exact absurd (Option.some.inj ‹_›) hnotless
  · rfl
  · contradiction

/-! ## Aggregations -/

theorem runPipeline_cons (stage : Document) (rest : List Document) :
    runPipeline docs (stage :: rest) = (runStage docs stage).bind (runPipeline · rest) := by
  rw [runPipeline]
  cases runStage docs stage <;> rfl

theorem runPipeline_singleton (stage : Document) :
    runPipeline docs [stage] = runStage docs stage := by
  rw [runPipeline_cons]
  cases runStage docs stage <;> rfl

/-- The second part of an aggregation is run on what the first one leaves. -/
theorem runPipeline_append (first second : List Document) :
    runPipeline docs (first ++ second) = (runPipeline docs first).bind (runPipeline · second) := by
  induction first generalizing docs with
  | nil => rfl
  | cons stage rest ih =>
    rw [List.cons_append, runPipeline_cons, runPipeline_cons]
    cases runStage docs stage with
    | error e => rfl
    | ok docs => exact ih docs

/-! ## Cursors -/

/-- What a cursor makes of the documents that its source finds. -/
def sortAndCut (sort : Option Document) (limit : Option Int) : Except StoreError (List Document) := do
  let sorted ← sort.elim (.ok docs) (sortDocuments docs)
  return limit.elim sorted (applyLimit sorted)

theorem fetch_find (filter : Document) (sort : Option Document) (limit : Option Int) :
    Collection.fetch docs { source := .find filter, sort, limit } =
      (selectDocuments filter docs).bind (sortAndCut · sort limit) :=
  rfl

theorem fetch_aggregate (pipeline : List Document) (sort : Option Document) (limit : Option Int) :
    Collection.fetch docs { source := .aggregate pipeline, sort, limit } =
      (runPipeline docs pipeline).bind (sortAndCut · sort limit) :=
  rfl

/-- The sort and the limit of a cursor are stages. -/
theorem runPipeline_cursorStages (sort : Option Document) {take : Option Take} {count : Take → Bson}
    (hcount : ∀ t ∈ take, (count t).number? = some (.ofInt t.count)) :
    runPipeline docs (cursorStages sort (take.map count)) =
      sortAndCut docs sort (take.map fun t ↦ t.count) := by
  have hsort : runPipeline docs (sort.toList.map sortStage) =
      sort.elim (.ok docs) (sortDocuments docs) := by
    cases sort with
    | none => rfl
    | some spec => exact (runPipeline_singleton ..).trans (runStage_sortStage ..)
  have hlimit (sorted : List Document) : runPipeline sorted ((take.map count).toList.map limitStage) =
      .ok ((take.map fun t ↦ (t.count : Int)).elim sorted (applyLimit sorted)) := by
    cases take with
    | none => rfl
    | some t =>
      have hpos := t.count_pos
      have hbound : (t.count : Int).natAbs ≤ 2 ^ 53 := Nat.le_trans t.count_le (by decide)
      exact (runPipeline_singleton ..).trans
        (runStage_limitStage sorted (hcount t rfl) (Int.ofNat_lt.2 hpos) hbound)
  rw [cursorStages, runPipeline_append, hsort, sortAndCut]
  cases sort.elim (.ok docs) (sortDocuments docs) with
  | error e => rfl
  | ok sorted => exact hlimit sorted

/-- A cursor that neither sorts nor cuts adds nothing to its aggregation. -/
theorem fetch_aggregate_none (pipeline : List Document) :
    Collection.fetch docs { source := .aggregate pipeline } = runPipeline docs pipeline := by
  show (runPipeline docs pipeline).bind _ = _
  cases runPipeline docs pipeline <;> rfl

/-- The sort and the limit of a cursor may be moved to the end of its aggregation. -/
theorem fetch_append_cursorStages (pipeline : List Document) (sort : Option Document)
    {take : Option Take} {count : Take → Bson}
    (hcount : ∀ t ∈ take, (count t).number? = some (.ofInt t.count)) :
    Collection.fetch docs { source := .aggregate (pipeline ++ cursorStages sort (take.map count)) } =
      Collection.fetch docs
        { source := .aggregate pipeline, sort, limit := take.map fun t ↦ t.count } := by
  rw [fetch_aggregate_none, fetch_aggregate, runPipeline_append]
  cases runPipeline docs pipeline with
  | error e => rfl
  | ok found => exact runPipeline_cursorStages found sort hcount

end

/-- A find, an aggregation that matches, both with the sort and the limit of a cursor, and an aggregation
that matches, sorts and cuts give the same documents in the same order or the same error. -/
theorem fetch_same_on_all_paths (docs : List Document) (filter : Document) (sort : Option Document)
    (take : Option Take) (count : Take → Bson)
    (hcount : ∀ t ∈ take, (count t).number? = some (.ofInt t.count)) :
    let limit : Option Int := take.map fun t ↦ t.count
    let found := Collection.fetch docs { source := .find filter, sort, limit }
    Collection.fetch docs { source := .aggregate [matchStage filter], sort, limit } = found ∧
      Collection.fetch docs
        { source := .aggregate (matchStage filter :: cursorStages sort (take.map count)) } =
          found := by
  intro limit found
  have hmatch : Collection.fetch docs { source := .aggregate [matchStage filter], sort, limit } =
      found := by
    rw [fetch_aggregate, runPipeline_singleton, runStage_matchStage]
    rfl
  exact ⟨hmatch, (fetch_append_cursorStages docs [matchStage filter] sort hcount).trans hmatch⟩

/-- One document is left out, the others are sorted down and the last of them is cut off, by the cursor
and by stages of which one counts with a long integer. -/
theorem fetch_same_on_all_paths_of_texts :
    let docs : List Document :=
      [[("name", .string "a"), ("open", .bool true)], [("name", .string "d"), ("open", .bool false)],
        [("name", .string "c"), ("open", .bool true)], [("name", .string "b"), ("open", .bool true)]]
    let filter : Document := [("open", .bool true)]
    let spec : Document := [("name", .double (.ofBits 0xBFF0000000000000))]
    let found : Except StoreError (List Document) :=
      .ok [[("name", .string "c"), ("open", .bool true)], [("name", .string "b"), ("open", .bool true)]]
    Collection.fetch docs
        { source := .aggregate [matchStage filter], sort := some spec, limit := some 2 } = found ∧
      Collection.fetch docs
        { source := .aggregate [matchStage filter, sortStage spec, limitStage (.int64 2)] } = found := by
  intro docs filter spec found
  let take : Take := ⟨2, by decide, by decide⟩
  have hfound : Collection.fetch docs
      { source := .find filter, sort := some spec, limit := some (take.count : Int) } = found := by
    rfl
  have hcount : ∀ t ∈ some take, (Bson.int64 2).number? = some (.ofInt t.count) := by
    intro t ht
    obtain rfl := Option.some.inj ht
    rfl
  rw [← hfound]
  exact fetch_same_on_all_paths docs filter (some spec) (some take) (fun _ ↦ .int64 2) hcount

end DocQuery
