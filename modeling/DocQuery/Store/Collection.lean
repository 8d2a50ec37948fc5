import DocQuery.Store.Pipeline
import DocQuery.Store.Update

/-!
# Collections

A collection is a list of documents in insertion order.  Reads select, sort and cut; writes return
the documents that are left together with their result, because a write may fail after it has
begun.

An update changes the first document that matches.  Where none does, it may insert one.  A bulk
write performs updates in turn and stops at the first that fails, keeping what was written before.
A removal of many documents asks about all of them before it removes any.
-/

namespace DocQuery

/-! ## Requests -/

/-- Where a read takes its documents from. -/
inductive Source where
  | find (filter : Document)
  | aggregate (pipeline : List Document)

/-- A read: its source, and how to sort and cut what it finds. -/
structure Request where
  source : Source
  sort : Option Document := none
  limit : Option Int := none

/-- An update of the first document that matches, perhaps inserting one where none does. -/
structure Write where
  filter : Document
  update : Document
  upsert : Bool

/-- What an update has done. -/
structure UpdateCounts where
  matched : Nat := 0
  modified : Nat := 0
  upserted : Bool := false
deriving DecidableEq

/-- What a list of updates has done. -/
structure BulkCounts where
  matched : Nat := 0
  modified : Nat := 0
  upserted : Nat := 0
deriving DecidableEq

/-- Adds what one update has done. -/
def BulkCounts.add (total : BulkCounts) (counts : UpdateCounts) : BulkCounts where
  matched := total.matched + counts.matched
  modified := total.modified + counts.modified
  upserted := total.upserted + if counts.upserted then 1 else 0

/-! ## Reads -/

namespace Collection

/-- The documents that a read finds. -/
def fetch (docs : List Document) (r : Request) : Except StoreError (List Document) := do
  let found ←
    match r.source with
    | .find filter => selectDocuments filter docs
    | .aggregate pipeline => runPipeline docs pipeline
  let sorted ← r.sort.elim (.ok found) (sortDocuments found)
  return r.limit.elim sorted (applyLimit sorted)

/-- The first document that matches. -/
def findOne (docs : List Document) (filter : Document) :
    Except StoreError (Option Document) :=
  (firstMatch? filter docs).map fun index ↦ index.bind fun i ↦ docs[i]?

/-! ## Writes -/

/-- A result, with the documents that are left. -/
abbrev Written (α : Type) := Except StoreError α × List Document

/-- Inserts the document that an update makes of its match document. -/
def insertSeed (docs : List Document) (w : Write) : Written UpdateCounts :=
  let outcome := applyUpdate (upsertSeed w.filter) w.update
  match outcome.error with
  | some e => (.error e, docs)
  | none => (.ok { upserted := true }, docs ++ [outcome.doc])

/-- Updates the document at an index. -/
def updateAt (docs : List Document) (index : Nat) (update : Document) : Written UpdateCounts :=
  let before := docs[index]?.getD []
  let outcome := applyUpdate before update
  let result :=
    match outcome.error with
    | some e => .error e
    | none => .ok { matched := 1, modified := if outcome.doc.same before then 0 else 1 }
  (result, docs.set index outcome.doc)

/-- Updates the first document that matches. -/
def updateOne (docs : List Document) (w : Write) : Written UpdateCounts :=
  match firstMatch? w.filter docs with
  | .error e => (.error e, docs)
  | .ok (some index) => updateAt docs index w.update
  | .ok none => if w.upsert then insertSeed docs w else (.ok {}, docs)

/-- Performs updates in turn, adding to what has been done before. -/
def bulkWriteFrom (total : BulkCounts) (docs : List Document) :
    List Write → Written BulkCounts
  | [] => (.ok total, docs)
  | w :: rest =>
    match updateOne docs w with
    | (.error e, docs) => (.error e, docs)
    | (.ok counts, docs) => bulkWriteFrom (total.add counts) docs rest

/-- Performs updates in turn up to the first that fails. -/
def bulkWrite (docs : List Document) (writes : List Write) : Written BulkCounts :=
  bulkWriteFrom {} docs writes

/-- Removes the first document that matches; the result is the number of documents removed. -/
def deleteOne (docs : List Document) (filter : Document) : Written Nat :=
  match firstMatch? filter docs with
  | .error e => (.error e, docs)
  | .ok (some index) => (.ok 1, docs.eraseIdx index)
  | .ok none => (.ok 0, docs)

/-- For each document in turn, whether a match document selects it. -/
def selectionFlags (filter : Document) (docs : List Document) : Except StoreError (List Bool) :=
  docs.mapM fun doc ↦ Document.matches doc filter

/-- The documents whose flag is not set; documents beyond the last flag stay. -/
def retain : List Bool → List Document → List Document
  | flag :: flags, doc :: docs => if flag then retain flags docs else doc :: retain flags docs
  | _, docs => docs

/-- Removes every document that matches; the result is the number of documents removed. -/
def deleteMany (docs : List Document) (filter : Document) : Written Nat :=
  match selectionFlags filter docs with
  | .error e => (.error e, docs)
  | .ok flags => (.ok (flags.count true), retain flags docs)

end Collection

end DocQuery
