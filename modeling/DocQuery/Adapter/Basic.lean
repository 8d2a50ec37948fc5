import DocQuery.Adapter.Error
import DocQuery.Filter.Compile
import DocQuery.Model.Coercion
import DocQuery.Model.Naming
import DocQuery.Store.Basic

/-!
# The Adapter

The adapter stores and finds the records of models in a document store.  A record is stored under
its primary key, which is copied into the field `_id`; this field is removed from what is handed
back.

A search with tokens is an aggregation that matches, one without is an unconditional find; the
sort and the number of records to take go with either.  A record is saved by an update that
inserts where nothing matches, many records by a bulk write of such updates.
-/

namespace DocQuery

/-- The field that identifies a document in its collection. -/
def identityField : String := "_id"

/-- How an adapter names and compiles. -/
structure Adapter where
  database : String := "ormbridge"
  naming : NamingRule := .kebab
  dates : DateRendering := .native

/-- A command of an adapter to a store with states `σ`. -/
abbrev AdapterCommand (σ α : Type) := ExceptT AdapterError (StateM σ) α

/-- The records that a search has found; there are no pages yet. -/
structure SearchResult where
  instances : List Document
  page : Option Document := none

/-- A record without the identity that the store has given it. -/
def withoutIdentity (record : Document) : Document := Fields.erase identityField record

/-- The sort document of a sort rule. -/
def SortRule.toDocument (r : SortRule) : Document :=
  [(r.key, .int32 (if r.order = .ascending then 1 else -1))]

/-- The primary key and the record of an instance. -/
def Instance.persistable (i : Instance) : Except AdapterError (Bson × Document) :=
  let empty := Except.error (.emptyRecord i.model.name)
  match i.record? with
  | none => empty
  | some record =>
    match Fields.get? i.model.primaryKey record with
    | none => empty
    | some .null => empty
    | some key => .ok (key, record)

/-- The update that stores a record under its key. -/
def saveWrite (key : Bson) (record : Document) : Write where
  filter := [(identityField, key)]
  update := [("$set", .document (Fields.put identityField key record))]
  upsert := true

namespace Adapter

variable {σ : Type}

/-- The name of the collection of a model. -/
def collectionName (a : Adapter) (m : Model) : String := a.naming.collectionName m.name

/-- The collection of a model. -/
def collection (a : Adapter) (m : Model) : CollectionId :=
  { database := a.database, name := a.collectionName m }

/-- A result or an error, without a look at the store. -/
def settle {α : Type} (result : Except AdapterError α) : AdapterCommand σ α :=
  ExceptT.mk (pure result)

variable [DocumentStore σ]

/-- Looks the collection of a model up. -/
def lookUp (a : Adapter) (m : Model) : AdapterCommand σ Unit :=
  ExceptT.lift (DocumentStore.lookUp (a.collection m))

/-- Asks the store. -/
def ask {α : Type} (command : StoreCommand σ α) : AdapterCommand σ α :=
  ExceptT.adapt .store command

/-- Finds the records that an expression selects. -/
def search (a : Adapter) (m : Model) (e : Expression) : AdapterCommand σ SearchResult := do
  a.lookUp m
  let source : Source ←
    if e.isEmpty then pure (.find [])
    else settle (((e.toPipeline a.dates).map .aggregate).mapError .compile)
  let records ← ask <| DocumentStore.fetch (a.collection m)
    { source, sort := e.sort.map (·.toDocument), limit := e.take.map (·.count) }
  return { instances := records.map withoutIdentity }

/-- Finds the record with an identity. -/
def retrieve (a : Adapter) (m : Model) (id : Bson) : AdapterCommand σ (Option Document) := do
  a.lookUp m
  let found ← ask (DocumentStore.findOne (a.collection m) [(identityField, id)])
  return found.map withoutIdentity

/-- Stores an instance under its primary key and returns its record as it was stored. -/
def save (a : Adapter) (i : Instance) : AdapterCommand σ Document := do
  let (key, record) ← settle i.persistable
  let record := i.model.coerce record
  a.lookUp i.model
  let _ ← ask (DocumentStore.updateOne (a.collection i.model) (saveWrite key record))
  return record

/-- The updates that store instances of one model. -/
def bulkWrites (m : Model) (instances : List Instance) : Except AdapterError (List Write) :=
  instances.mapM fun i ↦
    i.persistable.map fun (key, record) ↦ saveWrite key (m.coerce record)

/-- Stores many instances of one model at once; an instance of another model, and one without a
record or identity, is refused before anything is written. -/
def bulkInsert (a : Adapter) (m : Model) (instances : List Instance) : AdapterCommand σ Unit :=
  match instances.find? fun i ↦ i.model.name ≠ m.name with
  | some other => settle (.error (.mixedModels m.name other.model.name))
  | none =>
    if instances.isEmpty then pure ()
    else do
      let writes ← settle (bulkWrites m instances)
      a.lookUp m
      let _ ← ask (DocumentStore.bulkWrite (a.collection m) writes)

/-- Removes the record with an identity, if there is one. -/
def delete (a : Adapter) (m : Model) (id : Bson) : AdapterCommand σ Unit := do
  a.lookUp m
  let _ ← ask (DocumentStore.deleteOne (a.collection m) [(identityField, id)])

/-- Removes every record with one of the identities. -/
def bulkDelete (a : Adapter) (m : Model) (ids : List Bson) : AdapterCommand σ Unit := do
  a.lookUp m
  let _ ← ask <| DocumentStore.deleteMany (a.collection m)
    [(identityField, .document [("$in", .array ids)])]

/-- Counts the records of a model. -/
def count (a : Adapter) (m : Model) : AdapterCommand σ Nat := do
  a.lookUp m
  ask (DocumentStore.count (a.collection m))

end Adapter

end DocQuery
