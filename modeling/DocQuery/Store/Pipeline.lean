import DocQuery.Store.Matching

/-!
# Aggregations

An aggregation runs a set of documents through its stages: `$match` selects, `$sort` sorts and
`$limit` cuts.  Every stage is a document of one field.
-/

namespace DocQuery

/-- Runs documents through one stage. -/
def runStage (docs : List Document) : Document → Except StoreError (List Document)
  | [(name, body)] =>
    if name = "$limit" then
      match body.number? with
      | some x =>
        match x.compare? (Double.ofInt 1) with
        | some .lt => .error (.pipeline .limit)
        | some _ => .ok (applyLimit docs x.saturate.toInt)
        | none => .error (.pipeline .limit)
      | none => .error (.pipeline .limit)
    else
      match name, body with
      | "$match", .document filter => selectDocuments filter docs
      | "$sort", .document spec => sortDocuments docs spec
      | _, _ => .error (.pipeline (.unsupportedStage name))
  | _ => .error (.pipeline .stageFields)

/-- Runs documents through all stages. -/
def runPipeline (docs : List Document) : List Document → Except StoreError (List Document)
  | [] => .ok docs
  | stage :: rest =>
    match runStage docs stage with
    | .ok docs => runPipeline docs rest
    | .error e => .error e

end DocQuery
