import DocQuery.Bson.Display

/-!
# Store Errors

What a store refuses, and what may go wrong in reaching it.
-/

namespace DocQuery

/-- What is wrong with a match document or a sort document. -/
inductive FilterFault where
  /-- The document as a whole has an operator that is unknown there. -/
  | topLevelOperator (name : String)
  /-- The operator joins a list of match documents. -/
  | needsArray (name : String)
  /-- The operator joins match documents only. -/
  | entryNotDocument (name : String) (entry : Bson)
  /-- Regular expressions are given as texts. -/
  | regexNotText
  /-- The regular expression cannot be read. -/
  | badRegex (pattern : String)
  /-- A field has an operator that is unknown there. -/
  | unsupportedOperator (name : String)
  /-- The direction of a sort is neither positive nor negative. -/
  | sortDirection (field : String)

/-- The message of a fault.  What an engine says about a regular expression that it cannot read, which
would follow the pattern after a colon, is left out. -/
def FilterFault.message : FilterFault → String
  | topLevelOperator name => "unsupported top-level operator " ++ name
  | needsArray name => name ++ " requires an array"
  | entryNotDocument name entry => name ++ " entries must be documents, got " ++ entry.display
  | regexNotText => "$regex requires a string"
  | badRegex pattern => "bad $regex " ++ pattern
  | unsupportedOperator name => "unsupported operator " ++ name
  | sortDirection field => "sort direction for " ++ field ++ " must be 1 or -1"

/-- What is wrong with an aggregation. -/
inductive PipelineFault where
  /-- A stage has no field or several. -/
  | stageFields
  /-- A limit is no number from one on. -/
  | limit
  /-- A stage is unknown, or its body has the wrong kind. -/
  | unsupportedStage (name : String)

/-- The message of a fault. -/
def PipelineFault.message : PipelineFault → String
  | stageFields => "each stage must have exactly one field"
  | limit => "$limit must be a positive number"
  | unsupportedStage name => "unsupported stage " ++ name

/-- An error of a store. -/
inductive StoreError where
  /-- The store cannot be reached. -/
  | connection (detail : String)
  | filter (fault : FilterFault)
  | pipeline (fault : PipelineFault)
  /-- An update has an operator that is unknown, or whose body has the wrong kind. -/
  | update (operator : String)
  /-- A write has failed. -/
  | write (detail : String)

/-- The message of an error. -/
def StoreError.message : StoreError → String
  | connection detail => "connection error: " ++ detail
  | filter fault => "invalid filter: " ++ fault.message
  | pipeline fault => "invalid pipeline: " ++ fault.message
  | update operator => "invalid update: unsupported update operator " ++ operator
  | write detail => "write failed: " ++ detail

end DocQuery
