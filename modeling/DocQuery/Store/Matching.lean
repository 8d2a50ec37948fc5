import DocQuery.Regex.Reading
import DocQuery.Store.Order

/-!
# Matching

A match document selects documents.  Its fields are conditions that are checked in turn until one
fails: `$and` and `$or` join further match documents, every other name is that of a field.  The
condition on a field is a value that the field equals or a document of operators, which is
recognised by the dollar sign of its first name.

An error is reported only when the check gets to it.  Thus a regular expression that cannot be
read goes unnoticed behind a condition that fails, but not where the field is missing.
-/

namespace DocQuery

/-- Whether a name is that of an operator. -/
def isOperatorName (name : String) : Bool := name.toList.head? == some '$'

/-- Whether a condition is a document of operators. -/
def isOperatorDocument : Bson → Bool
  | .document ((name, _) :: _) => isOperatorName name
  | _ => false

/-! ## Operators on fields -/

/-- The operators that compare a field with a value or a list of values. -/
inductive FieldTest where
  | eq
  | ne
  | gt
  | gte
  | lt
  | lte
  | among
  | regex
  | options

/-- The operator with a name. -/
def FieldTest.ofName? : String → Option FieldTest
  | "$eq" => some eq
  | "$ne" => some ne
  | "$gt" => some gt
  | "$gte" => some gte
  | "$lt" => some lt
  | "$lte" => some lte
  | "$in" => some among
  | "$regex" => some regex
  | "$options" => some options
  | _ => none

/-- Whether the options of a regular expression say that case is ignored. -/
def ignoresCase : Option Bson → Bool
  | some (.string s) => s.toList.contains 'i'
  | _ => false

/-- Whether a field is a text that a regular expression matches. -/
def regexTest (field : Option Bson) (pattern : Bson) (options : Option Bson) :
    Except StoreError Bool :=
  match pattern with
  | .string pattern =>
    match Regex.ofPattern? (ignoresCase options) pattern with
    | none => .error (.filter (.badRegex pattern))
    | some r =>
      match field with
      | some (.string s) => .ok (r.isMatch s)
      | _ => .ok false
  | _ => .error (.filter .regexNotText)

/-- Whether a field passes an operator; `options` is the sibling that goes with a regular
expression. -/
def FieldTest.passes (field : Option Bson) (options : Option Bson) (operand : Bson) :
    FieldTest → Except StoreError Bool
  | eq => .ok (fieldEquals field operand)
  | ne => .ok (!fieldEquals field operand)
  | gt => .ok (fieldCompare? field operand == some .gt)
  | gte =>
    let order := fieldCompare? field operand
    .ok (order == some .gt || order == some .eq)
  | lt => .ok (fieldCompare? field operand == some .lt)
  | lte =>
    let order := fieldCompare? field operand
    .ok (order == some .lt || order == some .eq)
  | among =>
    match operand with
    | .array candidates => .ok (candidates.any (fieldEquals field))
    | _ => .error (.filter (.needsArray "$in"))
  | regex => regexTest field operand options
  | .options => .ok true

mutual

/-- Whether a field satisfies a condition. -/
def fieldMatches (field : Option Bson) : Bson → Except StoreError Bool
  | .document fields =>
    if isOperatorDocument (.document fields) then
      operatorsMatch field (Fields.get? "$options" fields) fields
    else .ok (fieldEquals field (.document fields))
  | condition => .ok (fieldEquals field condition)

/-- Whether a field passes all operators of a list. -/
def operatorsMatch (field : Option Bson) (options : Option Bson) :
    List (String × Bson) → Except StoreError Bool
  | [] => .ok true
  | (name, operand) :: rest =>
    let passed : Except StoreError Bool :=
      if name = "$not" then (fieldMatches field operand).map not
      else match FieldTest.ofName? name with
        | some test => test.passes field options operand
        | none => .error (.filter (.unsupportedOperator name))
    match passed with
    | .ok true => operatorsMatch field options rest
    | .ok false => .ok false
    | .error e => .error e

end

/-! ## Match documents -/

/-- The meaning of a name in a match document. -/
inductive ConditionName where
  | and
  | or
  | unknownOperator
  | field
deriving DecidableEq

/-- The meaning of a name. -/
def ConditionName.of (name : String) : ConditionName :=
  if name = "$and" then and
  else if name = "$or" then or
  else if isOperatorName name then unknownOperator
  else field

/-- Checks that all entries of a joining operator are documents. -/
def checkEntries (name : String) : List Bson → Except StoreError Unit
  | [] => .ok ()
  | .document _ :: rest => checkEntries name rest
  | entry :: _ => .error (.filter (.entryNotDocument name entry))

mutual

/-- Whether a document satisfies all fields of a match document. -/
def matchesFields (doc : Document) : List (String × Bson) → Except StoreError Bool
  | [] => .ok true
  | (name, condition) :: rest =>
    let passed : Except StoreError Bool :=
      match ConditionName.of name with
      | .field => fieldMatches (Fields.get? name doc) condition
      | .unknownOperator => .error (.filter (.topLevelOperator name))
      | .and =>
        match condition with
        | .array entries =>
          match checkEntries name entries with
          | .ok () => matchesEvery doc entries
          | .error e => .error e
        | _ => .error (.filter (.needsArray name))
      | .or =>
        match condition with
        | .array entries =>
          match checkEntries name entries with
          | .ok () => matchesSome doc entries
          | .error e => .error e
        | _ => .error (.filter (.needsArray name))
    match passed with
    | .ok true => matchesFields doc rest
    | .ok false => .ok false
    | .error e => .error e

/-- Whether a document satisfies an entry of a joining operator; other entries than documents have
been refused before. -/
def entryMatches (doc : Document) : Bson → Except StoreError Bool
  | .document filter => matchesFields doc filter
  | _ => .ok false

/-- Whether a document satisfies every entry, up to the first that fails. -/
def matchesEvery (doc : Document) : List Bson → Except StoreError Bool
  | [] => .ok true
  | entry :: rest =>
    match entryMatches doc entry with
    | .ok true => matchesEvery doc rest
    | .ok false => .ok false
    | .error e => .error e

/-- Whether a document satisfies some entry, up to the first that does. -/
def matchesSome (doc : Document) : List Bson → Except StoreError Bool
  | [] => .ok false
  | entry :: rest =>
    match entryMatches doc entry with
    | .ok true => .ok true
    | .ok false => matchesSome doc rest
    | .error e => .error e

end

/-- Whether a match document selects a document. -/
def Document.matches (doc filter : Document) : Except StoreError Bool := matchesFields doc filter

/-- The documents that a match document selects. -/
def selectDocuments (filter : Document) : List Document → Except StoreError (List Document)
  | [] => .ok []
  | doc :: rest => do
    let selected ← Document.matches doc filter
    let others ← selectDocuments filter rest
    return if selected then doc :: others else others

/-- The index of the first document that a match document selects. -/
def firstMatch? (filter : Document) : List Document → Except StoreError (Option Nat)
  | [] => .ok none
  | doc :: rest => do
    if ← Document.matches doc filter then return some 0
    else return (← firstMatch? filter rest).map (· + 1)

end DocQuery
