/-!
# Named Fields

A list of named values that holds each name at most once, in an order that is part of the value.
Names may be of any type whose members can be told apart; they are mostly texts.
`put` keeps the place of a name that is present and appends one that is not; `putSorted` keeps the
names in the order of their code points.  Both keep the other fields as they are.
-/

namespace DocQuery.Fields

variable {κ α : Type}

section
variable [DecidableEq κ]

/-- The value of a name. -/
def get? (name : κ) : List (κ × α) → Option α
  | [] => none
  | (key, value) :: rest => if key = name then some value else get? name rest

/-- Sets the value of a name, in its place or else at the end. -/
def put (name : κ) (value : α) : List (κ × α) → List (κ × α)
  | [] => [(name, value)]
  | (key, old) :: rest =>
    if key = name then (key, value) :: rest else (key, old) :: put name value rest

/-- Removes a name and keeps the order of the others. -/
def erase (name : κ) (fields : List (κ × α)) : List (κ × α) :=
  fields.filter fun field ↦ field.1 ≠ name

/-- Sets each of the given fields in turn. -/
def putAll (fields new : List (κ × α)) : List (κ × α) :=
  new.foldl (fun acc field ↦ put field.1 field.2 acc) fields

end

/-- Sets the value of a name in a list that is sorted by name. -/
def putSorted (name : String) (value : α) : List (String × α) → List (String × α)
  | [] => [(name, value)]
  | (key, old) :: rest =>
    if key = name then (name, value) :: rest
    else if name < key then (name, value) :: (key, old) :: rest
    else (key, old) :: putSorted name value rest

/-- The fields sorted by name; of two with one name the later stays. -/
def sorted (fields : List (String × α)) : List (String × α) :=
  fields.foldl (fun acc field ↦ putSorted field.1 field.2 acc) []

end DocQuery.Fields
