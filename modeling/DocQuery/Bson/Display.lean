import DocQuery.Bson.Basic
import DocQuery.Number.Layout
import DocQuery.Time.Iso

/-!
# Display of Stored Values

The form in which messages show a stored value.  Texts stand in quotes without any escape, and the
fields of a document stand in braces with blanks inside.  An instant is shown with as many fraction
digits of its second as it needs, but at least one; an instant of a year with more than six digits
is shown as its number of milliseconds.
-/

namespace DocQuery.Bson

/-- A number of milliseconds as a fraction of a second without final zeros. -/
def millisFraction (n : Nat) : String :=
  if n % 100 = 0 then Text.padded 1 (n / 100)
  else if n % 10 = 0 then Text.padded 2 (n / 10)
  else Text.padded 3 n

/-- The display form of an instant. -/
def displayInstant (millis : Int) : String :=
  let t : Instant := { seconds := millis / 1000, nanos := 0 }
  if 999999 < t.date.year.natAbs then Text.integer millis
  else
    t.date.text ++ " " ++ Text.padded 1 t.hour ++ ":" ++ Text.padded 2 t.minute ++ ":" ++
      Text.padded 2 t.second ++ "." ++ millisFraction (millis % 1000).toNat ++ " +00:00:00"

mutual

/-- The display form of a stored value. -/
def display : Bson → String
  | null => "null"
  | bool b => if b then "true" else "false"
  | int32 n => Text.integer n.toInt
  | int64 n => Text.integer n.toInt
  | double x => x.plainText
  | string s => "\"" ++ s ++ "\""
  | dateTime millis => "DateTime(\"" ++ displayInstant millis ++ "\")"
  | objectId id => "ObjectId(\"" ++ id.text ++ "\")"
  | minKey => "MinKey"
  | maxKey => "MaxKey"
  | undefined => "undefined"
  | array items => "[" ++ displayItems items ++ "]"
  | document [] => "\x7b\x7d"
  | document fields => "\x7b " ++ displayFields fields ++ " \x7d"

/-- The display forms of items with commas between them. -/
def displayItems : List Bson → String
  | [] => ""
  | [item] => item.display
  | item :: rest => item.display ++ ", " ++ displayItems rest

/-- The display forms of fields with commas between them. -/
def displayFields : List (String × Bson) → String
  | [] => ""
  | [(name, item)] => "\"" ++ name ++ "\": " ++ item.display
  | (name, item) :: rest => "\"" ++ name ++ "\": " ++ item.display ++ ", " ++ displayFields rest

end

end DocQuery.Bson
