import DocQuery.Regex.Break
import DocQuery.Text.Age

/-!
# Queries of Properties

A query names a set of characters: by the name of a property, a general category or a script, or by
a property and one of its values, as in `script=greek`.  Case, blanks, hyphens, underscores and an
`is` in front make no difference.
-/

namespace DocQuery.CharSet

/-! ## Names -/

/-- Whether a character counts in a name. -/
def isNameChar (c : Char) : Bool :=
  c.toNat < 0x80 && c ≠ ' ' && c ≠ '-' && c ≠ '_'

/-- The part of a name that counts.  Only the abbreviation `isc` keeps its beginning, so that it is
not taken for the category `c`. -/
def canonicalName (name : List Char) : String :=
  let (start, rest) := name.splitAt 2
  let isMarked := start.map Char.toLower = ['i', 's']
  let counted := ((if isMarked then rest else name).filter isNameChar).map Char.toLower
  if isMarked && counted = ['c'] then "isc" else String.ofList counted

/-- The set that a single name stands for. -/
def ofName? (name : List Char) : Option CharSet :=
  let name := canonicalName name
  (ofPropertyName? name).or ((ofCategoryName? name).or (ofScriptName? name))

/-! ## Values -/

/-- The versions up to one that is named. -/
def agesThrough? (name : String) : List Text.Age → Option (List Text.Age)
  | [] => none
  | age :: rest =>
    if age.version = name || age.code = name then some [age]
    else (agesThrough? name rest).map (age :: ·)

/-- The characters of a version and of all versions before. -/
def ofAge? (name : String) : Option CharSet :=
  (agesThrough? name Text.ages).map fun ages ↦ unions (ages.map fun age ↦ table age.spans)

/-- The set of the characters that have a value of a property. -/
def ofValue? (property value : List Char) : Option CharSet :=
  let value := canonicalName value
  match canonicalName property with
  | "gc" | "generalcategory" => ofCategoryName? value
  | "sc" | "script" => ofScriptName? value
  | "scx" | "scriptextensions" => ofScriptExtensionName? value
  | "age" => ofAge? value
  | "gcb" | "graphemeclusterbreak" => ofCharacterBreak? value
  | "wb" | "wordbreak" => ofWordBreak? value
  | "sb" | "sentencebreak" => ofSentenceBreak? value
  | _ => none

/-! ## Queries -/

/-- Divides a text at the first place where a separator stands. -/
def splitAt? (separator : List Char) : List Char → Option (List Char × List Char)
  | [] => none
  | c :: rest =>
    if separator.isPrefixOf (c :: rest) then some ([], (c :: rest).drop separator.length)
    else (splitAt? separator rest).map fun (before, after) ↦ (c :: before, after)

/-- The set of a query, and whether its complement is meant. -/
def ofQuery? (query : List Char) : Option (CharSet × Bool) :=
  match splitAt? ['!', '='] query with
  | some (property, value) => (ofValue? property value).map (·, true)
  | none =>
    match (splitAt? [':'] query).or (splitAt? ['='] query) with
    | some (property, value) => (ofValue? property value).map (·, false)
    | none => (ofName? query).map (·, false)

end DocQuery.CharSet
