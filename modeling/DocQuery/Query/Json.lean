import DocQuery.Query.Expression
import DocQuery.Value.Json

/-!
# Expressions and JSON

An expression is written as an object with all defaults spelled out, its tokens as strings, arrays
and objects whose `type` names the kind of statement.

Reading is more generous.  A record is an object in which unknown members are ignored and known
ones may not be repeated, or an array of its fields in order of which final ones may be left out
if they have defaults.  An array of tokens is a group; an array that is none is tried as a
statement.  A word of a vocabulary may be the only member of an object.

Whatever stands inside of a token must be sound, and at most 127 arrays and objects may be nested
on the way to a part that is asked for; members of an expression or a sort that nobody asks for
only have to be JSON.
-/

namespace DocQuery

/-! ## Writing -/

namespace TextOptions

/-- The JSON of text options. -/
def toJson (o : TextOptions) : Json :=
  .object
    [("caseSensitive", .bool o.caseSensitive), ("startsWith", .bool o.startsWith),
      ("endsWith", .bool o.endsWith), ("includes", .bool o.includes)]

/-- The fields of text options in their order. -/
def fieldNames : List String := ["caseSensitive", "startsWith", "endsWith", "includes"]

end TextOptions

namespace BoundSide

/-- The name of the kind of statement. -/
def typeName : BoundSide → String
  | before => "datesBefore"
  | after => "datesAfter"

/-- The name of the option that includes the date itself. -/
def inclusiveName : BoundSide → String
  | before => "equalToAndBefore"
  | after => "equalToAndAfter"

end BoundSide

/-- The JSON of a statement. -/
def Statement.toJson : Statement → Json
  | property p => .object
      [("type", .string "property"), ("key", .string p.key), ("value", p.value.toJson),
        ("valueType", .string p.valueType.name), ("equalitySymbol", .string p.symbol.name),
        ("options", p.options.toJson)]
  | bound b => .object
      [("type", .string b.side.typeName), ("key", .string b.key), ("date", b.date.toJson),
        ("valueType", .string b.valueType.name),
        ("options", .object [(b.side.inclusiveName, .bool b.inclusive)])]

mutual

/-- The JSON of a token. -/
def Token.toJson : Token → Json
  | .connective c => .string c.name
  | .group tokens => .array (tokensToJson tokens)
  | .statement s => s.toJson

/-- The JSON of every token. -/
def tokensToJson : List Token → List Json
  | [] => []
  | t :: rest => t.toJson :: tokensToJson rest

end

/-- The JSON of a sort rule. -/
def SortRule.toJson (r : SortRule) : Json :=
  .object [("key", .string r.key), ("order", .string r.order.name)]

namespace Expression

/-- The JSON of an expression; sort and take are written only where they are present. -/
def toJson (e : Expression) : Json :=
  .object <|
    [("query", .array (tokensToJson e.tokens))] ++
    (e.sort.map fun rule ↦ ("sort", rule.toJson)).toList ++
    (e.take.map fun take ↦ ("take", .number (Numeral.ofInt take.count))).toList

/-- The JSON text of an expression. -/
def jsonText (e : Expression) : String := e.toJson.text

end Expression

/-! ## Reading -/

namespace Json

/-- The fields of a record, by name: the known members of an object, none of them twice, or the
items of an array in the order of the names. -/
def record? (names : List String) : Json → Option (List (String × Json))
  | object members =>
    let known := members.filter fun member ↦ names.contains member.1
    if (known.map (·.1)).Nodup then some known else none
  | array items => if items.length ≤ names.length then some (names.zip items) else none
  | _ => none

/-- The string that a tree is. -/
def string? : Json → Option String
  | string s => some s
  | _ => none

/-- A flag, which is not set if it is left out. -/
def flag? : Option Json → Option Bool
  | none => some false
  | some (bool b) => some b
  | some _ => none

/-- A word of a vocabulary inside of a token: a string, or the name of the only member of an object
whose value is null or empty. -/
def word? : Json → Option String
  | string s => some s
  | object [(name, null)] => some name
  | object [(name, object [])] => some name
  | _ => none

/-- A word of a vocabulary, with its default if it is left out. -/
def wordOr? {α : Type} (default : α) (ofName? : String → Option α) : Option Json → Option α
  | none => some default
  | some tree => tree.word?.bind ofName?

end Json

/-- Reads text options. -/
def TextOptions.ofJson? : Option Json → Option TextOptions
  | none => some {}
  | some tree => do
    let fields ← tree.record? fieldNames
    return {
      caseSensitive := ← Json.flag? (Fields.get? "caseSensitive" fields)
      startsWith := ← Json.flag? (Fields.get? "startsWith" fields)
      endsWith := ← Json.flag? (Fields.get? "endsWith" fields)
      includes := ← Json.flag? (Fields.get? "includes" fields) }

/-- Reads a comparison of a property from its record. -/
def Property.ofJson? (tree : Json) : Option Property := do
  let fields ← tree.record? ["key", "value", "valueType", "equalitySymbol", "options"]
  return {
    key := ← (← Fields.get? "key" fields).string?
    value := ← Value.ofJson? (← Fields.get? "value" fields)
    valueType := ← Json.wordOr? .string ValueType.ofName? (Fields.get? "valueType" fields)
    symbol := ← Json.wordOr? .eq Symbol.ofName? (Fields.get? "equalitySymbol" fields)
    options := ← TextOptions.ofJson? (Fields.get? "options" fields) }

/-- Reads whether a bound includes its date. -/
def BoundSide.inclusive? (side : BoundSide) : Option Json → Option Bool
  | none => some false
  | some tree => do
    let fields ← tree.record? [side.inclusiveName]
    Json.flag? (Fields.get? side.inclusiveName fields)

/-- Reads a bound on a date from its record. -/
def DateBound.ofJson? (side : BoundSide) (tree : Json) : Option DateBound := do
  let fields ← tree.record? ["key", "date", "valueType", "options"]
  return {
    side
    key := ← (← Fields.get? "key" fields).string?
    date := ← Value.ofJson? (← Fields.get? "date" fields)
    valueType := ← Json.wordOr? .date ValueType.ofName? (Fields.get? "valueType" fields)
    inclusive := ← side.inclusive? (Fields.get? "options" fields) }

/-- The kinds of statements. -/
inductive StatementKind where
  | property
  | bound (side : BoundSide)

namespace StatementKind

/-- Reads a kind from its name or from its place in the list of kinds. -/
def ofJson? : Json → Option StatementKind
  | .string "property" => some property
  | .string "datesBefore" => some (bound .before)
  | .string "datesAfter" => some (bound .after)
  | .number n =>
    match n.int? with
    | some 0 => some property
    | some 1 => some (bound .before)
    | some 2 => some (bound .after)
    | _ => none
  | _ => none

/-- Reads a statement of this kind from its record. -/
def statement? : StatementKind → Json → Option Statement
  | property, tree => (Property.ofJson? tree).map .property
  | bound side, tree => (DateBound.ofJson? side tree).map .bound

end StatementKind

namespace Statement

/-- Reads a statement from an object with exactly one member `type`, which may stand anywhere. -/
def ofMembers? (members : List (String × Json)) : Option Statement :=
  match members.filter fun member ↦ member.1 = "type" with
  | [(_, tree)] => do
    let kind ← StatementKind.ofJson? tree
    kind.statement? (.object (members.filter fun member ↦ member.1 ≠ "type"))
  | _ => none

/-- Reads a statement from an array whose first item is the kind. -/
def ofItems? : List Json → Option Statement
  | [] => none
  | tree :: rest => do (← StatementKind.ofJson? tree).statement? (.array rest)

end Statement

mutual

/-- Reads a token. -/
def Token.ofJson? : Json → Option Token
  | .string s => (Connective.ofName? s).map .connective
  | .array items =>
    match tokensOfJson? items with
    | some tokens => some (.group tokens)
    | none => (Statement.ofItems? items).map .statement
  | .object members => (Statement.ofMembers? members).map .statement
  | _ => none

/-- Reads every token of an array. -/
def tokensOfJson? : List Json → Option (List Token)
  | [] => some []
  | item :: rest =>
    match Token.ofJson? item, tokensOfJson? rest with
    | some token, some tokens => some (token :: tokens)
    | _, _ => none

end

/-- Reads an order from a string or from the name of the only member of an object, which is null. -/
def SortOrder.ofJson? : Json → Option SortOrder
  | .string s => ofName? s
  | .object [(name, .null)] => ofName? name
  | _ => none

/-- Reads a sort rule, of which both fields are required. -/
def SortRule.ofJson? (tree : Json) : Option SortRule := do
  let fields ← tree.record? ["key", "order"]
  return {
    key := ← (← Fields.get? "key" fields).string?
    order := ← SortOrder.ofJson? (← Fields.get? "order" fields) }

/-- Reads the number of records to take. -/
def Take.ofJson? : Json → Option Take
  | .number n => n.int?.bind fun value ↦ Take.ofInt? value.toInt
  | _ => none

namespace Expression

/-- Reads the tokens of an expression, inside of which every part must be sound. -/
def tokens? : Option Json → Option (List Token)
  | none => some []
  | some (.array items) =>
    if Json.itemsSound items && Json.itemsDepth items + 2 ≤ Json.greatestDepth then
      tokensOfJson? items
    else none
  | some _ => none

/-- Reads a part of an expression that may be missing or null. -/
def optional? {α : Type} (read : Json → Option α) : Option Json → Option (Option α)
  | none => some none
  | some .null => some none
  | some tree => (read tree).map some

/-- Reads an expression. -/
def ofJson? (tree : Json) : Option Expression := do
  let fields ← tree.record? ["query", "sort", "take"]
  return {
    tokens := ← tokens? (Fields.get? "query" fields)
    sort := ← optional? SortRule.ofJson? (Fields.get? "sort" fields)
    take := ← optional? Take.ofJson? (Fields.get? "take" fields) }

/-- Reads the text of an expression. -/
def ofJsonText? (source : String) : Option Expression :=
  (Json.ofText? source).bind ofJson?

end Expression

end DocQuery
