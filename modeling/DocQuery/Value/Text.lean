import DocQuery.Number.Layout
import DocQuery.Value.Json

/-!
# Texts of Values

The text of a value is what it contributes to a searched text: the items of an array are joined with
commas, an object is its JSON, and an instant its text with milliseconds.
-/

namespace DocQuery.Value

mutual

/-- The text of a value. -/
def text : Value → String
  | null => "null"
  | bool b => if b then "true" else "false"
  | int n => Text.integer n.toInt
  | float x => x.plainText
  | string s => s
  | array items => itemsText items
  | object fields => (Json.object (fieldsToJson fields)).text
  | time t => t.isoText

/-- The texts of the items with commas between them. -/
def itemsText : List Value → String
  | [] => ""
  | [item] => item.text
  | item :: rest => item.text ++ "," ++ itemsText rest

end

end DocQuery.Value
