import DocQuery.Json.Basic

/-!
# Writing JSON

JSON is written without blanks.  Strings escape the quote, the backslash and the characters below
U+0020, with a letter where there is one and with four lower-case hexadecimal digits elsewhere; all
other characters stand for themselves.
-/

namespace DocQuery.Json

/-- A hexadecimal digit. -/
def hexDigit (n : Nat) : Char := Nat.digitChar (n % 16)

/-- A character inside of a string. -/
def escapeChar (c : Char) : List Char :=
  if c = '"' then ['\\', '"']
  else if c = '\\' then ['\\', '\\']
  else if c = '\x08' then ['\\', 'b']
  else if c = '\x0c' then ['\\', 'f']
  else if c = '\n' then ['\\', 'n']
  else if c = '\r' then ['\\', 'r']
  else if c = '\t' then ['\\', 't']
  else if c.toNat < 0x20 then ['\\', 'u', '0', '0', hexDigit (c.toNat / 16), hexDigit c.toNat]
  else [c]

/-- A string with its quotes. -/
def quote (s : String) : String :=
  String.ofList ('"' :: (s.toList.flatMap escapeChar ++ ['"']))

mutual

/-- The text of a JSON tree; an unreadable part is written as half of a surrogate pair. -/
def text : Json → String
  | null => "null"
  | bool true => "true"
  | bool false => "false"
  | number n => n.text
  | string s => quote s
  | array items => "[" ++ itemsText items ++ "]"
  | object members => "\x7b" ++ membersText members ++ "\x7d"
  | unreadable => "\"\\ud800\""

/-- Items with commas between them. -/
def itemsText : List Json → String
  | [] => ""
  | [item] => item.text
  | item :: rest => item.text ++ "," ++ itemsText rest

/-- Members with commas between them. -/
def membersText : List (String × Json) → String
  | [] => ""
  | [(name, item)] => quote name ++ ":" ++ item.text
  | (name, item) :: rest => quote name ++ ":" ++ item.text ++ "," ++ membersText rest

end

end DocQuery.Json
