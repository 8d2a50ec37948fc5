import DocQuery.Json.Basic

/-!
# Reading JSON

The grammar of JSON over lists of characters: blanks are the space, the tab and the two line ends,
and nothing but blanks may follow the value.  Every reader returns what it read and the rest of the
text.  The readers of values call each other at most twice between two characters, so twice the
length of the text bounds the number of nested calls.
-/

namespace DocQuery.Json

/-- Whether a character may stand between tokens. -/
def isSpace (c : Char) : Bool := c = ' ' || c = '\t' || c = '\n' || c = '\r'

/-- Drops the blanks at the start. -/
def skipSpace (cs : List Char) : List Char := cs.dropWhile isSpace

/-! ## Strings -/

/-- A part of a string: a character, or a sixteen-bit unit that was written with an escape. -/
inductive Piece where
  | char (c : Char)
  | unit (code : Nat)

/-- The unit that four hexadecimal digits name. -/
def unit? (a b c d : Char) : Option Nat := Text.hexDigitsValue? [a, b, c, d]

/-- The character that a letter after a backslash stands for. -/
def escaped? (c : Char) : Option Char :=
  if c = '"' ∨ c = '\\' ∨ c = '/' then some c
  else if c = 'b' then some '\x08'
  else if c = 'f' then some '\x0c'
  else if c = 'n' then some '\n'
  else if c = 'r' then some '\r'
  else if c = 't' then some '\t'
  else none

/-- The parts of a string up to its closing quote. -/
def readPieces : List Char → Option (List Piece × List Char)
  | [] => none
  | '"' :: rest => some ([], rest)
  | '\\' :: 'u' :: a :: b :: c :: d :: rest => do
    let code ← unit? a b c d
    let (pieces, tail) ← readPieces rest
    return (.unit code :: pieces, tail)
  | '\\' :: c :: rest => do
    let c ← escaped? c
    let (pieces, tail) ← readPieces rest
    return (.char c :: pieces, tail)
  | c :: rest =>
    if c = '\\' ∨ c.toNat < 0x20 then none
    else do
      let (pieces, tail) ← readPieces rest
      return (.char c :: pieces, tail)

/-- Whether a unit is the first half of a surrogate pair. -/
def isHighHalf (code : Nat) : Bool := 0xD800 ≤ code && code < 0xDC00

/-- Whether a unit is the second half of a surrogate pair. -/
def isLowHalf (code : Nat) : Bool := 0xDC00 ≤ code && code < 0xE000

/-- The characters that the parts of a string stand for, unless half of a pair stands alone. -/
def joinPieces : List Piece → Option (List Char)
  | [] => some []
  | .char c :: rest => (joinPieces rest).map (c :: ·)
  | .unit high :: .unit low :: rest =>
    if isHighHalf high then
      if isLowHalf low then
        (joinPieces rest).map
          (Char.ofNat (0x10000 + (high - 0xD800) * 0x400 + (low - 0xDC00)) :: ·)
      else none
    else if isLowHalf high then none
    else (joinPieces (.unit low :: rest)).map (Char.ofNat high :: ·)
  | .unit code :: rest =>
    if isHighHalf code || isLowHalf code then none
    else (joinPieces rest).map (Char.ofNat code :: ·)

/-- A string after its opening quote: its content, if it denotes one, and the rest of the text. -/
def readString (cs : List Char) : Option (Option String × List Char) :=
  (readPieces cs).map fun (pieces, rest) ↦ ((joinPieces pieces).map String.ofList, rest)

/-! ## Numbers -/

/-- One or more digits. -/
def readDigits (cs : List Char) : Option (List Char × List Char) :=
  let digits := cs.takeWhile Char.isDigit
  if digits.isEmpty then none else some (digits, cs.drop digits.length)

/-- A point with its digits, or nothing. -/
def readFraction : List Char → Option (List (Fin 10) × List Char)
  | '.' :: rest =>
    (readDigits rest).map fun (digits, tail) ↦ (digits.map Numeral.digitOf, tail)
  | cs => some ([], cs)

/-- An exponent, or nothing. -/
def readExponent (cs : List Char) : Option (Option Int × List Char) :=
  let positive (rest : List Char) :=
    (readDigits rest).map fun (digits, tail) ↦ (some (Text.digitsValue digits : Int), tail)
  match cs with
  | c :: rest =>
    if c = 'e' ∨ c = 'E' then
      match rest with
      | '+' :: rest => positive rest
      | '-' :: rest => (positive rest).map fun (value, tail) ↦ (value.map (- ·), tail)
      | rest => positive rest
    else some (none, cs)
  | [] => some (none, [])

/-- A number without its sign; zero is the only whole part that starts with a zero. -/
def readUnsigned (negative : Bool) (cs : List Char) : Option (Numeral × List Char) := do
  let (digits, rest) ← readDigits cs
  if digits.head? = some '0' ∧ digits.length ≠ 1 then none
  else
    let (fraction, rest) ← readFraction rest
    let (exponent, rest) ← readExponent rest
    return ({ negative, whole := Text.digitsValue digits, fraction, exponent }, rest)

/-- A number. -/
def readNumeral : List Char → Option (Numeral × List Char)
  | '-' :: rest => readUnsigned true rest
  | cs => readUnsigned false cs

/-! ## Values -/

/-- An object, unless one of its keys is unreadable. -/
def ofMembers (members : List (Option String × Json)) : Json :=
  match members.mapM fun (name, item) ↦ name.map (·, item) with
  | some readable => object readable
  | none => unreadable

mutual

/-- A value at the start of the text. -/
def readValue : Nat → List Char → Option (Json × List Char)
  | 0, _ => none
  | fuel + 1, cs =>
    match cs with
    | 'n' :: 'u' :: 'l' :: 'l' :: rest => some (null, rest)
    | 't' :: 'r' :: 'u' :: 'e' :: rest => some (bool true, rest)
    | 'f' :: 'a' :: 'l' :: 's' :: 'e' :: rest => some (bool false, rest)
    | '"' :: rest =>
      (readString rest).map fun (content, tail) ↦ (content.elim unreadable string, tail)
    | '[' :: rest =>
      match skipSpace rest with
      | ']' :: tail => some (array [], tail)
      | cs => (readItems fuel cs).map fun (items, tail) ↦ (array items, tail)
    | '\x7b' :: rest =>
      match skipSpace rest with
      | '\x7d' :: tail => some (object [], tail)
      | cs => (readMembers fuel cs).map fun (members, tail) ↦ (ofMembers members, tail)
    | cs => (readNumeral cs).map fun (n, tail) ↦ (number n, tail)

/-- The items of an array up to its closing bracket. -/
def readItems : Nat → List Char → Option (List Json × List Char)
  | 0, _ => none
  | fuel + 1, cs =>
    match readValue fuel cs with
    | none => none
    | some (item, rest) =>
      match skipSpace rest with
      | ']' :: tail => some ([item], tail)
      | ',' :: tail =>
        (readItems fuel (skipSpace tail)).map fun (items, tail) ↦ (item :: items, tail)
      | _ => none

/-- The members of an object up to its closing brace. -/
def readMembers : Nat → List Char → Option (List (Option String × Json) × List Char)
  | 0, _ => none
  | fuel + 1, cs =>
    match cs with
    | '"' :: rest =>
      match readString rest with
      | none => none
      | some (name, rest) =>
        match skipSpace rest with
        | ':' :: rest =>
          match readValue fuel (skipSpace rest) with
          | none => none
          | some (item, rest) =>
            match skipSpace rest with
            | '\x7d' :: tail => some ([(name, item)], tail)
            | ',' :: tail =>
              (readMembers fuel (skipSpace tail)).map fun (members, tail) ↦
                ((name, item) :: members, tail)
            | _ => none
        | _ => none
    | _ => none

end

/-- The JSON tree of a whole text. -/
def ofText? (source : String) : Option Json :=
  let cs := source.toList
  match readValue (2 * cs.length + 2) (skipSpace cs) with
  | some (tree, rest) => if (skipSpace rest).isEmpty then some tree else none
  | none => none

end DocQuery.Json
