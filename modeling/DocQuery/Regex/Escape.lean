import DocQuery.Regex.Mode
import DocQuery.Regex.Query
import DocQuery.Text.Digits

/-!
# Escapes of Patterns

What a backslash can stand before: ASCII characters that are neither letters nor digits, which then
stand for themselves, and some letters and angle brackets, which stand for control characters, codes
of characters, sets and anchors.
-/

namespace DocQuery.Regex

/-- What an escape stands for. -/
inductive Escape where
  | char (c : Char)
  | set (s : CharSet)
  | anchor (a : Anchor)

/-- Whether a character stands for itself after a backslash. -/
def isEscapable (c : Char) : Bool :=
  c.toNat < 0x80 && !c.isAlphanum && c ≠ '<' && c ≠ '>'

namespace Escape

/-- The character that a letter stands for. -/
def control? (c : Char) : Option Char :=
  match c with
  | 'a' => some '\x07'
  | 't' => some '\t'
  | 'n' => some '\n'
  | 'v' => some '\x0b'
  | 'f' => some '\x0c'
  | 'r' => some '\r'
  | _ => none

/-- The anchor that a character stands for. -/
def anchor? (m : Mode) (c : Char) : Option Anchor :=
  match c with
  | 'A' => some .textStart
  | 'z' => some .textEnd
  | '<' => some (m.wordAnchor .start)
  | '>' => some (m.wordAnchor .finish)
  | 'B' => some (m.wordAnchor .neither)
  | _ => none

/-- The set that a letter stands for; capital letters stand for complements. -/
def set? (m : Mode) (c : Char) : Option CharSet :=
  let pick (unicode ascii : CharSet) : CharSet := if m.unicode then unicode else ascii
  let complement? (s : CharSet) : Option CharSet :=
    if m.unicode then some (.complement s) else none
  match c with
  | 'd' => some (pick .decimal .asciiDecimal)
  | 's' => some (pick .blank .asciiBlank)
  | 'w' => some (pick .word .asciiWord)
  | 'D' => complement? .decimal
  | 'S' => complement? .blank
  | 'W' => complement? .word
  | _ => none

/-! ## Codes of characters -/

/-- The character of a code in hexadecimal digits. -/
def ofDigits? (digits : List Char) : Option Char :=
  if digits.isEmpty then none
  else
    (Text.hexDigitsValue? digits).bind fun code ↦
      if code.isValidChar then some (Char.ofNat code) else none

/-- So many hexadecimal digits. -/
def readDigits (m : Mode) : Nat → List Char → Option (List Char × List Char)
  | 0, cs => some ([], cs)
  | _ + 1, [] => none
  | n + 1, c :: rest =>
    (readDigits m n (m.skip rest)).map fun (digits, rest) ↦ (c :: digits, rest)

/-- A code after the letter that announces it: in braces, or with as many digits as the letter
says.  Two digits name a byte outside of the Unicode mode, and only bytes of ASCII are allowed. -/
def readCode (m : Mode) (count : Nat) (cs : List Char) : Option (Escape × List Char) := do
  match m.skip cs with
  | '\x7b' :: rest =>
    let (digits, rest) ← m.readBraced false rest
    return (.char (← ofDigits? digits), rest)
  | cs =>
    let (digits, rest) ← readDigits m count cs
    let c ← ofDigits? digits
    if count = 2 ∧ !m.unicode ∧ 0x80 ≤ c.toNat then none else return (.char c, rest)

/-! ## Properties -/

/-- A property after the letter that announces it: one letter, or a query in braces. -/
def readProperty (m : Mode) (negated : Bool) (cs : List Char) : Option (Escape × List Char) := do
  if !m.unicode then none
  else
    let (query, rest) ←
      match m.skip cs with
      | [] => none
      | '\\' :: _ => none
      | '\x7b' :: rest => m.readBraced false rest
      | c :: rest => some ([c], rest)
    let (s, differs) ← CharSet.ofQuery? query
    return (.set (← m.close? (negated != differs) s), rest)

/-! ## Edges of words -/

/-- The edge of words that a name stands for. -/
def edgeOfName? (name : String) : Option WordEdge :=
  match name with
  | "start" => some .start
  | "end" => some .finish
  | "start-half" => some .startHalf
  | "end-half" => some .finishHalf
  | _ => none

/-- Whether a character can be part of the name of an edge. -/
def isEdgeChar (c : Char) : Bool := c.isAlpha || c = '-'

/-- What follows the letter of an edge of words: a name in braces, or nothing.  Braces that do not
begin with a letter belong to a repetition. -/
def readEdge (m : Mode) (cs : List Char) : Option (Escape × List Char) :=
  let plain := some (.anchor (m.wordAnchor .either), cs)
  match cs with
  | '\x7b' :: rest =>
    match m.skip rest with
    | [] => none
    | c :: more =>
      if !isEdgeChar c then plain
      else
        match m.readBraced false (c :: more) with
        | none => none
        | some (name, rest) =>
          (edgeOfName? (String.ofList name)).map fun edge ↦ (.anchor (m.wordAnchor edge), rest)
  | _ => plain

/-! ## Escapes -/

/-- The escape after a backslash. -/
def read (m : Mode) : List Char → Option (Escape × List Char)
  | [] => none
  | c :: rest =>
    if isEscapable c then some (.char c, rest)
    else if c = 'x' then readCode m 2 rest
    else if c = 'u' then readCode m 4 rest
    else if c = 'U' then readCode m 8 rest
    else if c = 'p' ∨ c = 'P' then readProperty m (c = 'P') rest
    else if c = 'b' then readEdge m rest
    else
      match control? c, set? m c, anchor? m c with
      | some c, _, _ => some (.char c, rest)
      | _, some s, _ => some (.set s, rest)
      | _, _, some a => some (.anchor a, rest)
      | _, _, _ => none

end Escape

end DocQuery.Regex
