import DocQuery.Regex.Bracket
import DocQuery.Regex.Size
import DocQuery.Text.Letters

/-!
# Reading Regular Expressions

A pattern is first cut into lexemes: characters, sets, anchors, repetitions, bars, parentheses and
directives.  The mode of reading changes on the way: a directive holds up to the end of its group,
and the flags of a group hold inside of it.  The lexemes are then put together with a stack that
holds one frame for every open parenthesis.

Refused are unbalanced parentheses and brackets, repetitions of nothing or of a directive,
repetition counts out of order, ranges of characters out of order, escapes and flags without a
meaning, groups of one name, and looking ahead or behind.  Refused are also patterns whose parts are
nested too deep or that take too much memory.
-/

namespace DocQuery.Regex

/-! ## Lexemes -/

/-- A unit of a pattern. -/
inductive Lexeme where
  /-- An expression for itself. -/
  | item (r : Nested Regex)
  /-- A repetition of what stands before. -/
  | times (least : Nat) (most : Option Nat)
  | bar
  /-- The start of a group, which may be counted. -/
  | opening (counted : Bool)
  | closing
  /-- A change of the mode. -/
  | directive

/-- A lexeme for an expression without parts. -/
def Lexeme.leaf (r : Regex) : Lexeme := .item { value := r }

/-- The lexeme of an escape. -/
def Lexeme.ofEscape (m : Mode) : Escape → Lexeme
  | .char c => .leaf (m.char c)
  | .set s => .leaf (.set s)
  | .anchor a => .leaf (.anchor a)

/-- What the lexemes before have an effect on. -/
structure LexState where
  /-- The mode of reading. -/
  mode : Mode
  /-- The modes around the open parentheses, from the innermost to the outermost. -/
  outer : List Mode := []
  /-- The names of groups so far. -/
  names : List (List Char) := []

namespace LexState

/-- Begins a group with a mode. -/
def openGroup (s : LexState) (m : Mode) : LexState :=
  { s with mode := m, outer := s.mode :: s.outer }

/-- Ends a group: the mode before it holds again. -/
def closeGroup (s : LexState) : LexState :=
  match s.outer with
  | [] => s
  | m :: outer => { s with mode := m, outer }

end LexState

/-! ## Repetitions -/

/-- Drops the mark of a repetition that prefers fewer rounds, which finds the same texts. -/
def dropLazy : List Char → List Char
  | '?' :: rest => rest
  | cs => cs

/-- Decimal digits, and what does not count between them. -/
def readCountDigits (m : Mode) (inComment : Bool) : List Char → List Char × List Char
  | [] => ([], [])
  | c :: rest =>
    if inComment then readCountDigits m (c ≠ '\n') rest
    else if c.isDigit then
      let (digits, rest) := readCountDigits m false rest
      (c :: digits, rest)
    else if m.verbose && Text.isBlank c then readCountDigits m false rest
    else if m.verbose && c = '#' then readCountDigits m true rest
    else ([], c :: rest)

/-- Decimal digits, at least one, perhaps between blanks; their number has thirty-two bits. -/
def readCount (m : Mode) (cs : List Char) : Option (Nat × List Char) :=
  let (digits, rest) := readCountDigits m false (cs.dropWhile Text.isBlank)
  let count := Text.digitsValue digits
  if digits.isEmpty || 0x100000000 ≤ count then none
  else some (count, m.skip (rest.dropWhile Text.isBlank))

/-- The counts of a repetition after its opening brace. -/
def readCounts (m : Mode) (cs : List Char) : Option (Lexeme × List Char) := do
  let (least, rest) ← readCount m (m.skip cs)
  match rest with
  | '\x7d' :: rest => some (.times least (some least), rest)
  | ',' :: rest =>
    match m.skip rest with
    | '\x7d' :: rest => some (.times least none, rest)
    | rest =>
      let (most, rest) ← readCount m rest
      match rest with
      | '\x7d' :: rest => if least ≤ most then some (.times least (some most), rest) else none
      | _ => none
  | _ => none

/-! ## Groups -/

/-- Whether a character can be part of the name of a group. -/
def isGroupNameChar (isFirst : Bool) (c : Char) : Bool :=
  c = '_' || Text.isAlphabetic c ||
    (!isFirst && (Text.isNumeric c || c = '.' || c = '[' || c = ']'))

/-- Whether a text can be the name of a group. -/
def isGroupName : List Char → Bool
  | [] => false
  | c :: rest => isGroupNameChar true c && rest.all (isGroupNameChar false)

/-- The start of a group with a name, after its opening angle bracket. -/
def readGroupName (s : LexState) (cs : List Char) : Option (Lexeme × LexState × List Char) :=
  let name := cs.takeWhile (· ≠ '>')
  match cs.drop name.length with
  | _ :: rest =>
    if isGroupName name && !s.names.contains name then
      some (.opening true, { s.openGroup s.mode with names := name :: s.names }, rest)
    else none
  | [] => none

/-- The start of a group or a directive, after the opening parenthesis. -/
def readGroup (s : LexState) (cs : List Char) : Option (Lexeme × LexState × List Char) :=
  match s.mode.skip cs with
  | '?' :: 'P' :: '<' :: rest => readGroupName s rest
  | '?' :: '<' :: '=' :: _ => none
  | '?' :: '<' :: '!' :: _ => none
  | '?' :: '<' :: rest => readGroupName s rest
  | '?' :: ')' :: _ => none
  | '?' :: rest =>
    match s.mode.readFlags [] rest with
    | some (m, ':', rest) => some (.opening false, s.openGroup m, rest)
    | some (m, _, rest) => some (.directive, { s with mode := m }, rest)
    | none => none
  | rest => some (.opening true, s.openGroup s.mode, rest)

/-! ## Patterns -/

/-- The lexeme at the start of a pattern that begins with `c`. -/
def readLexeme (s : LexState) (c : Char) (rest : List Char) :
    Option (Lexeme × LexState × List Char) :=
  let m := s.mode
  match c with
  | '\\' => (Escape.read m rest).map fun (escape, rest) ↦ (.ofEscape m escape, s, rest)
  | '.' => m.dot?.map fun chars ↦ (.leaf (set chars), s, rest)
  | '^' => some (.leaf (anchor m.startAnchor), s, rest)
  | '$' => some (.leaf (anchor m.endAnchor), s, rest)
  | '|' => some (.bar, s, rest)
  | '(' => readGroup s rest
  | ')' => some (.closing, s.closeGroup, rest)
  | '*' => some (.times 0 none, s, dropLazy rest)
  | '+' => some (.times 1 none, s, dropLazy rest)
  | '?' => some (.times 0 (some 1), s, dropLazy rest)
  | '\x7b' =>
    (readCounts m rest).map fun (lexeme, rest) ↦ (lexeme, s, dropLazy (m.skip rest))
  | '[' =>
    (readSet m rest).map fun (chars, rest) ↦ (.item ⟨set chars.value, chars.depth⟩, s, rest)
  | c => some (.leaf (m.char c), s, rest)

/-- The lexemes of a pattern.  Every lexeme takes a character at least, so the length of the pattern
bounds their number. -/
def readLexemes : Nat → LexState → List Char → Option (List Lexeme)
  | 0, _, _ => none
  | fuel + 1, s, cs =>
    match s.mode.skip cs with
    | [] => some []
    | c :: rest =>
      match readLexeme s c rest with
      | none => none
      | some (lexeme, s, rest) => (readLexemes fuel s rest).map (lexeme :: ·)

/-! ## Structure -/

/-- The greatest depth of a pattern. -/
def greatestDepth : Nat := 250

/-- What has been read between two parentheses: the alternatives before the last bar and the items
after it, both from last to first. -/
structure Frame where
  /-- Whether the parentheses are counted. -/
  counted : Bool := false
  alternatives : List (Nested Regex) := []
  items : List (Nested Regex) := []
  /-- Whether a directive was the last item. -/
  endsInDirective : Bool := false

namespace Frame

/-- Adds an expression. -/
def push (f : Frame) (r : Nested Regex) : Frame :=
  { f with items := r :: f.items, endsInDirective := false }

/-- Adds a directive, which matches the empty text. -/
def pushDirective (f : Frame) : Frame :=
  { f with items := { value := empty } :: f.items, endsInDirective := true }

/-- The items after the last bar, one after the other. -/
def last (f : Frame) : Nested Regex :=
  ⟨sequence (f.items.reverse.map (·.value)), joinDepth (f.items.map (·.depth))⟩

/-- Ends an alternative at a bar. -/
def bar (f : Frame) : Frame :=
  { counted := f.counted, alternatives := f.last :: f.alternatives }

/-- The expression of a frame. -/
def regex (f : Frame) : Nested Regex :=
  let last := f.last
  ⟨f.alternatives.foldl (fun acc r ↦ alt r.value acc) last.value,
    joinDepth (last.depth :: f.alternatives.map (·.depth))⟩

/-- The expression of a frame with its parentheses. -/
def closed (f : Frame) : Nested Regex :=
  let inner := f.regex
  ⟨if f.counted then group inner.value else inner.value, inner.depth + 1⟩

end Frame

/-- A repetition. -/
def Nested.times (r : Nested Regex) (least : Nat) (most : Option Nat) : Nested Regex :=
  ⟨repetition r.value least most, r.depth + 1⟩

/-- Puts lexemes together, in a frame inside of others. -/
def assemble (frame : Frame) (outer : List Frame) : List Lexeme → Option (Nested Regex)
  | [] => if outer.isEmpty then some frame.regex else none
  | .item r :: rest => assemble (frame.push r) outer rest
  | .directive :: rest => assemble frame.pushDirective outer rest
  | .times least most :: rest =>
    match frame.items, frame.endsInDirective with
    | r :: items, false =>
      assemble { frame with items := r.times least most :: items } outer rest
    | _, _ => none
  | .bar :: rest => assemble frame.bar outer rest
  | .opening counted :: rest => assemble { counted } (frame :: outer) rest
  | .closing :: rest =>
    match outer with
    | [] => none
    | enclosing :: outer => assemble (enclosing.push frame.closed) outer rest

/-- The regular expression of a pattern. -/
def ofPattern? (ignoreCase : Bool) (pattern : String) : Option Regex :=
  let cs := pattern.toList
  match (readLexemes (cs.length + 1) { mode := { ignoreCase } } cs).bind (assemble {} []) with
  | none => none
  | some r => if r.depth ≤ greatestDepth && r.value.fits then some r.value else none

end DocQuery.Regex
