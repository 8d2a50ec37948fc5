import DocQuery.Regex.Basic

/-!
# Modes of Reading

A pattern is read in a mode, which its own directives such as `(?i)` can change.  Outside of the
Unicode mode, named sets and the edges of words are those of ASCII.  The verbose mode passes over
blanks and comments between the parts of a pattern.
-/

namespace DocQuery.Regex

/-- How a part of a pattern is to be read. -/
structure Mode where
  /-- Case is ignored. -/
  ignoreCase : Bool := false
  /-- `^` and `$` also match at lines. -/
  multiLine : Bool := false
  /-- `.` also matches the end of a line. -/
  dotAll : Bool := false
  /-- A carriage return ends lines as well. -/
  returns : Bool := false
  /-- Sets and edges of words are those of Unicode. -/
  unicode : Bool := true
  /-- Blanks and comments do not count. -/
  verbose : Bool := false

namespace Mode

/-- The rule for case. -/
def caseRule (m : Mode) : Text.CaseRule :=
  if !m.ignoreCase then .exact else if m.unicode then .simple else .ascii

/-- The expression for a character that stands for itself. -/
def char (m : Mode) (c : Char) : Regex := .char m.caseRule c

/-- A set with regard to case, or its complement.  Outside of the Unicode mode there is no
complement, since it would have characters beyond ASCII. -/
def close? (m : Mode) (negated : Bool) (s : CharSet) : Option CharSet :=
  let folded := s.fold m.caseRule
  if !negated then some folded else if m.unicode then some (.complement folded) else none

/-- The characters of `.`, which there are in the Unicode mode only. -/
def dot? (m : Mode) : Option CharSet :=
  if !m.unicode then none
  else if m.dotAll then some (.complement .empty)
  else if m.returns then some (.complement (.union (.single '\n') (.single '\r')))
  else some (.complement (.single '\n'))

/-- The anchor of `^`. -/
def startAnchor (m : Mode) : Anchor :=
  if !m.multiLine then .textStart else if m.returns then .returnLineStart else .lineStart

/-- The anchor of `$`. -/
def endAnchor (m : Mode) : Anchor :=
  if !m.multiLine then .textEnd else if m.returns then .returnLineEnd else .lineEnd

/-- An edge of words. -/
def wordAnchor (m : Mode) (edge : WordEdge) : Anchor :=
  .word (if m.unicode then .word else .asciiWord) edge

/-! ## Verbose mode -/

/-- Drops blanks and comments; a comment goes on to the end of its line. -/
def dropIgnored (inComment : Bool) : List Char → List Char
  | [] => []
  | c :: rest =>
    if inComment then dropIgnored (c ≠ '\n') rest
    else if Text.isBlank c then dropIgnored false rest
    else if c = '#' then dropIgnored true rest
    else c :: rest

/-- Drops what does not count in a mode. -/
def skip (m : Mode) (cs : List Char) : List Char :=
  if m.verbose then dropIgnored false cs else cs

/-- The next character that is no blank, where the sign of a comment is passed over but not what
the comment says. -/
def peek? (m : Mode) (cs : List Char) : Option Char :=
  if m.verbose then
    match cs.dropWhile Text.isBlank with
    | '#' :: rest => (rest.dropWhile Text.isBlank).head?
    | cs => cs.head?
  else cs.head?

/-- The characters that count up to a closing brace, and what follows the brace. -/
def readBraced (m : Mode) (inComment : Bool) : List Char → Option (List Char × List Char)
  | [] => none
  | c :: rest =>
    if inComment then readBraced m (c ≠ '\n') rest
    else if m.verbose && Text.isBlank c then readBraced m false rest
    else if m.verbose && c = '#' then readBraced m true rest
    else if c = '\x7d' then some ([], rest)
    else (readBraced m false rest).map fun (inner, rest) ↦ (c :: inner, rest)

/-! ## Directives -/

/-- Switches a flag on or off.  The flag `U` makes repetitions prefer fewer rounds, which finds the
same texts. -/
def switch? (m : Mode) (flag : Char) (on : Bool) : Option Mode :=
  match flag with
  | 'i' => some { m with ignoreCase := on }
  | 'm' => some { m with multiLine := on }
  | 's' => some { m with dotAll := on }
  | 'R' => some { m with returns := on }
  | 'u' => some { m with unicode := on }
  | 'x' => some { m with verbose := on }
  | 'U' => some m
  | _ => none

/-- Reads flags up to a colon or a closing parenthesis; `seen` are the flags before, from last to
first.  Flags after a hyphen are switched off, and nothing may stand twice. -/
def readFlags (m : Mode) (seen : List Char) : List Char → Option (Mode × Char × List Char)
  | [] => none
  | c :: rest =>
    if c = ':' ∨ c = ')' then
      if seen.head? = some '-' then none else some (m, c, rest)
    else if seen.contains c then none
    else if c = '-' then readFlags m (c :: seen) rest
    else
      match m.switch? c (!seen.contains '-') with
      | none => none
      | some m => readFlags m (c :: seen) rest

end Mode

end DocQuery.Regex
