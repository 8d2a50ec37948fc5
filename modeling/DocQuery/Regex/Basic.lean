import DocQuery.Regex.CharSet

/-!
# Regular Expressions

Regular expressions over characters, with anchors that look at the characters on both sides of a
place.  The places of a text are numbered from zero, its start, to its length, its end.

`Regex.reach` takes a set of places and gives all places where a match that begins at one of them
can end.  A whole set is followed at once, so the work grows with the number of places and not with
the number of ways to divide the text.  A text has a match when something is reached from the set of
all its places.

Sets of places are ascending lists.  A repetition adds places in rounds until a round finds no new
one; a text with `n` characters has `n + 1` places, which bounds the number of rounds.
-/

namespace DocQuery

/-! ## Anchors -/

/-- What is asked of a place with regard to words. -/
inductive WordEdge where
  /-- The start of a word. -/
  | start
  /-- The end of a word. -/
  | finish
  /-- The start or the end of a word. -/
  | either
  /-- Neither the start nor the end of a word. -/
  | neither
  /-- No word goes on from before the place. -/
  | startHalf
  /-- No word goes on behind the place. -/
  | finishHalf

/-- A condition on the characters on both sides of a place. -/
inductive Anchor where
  /-- The start of the text. -/
  | textStart
  /-- The end of the text. -/
  | textEnd
  /-- The start of a line. -/
  | lineStart
  /-- The end of a line. -/
  | lineEnd
  /-- The start of a line, where a carriage return ends lines as well. -/
  | returnLineStart
  /-- The end of a line, where a carriage return ends lines as well. -/
  | returnLineEnd
  /-- An edge of words, of which the set of characters is given. -/
  | word (chars : CharSet) (edge : WordEdge)

/-- Whether there is a word on a side of an edge. -/
def WordEdge.holds (wordBefore wordAfter : Bool) : WordEdge → Bool
  | start => !wordBefore && wordAfter
  | finish => wordBefore && !wordAfter
  | either => wordBefore != wordAfter
  | neither => wordBefore == wordAfter
  | startHalf => !wordBefore
  | finishHalf => !wordAfter

/-- Whether a place between two characters, or an end of the text, fulfils an anchor. -/
def Anchor.holds (before after : Option Char) : Anchor → Bool
  | textStart => before.isNone
  | textEnd => after.isNone
  | lineStart => before.isNone || before = some '\n'
  | lineEnd => after.isNone || after = some '\n'
  | returnLineStart =>
    before.isNone || before = some '\n' || (before = some '\r' && after ≠ some '\n')
  | returnLineEnd =>
    after.isNone || after = some '\r' || (after = some '\n' && before ≠ some '\r')
  | word chars edge => edge.holds (before.any chars.has) (after.any chars.has)

/-- Whether a place of a text fulfils an anchor. -/
def Anchor.holdsAt (text : Array Char) (place : Nat) (a : Anchor) : Bool :=
  a.holds (if place = 0 then none else text[place - 1]?) text[place]?

/-! ## Expressions -/

/-- A regular expression. -/
inductive Regex where
  /-- The empty text. -/
  | empty
  /-- One character that is equal to a given one. -/
  | char (rule : Text.CaseRule) (c : Char)
  /-- One character of a set. -/
  | set (s : CharSet)
  /-- Nothing, at a place that fulfils an anchor. -/
  | anchor (a : Anchor)
  /-- One after the other. -/
  | seq (first second : Regex)
  /-- One or the other. -/
  | alt (first second : Regex)
  /-- A number of repetitions between two bounds, or with a lower bound only. -/
  | repetition (r : Regex) (least : Nat) (most : Option Nat)
  /-- An expression in parentheses that are counted. -/
  | group (r : Regex)

/-! ## Sets of places -/

/-- A set of places: an ascending list. -/
abbrev Places := List Nat

namespace Places

/-- The places in one of two sets. -/
def union : Places → Places → Places
  | [], others => others
  | place :: rest, others =>
    others.takeWhile (· < place) ++ place :: union rest (others.dropWhile (· ≤ place))

/-- The places of the first set that are not in the second. -/
def difference : Places → Places → Places
  | [], _ => []
  | place :: rest, others =>
    let others := others.dropWhile (· < place)
    if others.head? = some place then difference rest others
    else place :: difference rest others

/-- The places after a given number of steps.  When a step changes nothing, no further one does. -/
def iterate (step : Places → Places) : Nat → Places → Places
  | 0, places => places
  | n + 1, places =>
    let next := step places
    if next = places then places else iterate step n next

/-- The places after at most a given number of further steps, where the last step found the places
`fresh`. -/
def closure (step : Places → Places) : Nat → Places → Places → Places
  | 0, reached, _ => reached
  | n + 1, reached, fresh =>
    let found := difference (step fresh) reached
    if found.isEmpty then reached else closure step n (union reached found) found

end Places

namespace Regex

/-- One expression after the other. -/
def sequence (parts : List Regex) : Regex := parts.foldr seq empty

/-- The place after the character at a place, if the character is accepted. -/
def after? (text : Array Char) (accepts : Char → Bool) (place : Nat) : Option Nat :=
  match text[place]? with
  | some c => if accepts c then some (place + 1) else none
  | none => none

/-- The places where matches end that begin at one of the places. -/
def reach (text : Array Char) : Regex → Places → Places
  | empty, places => places
  | char rule c, places => places.filterMap (after? text (rule.same c))
  | set s, places => places.filterMap (after? text s.has)
  | anchor a, places => places.filter fun place ↦ a.holdsAt text place
  | seq first second, places => reach text second (reach text first places)
  | alt first second, places => (reach text first places).union (reach text second places)
  | repetition r least most, places =>
    let step := reach text r
    let reached := Places.iterate step least places
    let rounds :=
      match most with
      | some most => most - least
      | none => text.size + 1
    Places.closure step rounds reached reached
  | group r, places => reach text r places

/-- Whether the expression matches anywhere in a text. -/
def isMatch (r : Regex) (text : String) : Bool :=
  let chars := text.toList.toArray
  !(r.reach chars (List.range (chars.size + 1))).isEmpty

end Regex

end DocQuery
