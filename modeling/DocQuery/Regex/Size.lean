import DocQuery.Regex.Basic
import DocQuery.Regex.CodeRange

/-!
# Sizes of Regular Expressions

A search is prepared by two automata that read bytes, one from the start of a text and one from its
end.  Each state and each link between states takes memory, a repetition copies what it repeats, and
an expression is refused when one of the automata takes more memory than there is for it.

The states that read a character of a set make the difference between the automata.  Going forward,
they are shared whenever what follows is the same.  Going backward, they are shared only when the
first bytes are the same.

Three refinements are left out: alternatives that are plain texts are read by one tree, alternatives
that begin alike read their common start once, and a state that could be shared is made again when its
place among the ones kept for that has been taken by another.
-/

namespace DocQuery

/-! ## Automata -/

namespace Automaton

/-- The bytes of a state. -/
def stateSize : Nat := 32

/-- The bytes of a link to a further state. -/
def linkSize : Nat := 4

/-- The bytes of a link that reads a byte between two bounds. -/
def readSize : Nat := 8

/-- A sequence of bytes, each of them between two bounds. -/
abbrev ByteRanges := List (Nat × Nat)

/-! ### Backward -/

/-- How many bounds two sequences have in common at their start. -/
def commonLength : ByteRanges → ByteRanges → Nat
  | x :: rest, y :: others => if x = y then commonLength rest others + 1 else 0
  | _, _ => 0

/-- The number of states for ascending sequences, each of which shares the states of its start with
the sequence before. -/
def statesAfter (previous : ByteRanges) : List ByteRanges → Nat
  | [] => 0
  | sequence :: rest =>
    sequence.length - commonLength previous sequence + statesAfter sequence rest

/-- The size of the states that read ascending sequences backward. -/
def backwardSize (sequences : List ByteRanges) : Nat :=
  stateSize * (2 + statesAfter [] sequences) + linkSize * sequences.length

/-! ### Forward -/

/-- A state that reads a byte: the links to further states, by number. -/
abbrev Links := List ((Nat × Nat) × Nat)

/-- Adds a sequence to groups of sequences with the same start. -/
def addToGroups (sequence : ByteRanges) (groups : List ((Nat × Nat) × List ByteRanges)) :
    List ((Nat × Nat) × List ByteRanges) :=
  match sequence, groups with
  | [], groups => groups
  | bounds :: rest, [] => [(bounds, [rest])]
  | bounds :: rest, (other, tails) :: groups =>
    if bounds = other then (other, rest :: tails) :: groups
    else (bounds, [rest]) :: (other, tails) :: groups

/-- Adds the states for ascending sequences of at most a given length to the states before, and
gives the number of the first one.  A state that is there already is used again; number zero is the
end. -/
def addStates : Nat → List ByteRanges → List Links → Nat × List Links
  | 0, _, states => (0, states)
  | length + 1, sequences, states =>
    let (links, states) :=
      (sequences.foldr addToGroups []).foldl
        (fun (links, states) (bounds, tails) ↦
          let (target, states) := addStates length tails states
          ((bounds, target) :: links, states))
        (([] : Links), states)
    if links.isEmpty then (0, states)
    else
      match states.idxOf? links with
      | some later => (states.length - later, states)
      | none => (states.length + 1, links :: states)

/-- The size of the states that read ascending sequences forward. -/
def forwardSize (sequences : List ByteRanges) : Nat :=
  let states := (addStates 4 sequences []).2
  states.foldl (fun total links ↦ total + stateSize + readSize * links.length) stateSize

end Automaton

/-! ## Sizes of sets -/

namespace CharSet

open Automaton

/-- The size of a list of ranges, where `size` is the size of sequences with more than a byte. -/
def sizeOfRanges (size : List ByteRanges → Nat) (ranges : List CodeRange) : Nat :=
  if ranges.all fun r ↦ r.last < 0x80 then 2 * stateSize + readSize * ranges.length
  else size (ranges.flatMap fun r ↦ r.blocks.map CodeRange.byteRanges)

/-- The size of a set; a single character is read without links. -/
def sizeWith (size : List ByteRanges → Nat) (s : CharSet) : Nat :=
  match s.codeRanges with
  | [⟨first, last⟩] =>
    if first = last then stateSize * (CodeRange.bytes first).length
    else sizeOfRanges size [⟨first, last⟩]
  | ranges => sizeOfRanges size ranges

/-- The size of a set in the automaton that reads forward. -/
def forwardSize (s : CharSet) : Nat := s.sizeWith Automaton.forwardSize

/-- The size of a set in the automaton that reads backward. -/
def backwardSize (s : CharSet) : Nat := s.sizeWith Automaton.backwardSize

/-! ### Bounds -/

/-- A bound of the number of ranges of a set. -/
def rangeBound : CharSet → Nat
  | empty => 0
  | range _ _ => 1
  | table spans =>
    spans.foldl (fun total s ↦ total + if s.step = 1 then 1 else s.codes.length) 0
  | complement s => s.rangeBound + 1
  | union s t => s.rangeBound + t.rangeBound
  | intersection s t => s.rangeBound + t.rangeBound + 2
  | folded _ s => s.rangeBound + Text.casedChars.length

/-- A bound of the number of blocks between two code points. -/
def blockBound (first last : Nat) : Nat := if first / 0x40 = last / 0x40 then 1 else 21

/-- A bound of the number of blocks of a set. -/
def blocksBound : CharSet → Nat
  | empty => 0
  | range first last => blockBound first.toNat last.toNat
  | table spans =>
    spans.foldl
      (fun total s ↦
        total + if s.step = 1 then blockBound s.first s.last else s.codes.length)
      0
  | complement s => 21 + 8 * s.rangeBound
  | union s t => s.blocksBound + t.blocksBound
  | intersection s t => 21 + 8 * (s.rangeBound + t.rangeBound)
  | folded _ s => s.blocksBound + Text.casedChars.length

/-- A bound of the size of a set in both automata: a block takes four states at most. -/
def sizeBound (s : CharSet) : Nat :=
  2 * stateSize + 4 * (stateSize + readSize) * s.blocksBound

end CharSet

/-! ## Sizes of expressions -/

namespace Regex

/-- Whether an expression is left out beside others. -/
def isNothing : Regex → Bool
  | empty => true
  | seq first second => first.isNothing && second.isNothing
  | repetition _ _ most => most = some 0
  | _ => false

/-- Whether an expression matches nothing but the empty text. -/
def isEmptyOnly : Regex → Bool
  | empty => true
  | char _ _ => false
  | set _ => false
  | anchor _ => true
  | seq first second => first.isEmptyOnly && second.isEmptyOnly
  | alt first second => first.isEmptyOnly && second.isEmptyOnly
  | repetition r _ most => r.isEmptyOnly || most = some 0
  | group r => r.isEmptyOnly

/-- Whether an expression can match the empty text. -/
def canBeEmpty : Regex → Bool
  | empty => true
  | char _ _ => false
  | set _ => false
  | anchor _ => true
  | seq first second => first.canBeEmpty && second.canBeEmpty
  | alt first second => first.canBeEmpty || second.canBeEmpty
  | repetition r least _ => r.canBeEmpty || least = 0
  | group r => r.canBeEmpty

/-- The set of an expression that reads a single character. -/
def asSet? : Regex → Option CharSet
  | char rule c => some ((CharSet.single c).fold rule)
  | set s => some s
  | seq first second =>
    if first.isNothing then second.asSet? else if second.isNothing then first.asSet? else none
  | alt first second =>
    match first.asSet?, second.asSet? with
    | some s, some t => some (.union s t)
    | _, _ => none
  | _ => none

/-- The size of a choice between alternatives, apart from what they have in common. -/
def choiceSize : Nat := 2 * Automaton.stateSize

open Automaton in
/-- The size of an expression, given the sizes of sets and of the states around a group. -/
def size (setSize : CharSet → Nat) (groupSize : Nat) : Regex → Nat
  | empty => stateSize
  | char rule c =>
    if (rule.orbit c).all (· = c) then stateSize * c.utf8Size
    else setSize ((CharSet.single c).fold rule)
  | set s => setSize s
  | anchor _ => stateSize
  | seq first second =>
    if first.isNothing then second.size setSize groupSize
    else if second.isNothing then first.size setSize groupSize
    else first.size setSize groupSize + second.size setSize groupSize
  | alt first second =>
    let branch (r : Regex) (size : Nat) : Nat :=
      match r with
      | alt _ _ => size - choiceSize
      | _ => size + linkSize
    match (alt first second).asSet? with
    | some s => setSize s
    | none =>
      choiceSize + branch first (first.size setSize groupSize) +
        branch second (second.size setSize groupSize)
  | repetition r least most =>
    let once := r.size setSize groupSize
    let least := if r.isEmptyOnly then min least 1 else least
    let most := if r.isEmptyOnly then some (min (most.getD 1) 1) else most
    let copies := if least = 0 then stateSize else least * once
    match most with
    | some most =>
      if most = 0 then stateSize
      else if least = most then copies
      else if most = 1 then once + 2 * (stateSize + linkSize)
      else copies + stateSize + (most - least) * (once + stateSize + 2 * linkSize)
    | none =>
      if 0 < least then copies + stateSize + 2 * linkSize
      else if r.canBeEmpty then once + 3 * stateSize + 4 * linkSize
      else once + stateSize + 2 * linkSize
  | group r => r.size setSize groupSize + groupSize

/-- The memory for an automaton, ten mebibytes. -/
def greatestSize : Nat := 0xa00000

open Automaton in
/-- The size of the states that look for the start of a match and mark its end. -/
def searchSize : Nat := 4 * stateSize + readSize + 2 * linkSize

open Automaton in
/-- Whether there is memory enough for an expression.  The bound is tried first, since the sizes
themselves take more time. -/
def fits (r : Regex) : Bool :=
  r.size CharSet.sizeBound (2 * stateSize) + searchSize + 2 * stateSize ≤ greatestSize ||
    (r.size CharSet.forwardSize (2 * stateSize) + searchSize + 2 * stateSize ≤ greatestSize &&
      r.size CharSet.backwardSize 0 + searchSize ≤ greatestSize)

end Regex

end DocQuery
