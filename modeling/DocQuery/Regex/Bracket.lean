import DocQuery.Regex.Escape

/-!
# Sets in Brackets

A set in brackets lists characters, ranges and escapes, and other sets in brackets.  `&&`, `--` and
`~~` combine what stands on their two sides to an intersection, a difference and a symmetric
difference; they group to the left.  Inside of a set, a name such as `[:alpha:]` stands for a set of
ASCII characters.

A closing bracket that comes first belongs to the set, and so do hyphens that come first and a
hyphen that comes last.
-/

namespace DocQuery.Regex

/-- Something that has been read, and how deep its parts are nested. -/
structure Nested (α : Type) where
  value : α
  depth : Nat := 0

/-- The depth of parts that stand side by side; a single part stands for itself. -/
def joinDepth : List Nat → Nat
  | [] => 0
  | [depth] => depth
  | depths => depths.foldl max 0 + 1

/-! ## Items -/

/-- A named set after its opening bracket. -/
def readNamed (m : Mode) : List Char → Option (Option CharSet × List Char)
  | ':' :: rest =>
    let negated := rest.head? = some '^'
    let rest := if negated then rest.drop 1 else rest
    let name := rest.takeWhile (· ≠ ':')
    match CharSet.ofAsciiName? (String.ofList name), rest.drop name.length with
    | some s, ':' :: ']' :: rest => some (m.close? negated s, rest)
    | _, _ => none
  | _ => none

/-- A character or an escape. -/
def readSetItem (m : Mode) : List Char → Option (Escape × List Char)
  | [] => none
  | '\\' :: rest => Escape.read m rest
  | c :: rest => some (.char c, rest)

/-- The characters between two; outside of the Unicode mode only those of ASCII can be listed. -/
def range? (m : Mode) (first last : Char) : Option CharSet :=
  if last < first ∨ (!m.unicode ∧ 0x80 ≤ last.toNat) then none else some (.range first last)

/-- A character, a range of characters or an escape that stands for a set. -/
def readRange (m : Mode) (cs : List Char) : Option (CharSet × List Char) := do
  let (first, rest) ← readSetItem m cs
  let rest := m.skip rest
  let isRange :=
    rest.head? = some '-' &&
      match m.peek? (rest.drop 1) with
      | some ']' => false
      | some '-' => false
      | _ => true
  if isRange then
    match first, ← readSetItem m (m.skip (rest.drop 1)) with
    | .char first, (.char last, rest) => return (← range? m first last, rest)
    | _, _ => none
  else
    match first with
    | .char c => return (← range? m c c, rest)
    | .set s => return (s, rest)
    | .anchor _ => none

/-! ## Open brackets -/

/-- A sign that combines two sets. -/
inductive SetOperator where
  | intersection
  | difference
  | symmetricDifference

/-- The combination of two sets. -/
def SetOperator.apply : SetOperator → CharSet → CharSet → CharSet
  | intersection => .intersection
  | difference => .difference
  | symmetricDifference => .symmetricDifference

/-- What has been read of a set whose bracket is still open. -/
structure OpenSet where
  /-- Whether the complement is meant. -/
  negated : Bool
  /-- The left side of the last sign that combines two sets. -/
  pending : Option (Nested CharSet × SetOperator) := none
  /-- What has been read since, from last to first. -/
  items : List (Nested CharSet) := []

namespace OpenSet

/-- Adds a set. -/
def push (o : OpenSet) (s : Nested CharSet) : OpenSet := { o with items := s :: o.items }

/-- What has been read, without regard to a complement. -/
def combined (m : Mode) (o : OpenSet) : Nested CharSet :=
  let right := CharSet.unions (o.items.reverse.map (·.value))
  let depth := joinDepth (o.items.map (·.depth))
  match o.pending with
  | none => ⟨right, depth⟩
  | some (left, operator) =>
    ⟨operator.apply (left.value.fold m.caseRule) (right.fold m.caseRule),
      max left.depth depth + 1⟩

/-- Goes on behind a sign that combines two sets. -/
def operate (m : Mode) (o : OpenSet) (operator : SetOperator) : OpenSet :=
  { negated := o.negated, pending := some (o.combined m, operator) }

/-- The set of a bracket that is closed. -/
def close? (m : Mode) (o : OpenSet) : Option (Nested CharSet) :=
  let s := o.combined m
  (m.close? o.negated s.value).map fun closed ↦ ⟨closed, s.depth + 1⟩

/-- Hyphens that come first. -/
def readHyphens (m : Mode) : Nat → OpenSet → List Char → OpenSet × List Char
  | 0, o, cs => (o, cs)
  | fuel + 1, o, cs =>
    match cs with
    | '-' :: rest => readHyphens m fuel (o.push { value := .single '-' }) (m.skip rest)
    | cs => (o, cs)

/-- Opens a set after its opening bracket. -/
def start (m : Mode) (cs : List Char) : OpenSet × List Char :=
  let cs := m.skip cs
  let negated := cs.head? = some '^'
  let cs := if negated then m.skip (cs.drop 1) else cs
  let (o, cs) := readHyphens m cs.length { negated } cs
  match o.items, cs with
  | [], ']' :: rest => (o.push { value := .single ']' }, m.skip rest)
  | _, cs => (o, cs)

end OpenSet

/-- Reads up to the bracket that closes the outermost set.  Every round takes a character at least,
so the length of the text bounds their number. -/
def readSetRest (m : Mode) :
    Nat → OpenSet → List OpenSet → List Char → Option (Nested CharSet × List Char)
  | 0, _, _, _ => none
  | fuel + 1, current, outer, cs =>
    match m.skip cs with
    | ']' :: rest =>
      match current.close? m, outer with
      | none, _ => none
      | some closed, [] => some (closed, rest)
      | some closed, enclosing :: outer =>
        readSetRest m fuel (enclosing.push closed) outer rest
    | '[' :: rest =>
      match readNamed m rest with
      | some (none, _) => none
      | some (some s, rest) => readSetRest m fuel (current.push { value := s }) outer rest
      | none =>
        let (inner, rest) := OpenSet.start m rest
        readSetRest m fuel inner (current :: outer) rest
    | '&' :: '&' :: rest => readSetRest m fuel (current.operate m .intersection) outer rest
    | '-' :: '-' :: rest => readSetRest m fuel (current.operate m .difference) outer rest
    | '~' :: '~' :: rest =>
      readSetRest m fuel (current.operate m .symmetricDifference) outer rest
    | cs =>
      match readRange m cs with
      | some (s, rest) => readSetRest m fuel (current.push { value := s }) outer rest
      | none => none

/-- A set after its opening bracket. -/
def readSet (m : Mode) (cs : List Char) : Option (Nested CharSet × List Char) :=
  let (o, rest) := OpenSet.start m cs
  readSetRest m (rest.length + 1) o [] rest

end DocQuery.Regex
