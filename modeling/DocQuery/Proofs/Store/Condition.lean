import DocQuery.Filter.Tree
import DocQuery.Store.Matching

/-!
# How a Store Reads Conditions

A match tree keeps its conditions apart by their kind, but the match document of a tree holds them as
plain values, and a store tells them apart by the dollar sign of a first name.  The statements here
say what each kind of condition comes to once it has been written and read.

An equality is read as such only where its value is no document of operators, and a field is read
as such only where its name is not that of an operator.  Everything else is read back as it was
meant, and only a regular expression that is not accepted can make it fail.
-/

namespace DocQuery

/-- A check that is looked at before what follows it, where an error is passed on. -/
theorem bind_ite_eq_match (check yes no : Except StoreError Bool) :
    (check.bind fun passed ↦ if passed then yes else no) =
      match check with
      | .ok true => yes
      | .ok false => no
      | .error e => .error e := by
  cases check with
  | error e => rfl
  | ok passed => cases passed <;> rfl

theorem bind_const_eq_match (check : Except StoreError Unit) (next : Except StoreError Bool) :
    (check.bind fun _ ↦ next) =
      match check with
      | .ok () => next
      | .error e => .error e := by
  cases check <;> rfl

/-! ## Comparisons -/

/-- Whether a field stands in the relation of a comparison operator to a value. -/
def Comparator.holds (field : Option Bson) (value : Bson) : Comparator → Bool
  | eq => fieldEquals field value
  | ne => !fieldEquals field value
  | gt => fieldCompare? field value == some .gt
  | gte => fieldCompare? field value == some .gt || fieldCompare? field value == some .eq
  | lt => fieldCompare? field value == some .lt
  | lte => fieldCompare? field value == some .lt || fieldCompare? field value == some .eq

/-- Whether a field is a text that an expression matches. -/
def Regex.matchesField (r : Regex) : Option Bson → Bool
  | some (.string s) => r.isMatch s
  | _ => false

/-- A value that is no document of operators is what the field has to equal. -/
theorem fieldMatches_of_not_isOperatorDocument (field : Option Bson) {value : Bson}
    (h : isOperatorDocument value = false) :
    fieldMatches field value = .ok (fieldEquals field value) := by
  cases value with
  | document fields => simp [fieldMatches, h]
  | _ => rw [fieldMatches]; simp

/-- Whether a field passes one operator of a list. -/
def operatorPasses (field options : Option Bson) (name : String) (operand : Bson) :
    Except StoreError Bool :=
  if name = "$not" then (fieldMatches field operand).map not
  else match FieldTest.ofName? name with
    | some test => test.passes field options operand
    | none => .error (.filter (.unsupportedOperator name))

theorem operatorsMatch_cons (field options : Option Bson) (name : String) (operand : Bson)
    (rest : Document) :
    operatorsMatch field options ((name, operand) :: rest) =
      (operatorPasses field options name operand).bind fun passed ↦
        if passed then operatorsMatch field options rest else .ok false := by
  rw [bind_ite_eq_match, operatorsMatch]
  rfl

/-- Two fields pass the same lists of operators if they pass the same operators of the list. -/
theorem operatorsMatch_congr {field other options : Option Bson} {operators : Document}
    (h : ∀ name operand, (name, operand) ∈ operators →
      operatorPasses field options name operand = operatorPasses other options name operand) :
    operatorsMatch field options operators = operatorsMatch other options operators := by
  induction operators with
  | nil => rfl
  | cons operator rest ih =>
    obtain ⟨name, operand⟩ := operator
    have hrest := ih fun name operand hmem ↦ h name operand (List.mem_cons_of_mem _ hmem)
    rw [operatorsMatch_cons, operatorsMatch_cons, h name operand (List.mem_cons_self ..), hrest]

/-- A single operator is what its test says. -/
theorem operatorsMatch_single (field options : Option Bson) {name : String} {test : FieldTest}
    (htest : FieldTest.ofName? name = some test) (hnot : name ≠ "$not") (operand : Bson) :
    operatorsMatch field options [(name, operand)] = test.passes field options operand := by
  have hpasses : operatorPasses field options name operand =
      test.passes field options operand := by
    rw [operatorPasses, if_neg hnot, htest]
  rw [operatorsMatch_cons, hpasses]
  cases test.passes field options operand with
  | error e => rfl
  | ok passed => cases passed <;> rfl

/-- The test of a comparison operator. -/
def Comparator.test : Comparator → FieldTest
  | eq => .eq
  | ne => .ne
  | gt => .gt
  | gte => .gte
  | lt => .lt
  | lte => .lte

theorem Comparator.ofName?_name (op : Comparator) :
    FieldTest.ofName? op.name = some op.test := by
  cases op <;> rfl

theorem Comparator.isOperatorName_name (op : Comparator) : isOperatorName op.name = true := by
  cases op <;> rfl

theorem Comparator.name_ne_not (op : Comparator) : op.name ≠ "$not" := by
  cases op <;> decide

/-- A comparison is read as its relation, whatever the value. -/
theorem fieldMatches_compare (field : Option Bson) (op : Comparator) (value : Bson) :
    fieldMatches field (Condition.compare op value).toBson = .ok (op.holds field value) := by
  rw [Condition.toBson, fieldMatches, isOperatorDocument, if_pos op.isOperatorName_name,
    operatorsMatch_single _ _ op.ofName?_name op.name_ne_not]
  cases op <;> rfl

/-! ## Patterns -/

/-- The expression of a pattern, if it is accepted. -/
def Pattern.regex? (p : Pattern) : Option Regex := Regex.ofPattern? p.ignoreCase p.regex

/-- What a search for a pattern comes to. -/
def Pattern.search (p : Pattern) (field : Option Bson) : Except StoreError Bool :=
  match p.regex? with
  | some r => .ok (r.matchesField field)
  | none => .error (.filter (.badRegex p.regex))

/-- The operators of a pattern are a search for it. -/
theorem fieldMatches_toDocument (field : Option Bson) (p : Pattern) :
    fieldMatches field (.document p.toDocument) = p.search field := by
  obtain ⟨regex, ignoreCase⟩ := p
  have htest (options : Option Bson) (hcase : ignoresCase options = ignoreCase) :
      regexTest field (.string regex) options =
        Pattern.search { regex, ignoreCase } field := by
    unfold regexTest Pattern.search Pattern.regex?
    simp only [hcase]
    cases Regex.ofPattern? ignoreCase regex with
    | none => rfl
    | some r => cases field with
      | none => rfl
      | some value => cases value <;> rfl
  cases ignoreCase with
  | false =>
    have hread : fieldMatches field (.document (Pattern.toDocument ⟨regex, false⟩)) =
        operatorsMatch field none [("$regex", .string regex)] := by
      rw [fieldMatches]
      rfl
    rw [hread, operatorsMatch_single _ _ (show FieldTest.ofName? "$regex" = some .regex from rfl)
      (by decide)]
    exact htest none rfl
  | true =>
    have hread : fieldMatches field (.document (Pattern.toDocument ⟨regex, true⟩)) =
        operatorsMatch field (some (.string "i"))
          [("$regex", .string regex), ("$options", .string "i")] := by
      rw [fieldMatches]
      rfl
    have hregex : FieldTest.ofName? "$regex" = some .regex := rfl
    have hoptions : FieldTest.ofName? "$options" = some .options := rfl
    rw [hread, operatorsMatch]
    simp only [hregex, FieldTest.passes]
    rw [htest _ rfl, operatorsMatch_single _ _ hoptions (by decide), if_neg (by decide)]
    cases Pattern.search { regex, ignoreCase := true } field with
    | error e => rfl
    | ok found => cases found <;> rfl

/-- The negation of a pattern is a search for it that fails. -/
theorem fieldMatches_lacks (field : Option Bson) (p : Pattern) :
    fieldMatches field (Condition.lacks p).toBson = (p.search field).map not := by
  have hread : fieldMatches field (Condition.lacks p).toBson =
      operatorsMatch field none [("$not", .document p.toDocument)] := by
    rw [Condition.toBson, fieldMatches]
    rfl
  rw [hread, operatorsMatch]
  simp only [if_true, fieldMatches_toDocument]
  cases p.search field with
  | error e => rfl
  | ok found => cases found <;> simp [Except.map, operatorsMatch]

/-! ## Conditions and clauses -/

/-- Whether a condition is read back without an error: an equality as such, and a search for an
expression that is accepted. -/
def Condition.IsReadable : Condition → Prop
  | null => True
  | equals value => isOperatorDocument value = false
  | compare _ _ => True
  | contains p => p.regex?.isSome = true
  | lacks p => p.regex?.isSome = true

/-- Whether a field satisfies a condition as it is meant. -/
def Condition.holds (field : Option Bson) : Condition → Bool
  | null => fieldEquals field .null
  | equals value => fieldEquals field value
  | compare op value => op.holds field value
  | contains p => p.regex?.any fun r ↦ r.matchesField field
  | lacks p => !p.regex?.any fun r ↦ r.matchesField field

/-- A condition that is readable is read as it is meant. -/
theorem fieldMatches_toBson (field : Option Bson) {c : Condition} (h : c.IsReadable) :
    fieldMatches field c.toBson = .ok (c.holds field) := by
  cases c with
  | null => exact fieldMatches_of_not_isOperatorDocument field rfl
  | equals value => exact fieldMatches_of_not_isOperatorDocument field h
  | compare op value => exact fieldMatches_compare field op value
  | contains p =>
    obtain ⟨r, hr⟩ := Option.isSome_iff_exists.1 h
    rw [Condition.toBson, fieldMatches_toDocument]
    simp [Pattern.search, Condition.holds, hr]
  | lacks p =>
    obtain ⟨r, hr⟩ := Option.isSome_iff_exists.1 h
    rw [fieldMatches_lacks]
    simp [Pattern.search, Condition.holds, hr, Except.map]

/-! ## Fields of a match document -/

/-- Whether a document satisfies one field of a match document. -/
def conditionPasses (doc : Document) (name : String) (condition : Bson) :
    Except StoreError Bool :=
  match ConditionName.of name with
  | .field => fieldMatches (Fields.get? name doc) condition
  | .unknownOperator => .error (.filter (.topLevelOperator name))
  | .and =>
    match condition with
    | .array entries => (checkEntries name entries).bind fun _ ↦ matchesEvery doc entries
    | _ => .error (.filter (.needsArray name))
  | .or =>
    match condition with
    | .array entries => (checkEntries name entries).bind fun _ ↦ matchesSome doc entries
    | _ => .error (.filter (.needsArray name))

theorem entryMatches_document (doc filter : Document) :
    entryMatches doc (.document filter) = Document.matches doc filter := rfl

theorem matchesEvery_cons (doc : Document) (entry : Bson) (rest : List Bson) :
    matchesEvery doc (entry :: rest) =
      (entryMatches doc entry).bind fun passed ↦
        if passed then matchesEvery doc rest else .ok false := by
  rw [bind_ite_eq_match]
  cases entry <;> rfl

theorem matchesSome_cons (doc : Document) (entry : Bson) (rest : List Bson) :
    matchesSome doc (entry :: rest) =
      (entryMatches doc entry).bind fun passed ↦
        if passed then .ok true else matchesSome doc rest := by
  rw [bind_ite_eq_match]
  cases entry <;> rfl

/-- The fields of a match document are looked at in turn, up to the first that fails. -/
theorem matchesFields_cons (doc : Document) (name : String) (condition : Bson)
    (rest : List (String × Bson)) :
    matchesFields doc ((name, condition) :: rest) =
      (conditionPasses doc name condition).bind fun passed ↦
        if passed then matchesFields doc rest else .ok false := by
  rw [bind_ite_eq_match]
  unfold conditionPasses
  simp only [bind_const_eq_match]
  -- the recursion over values only opens once the kind of the condition is known
  cases condition <;> rfl

/-- A match document of one field is what that field comes to. -/
theorem matches_singleton (doc : Document) (name : String) (condition : Bson) :
    Document.matches doc [(name, condition)] = conditionPasses doc name condition := by
  rw [Document.matches, matchesFields_cons]
  cases conditionPasses doc name condition with
  | error e => rfl
  | ok passed => cases passed <;> rfl

theorem ConditionName.of_eq_field {name : String} (h : isOperatorName name = false) :
    ConditionName.of name = .field := by
  have hand : name ≠ "$and" := by
    rintro rfl
    exact absurd h (by decide)
  have hor : name ≠ "$or" := by
    rintro rfl
    exact absurd h (by decide)
  unfold ConditionName.of
  rw [if_neg hand, if_neg hor, if_neg (by simp [h])]

/-- A condition under the name of a field is read as a condition on that field. -/
theorem matches_single (doc : Document) {field : String} (h : isOperatorName field = false)
    (condition : Bson) :
    Document.matches doc [(field, condition)] =
      fieldMatches (Fields.get? field doc) condition := by
  rw [matches_singleton]
  unfold conditionPasses
  rw [ConditionName.of_eq_field h]

/-- A clause on a field is read as it is meant. -/
theorem matches_clause (doc : Document) {field : String} (hfield : isOperatorName field = false)
    {c : Condition} (hc : c.IsReadable) :
    Document.matches doc (MatchTree.clause field c).toDocument =
      .ok (c.holds (Fields.get? field doc)) := by
  rw [MatchTree.toDocument, matches_single doc hfield, fieldMatches_toBson _ hc]

end DocQuery
