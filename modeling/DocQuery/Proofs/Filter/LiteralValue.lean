import DocQuery.Proofs.Filter.Meaning
import DocQuery.Proofs.Store.Depth

/-!
# Equality with Literal Values

A comparison under a type other than text and number asks for equality with the value as it is.  Its
match document holds the key and the value as they are, too, and names and values share this document
with the operators of a store.

The main statement says exactly where a store reads such a comparison literally: where the key is not
spelled like an operator and the value is no object whose first name is.  Elsewhere, no operator can
take the place of the equality.  A key that is spelled like an operator leaves the store without any
look at the field, and operators find no difference between the value itself and a deeper document.
-/

namespace DocQuery

/-- Whether a match document compares the field under a key with a value, whatever the document that
it is read for. -/
def ReadsLiterally (filter : Document) (key : String) (value : Bson) : Prop :=
  ∀ doc, Document.matches doc filter = .ok (fieldEquals (Fields.get? key doc) value)

/-! ## Names of fields -/

theorem ConditionName.isOperatorName_eq_false {name : String} (h : ConditionName.of name = .field) :
    isOperatorName name = false := by
  cases hname : isOperatorName name with
  | false => rfl
  | true =>
    unfold ConditionName.of at h
    rw [if_pos hname] at h
    split at h
    · cases h
    · split at h <;> cases h

variable {doc other : Document}

theorem matchesEvery_congr {entries : List Bson}
    (h : ∀ entry ∈ entries, entryMatches doc entry = entryMatches other entry) :
    matchesEvery doc entries = matchesEvery other entries := by
  induction entries with
  | nil => rfl
  | cons entry rest ih =>
    have hrest := ih fun entry hmem ↦ h entry (List.mem_cons_of_mem _ hmem)
    rw [matchesEvery_cons, matchesEvery_cons, h entry (List.mem_cons_self ..), hrest]

theorem matchesSome_congr {entries : List Bson}
    (h : ∀ entry ∈ entries, entryMatches doc entry = entryMatches other entry) :
    matchesSome doc entries = matchesSome other entries := by
  induction entries with
  | nil => rfl
  | cons entry rest ih =>
    have hrest := ih fun entry hmem ↦ h entry (List.mem_cons_of_mem _ hmem)
    rw [matchesSome_cons, matchesSome_cons, h entry (List.mem_cons_self ..), hrest]

theorem matchesFields_congr {filter : Document}
    (h : ∀ name condition, (name, condition) ∈ filter →
      conditionPasses doc name condition = conditionPasses other name condition) :
    matchesFields doc filter = matchesFields other filter := by
  induction filter with
  | nil => rfl
  | cons field rest ih =>
    obtain ⟨name, condition⟩ := field
    have hrest := ih fun name condition hmem ↦ h name condition (List.mem_cons_of_mem _ hmem)
    rw [matchesFields_cons, matchesFields_cons, h name condition (List.mem_cons_self ..), hrest]

section
variable (hagree : ∀ name, isOperatorName name = false → Fields.get? name doc = Fields.get? name other)
include hagree

theorem conditionPasses_congr_of_entries {condition : Bson}
    (hentries : ∀ entries, condition = .array entries →
      ∀ entry ∈ entries, entryMatches doc entry = entryMatches other entry) (name : String) :
    conditionPasses doc name condition = conditionPasses other name condition := by
  unfold conditionPasses
  cases hname : ConditionName.of name with
  | field => simp only [hagree name (ConditionName.isOperatorName_eq_false hname)]
  | unknownOperator => rfl
  | and =>
    cases condition with
    | array entries => simp only [matchesEvery_congr (hentries entries rfl)]
    | _ => rfl
  | or =>
    cases condition with
    | array entries => simp only [matchesSome_congr (hentries entries rfl)]
    | _ => rfl

/-- Documents that agree on the names of fields satisfy the same conditions: nothing else of them is
looked at. -/
theorem conditionPasses_congr (name : String) (condition : Bson) :
    conditionPasses doc name condition = conditionPasses other name condition := by
  -- entries of joining operators and conditions contain each other
  suffices h : entryMatches doc condition = entryMatches other condition ∧
      ∀ name, conditionPasses doc name condition = conditionPasses other name condition from
    h.2 name
  induction condition using Bson.induction with
  | scalar b hb =>
    cases b with
    | array items => exact absurd hb (by simp [Bson.depth])
    | document fields => exact absurd hb (by simp [Bson.depth])
    | _ => exact ⟨rfl, conditionPasses_congr_of_entries hagree (fun _ h ↦ by cases h)⟩
  | array items ih =>
    refine ⟨rfl, conditionPasses_congr_of_entries hagree ?_⟩
    rintro entries ⟨rfl⟩ entry hentry
    exact (ih entry hentry).1
  | document fields ih =>
    refine ⟨?_, conditionPasses_congr_of_entries hagree (fun _ h ↦ by cases h)⟩
    exact matchesFields_congr fun name condition hmem ↦ (ih name condition hmem).2 name

end

/-! ## Where a comparison is read literally -/

variable {key : String} {value : Bson}

/-- What is spelled like neither operators nor an operator is read literally. -/
theorem readsLiterally_of_plain (hkey : isOperatorName key = false)
    (hvalue : isOperatorDocument value = false) : ReadsLiterally [(key, value)] key value := by
  intro doc
  rw [matches_single doc hkey, fieldMatches_of_not_isOperatorDocument _ hvalue]

/-- A key that is spelled like an operator is not read as the name of a field. -/
theorem ReadsLiterally.key_plain (h : ReadsLiterally [(key, value)] key value)
    (hnull : fieldEquals none value = false) (hself : fieldEquals (some value) value = true) :
    isOperatorName key = false := by
  cases hkey : isOperatorName key with
  | false => rfl
  | true =>
    have hagree (name : String) (hname : isOperatorName name = false) :
        Fields.get? name [] = Fields.get? name [(key, value)] := by
      have hne : key ≠ name := by
        rintro rfl
        exact absurd hkey (by simp [hname])
      rw [Fields.get?_cons, if_neg hne]
    have hempty : Document.matches [] [(key, value)] = .ok false := by
      rw [h [], ← hnull]
      rfl
    have hfull : Document.matches [(key, value)] [(key, value)] = .ok true := by
      rw [h, Fields.get?_cons, if_pos rfl, hself]
    rw [matches_singleton] at hempty hfull
    rw [conditionPasses_congr hagree, hfull] at hempty
    exact absurd (Except.ok.inj hempty) (by simp)

/-- A document of operators is not read as a value. -/
theorem ReadsLiterally.value_plain (h : ReadsLiterally [(key, value)] key value)
    (hkey : isOperatorName key = false) (hself : fieldEquals (some value) value = true) :
    isOperatorDocument value = false := by
  cases value with
  | document fields =>
    cases hoperators : isOperatorDocument (.document fields) with
    | false => rfl
    | true =>
      let deeper : Document := [("", .document fields)]
      have hdeeper : (Bson.document fields).depth < (Bson.document deeper).depth :=
        Bson.depth_lt_of_mem (List.mem_cons_self ..)
      have hread (x : Document) : fieldMatches (some (.document x)) (.document fields) =
          .ok (fieldEquals (some (.document x)) (.document fields)) := by
        have hmatches := h [(key, .document x)]
        rwa [matches_single _ hkey, Fields.get?_cons, if_pos rfl] at hmatches
      have hsame : fieldMatches (some (.document fields)) (.document fields) =
          fieldMatches (some (.document deeper)) (.document fields) := by
        rw [fieldMatches, fieldMatches, if_pos hoperators, if_pos hoperators]
        apply operatorsMatch_congr
        intro name operand hmem
        have hlt := Bson.depth_lt_of_mem hmem
        have hlt' := Nat.lt_trans hlt hdeeper
        exact operatorPasses_congr _ name hlt hlt' (fieldMatches_congr operand hlt hlt')
      rw [hread, hread, hself, fieldEquals_eq_false hdeeper] at hsame
      exact absurd (Except.ok.inj hsame) (by simp)
  | _ => rfl

/-- The document of a comparison under another type than text and number holds the key and the
value as they are. -/
theorem Property.clause_eq_equals {p : Property} (hstring : p.valueType ≠ .string)
    (hnumber : p.valueType ≠ .number) (habsent : p.value.isAbsent = false)
    (hinstant : p.value.instant? = none) (path : TokenPath) :
    p.clause path = .ok (.clause p.key (.equals p.value.toBson)) := by
  have hcondition : p.condition path = .ok (.equals p.value.toBson) := by
    unfold Property.condition
    rw [if_neg (by simp [habsent]), hinstant]
    cases htype : p.valueType with
    | string => exact absurd htype hstring
    | number => exact absurd htype hnumber
    | date | boolean | object | array => rfl
  rw [Property.clause, hcondition]
  rfl

theorem Value.fieldEquals_none_toBson {v : Value} (h : v.isAbsent = false) :
    fieldEquals none v.toBson = false := by
  cases v with
  | null => exact absurd h (by decide)
  | int n =>
    rw [toBson, Bson.ofInt]
    split <;> rfl
  | _ => rfl

/-- A comparison under another type than text and number asks for equality of the field under its
key with its value, exactly where neither of them is spelled like an operator.  For the converse the
value has to be equal to itself, which one that holds a NaN is not. -/
theorem Property.clause_readsLiterally (p : Property) (path : TokenPath)
    (hstring : p.valueType ≠ .string) (hnumber : p.valueType ≠ .number)
    (habsent : p.value.isAbsent = false) (hinstant : p.value.instant? = none) :
    ∃ tree, p.clause path = .ok tree ∧
      (isOperatorName p.key = false ∧ p.value.isOperatorObject = false →
        ReadsLiterally tree.toDocument p.key p.value.toBson) ∧
      (fieldEquals (some p.value.toBson) p.value.toBson = true →
        ReadsLiterally tree.toDocument p.key p.value.toBson →
          isOperatorName p.key = false ∧ p.value.isOperatorObject = false) := by
  refine ⟨_, clause_eq_equals hstring hnumber habsent hinstant path, ?_, ?_⟩
  · rintro ⟨hkey, hvalue⟩
    exact readsLiterally_of_plain hkey (p.value.isOperatorDocument_toBson.trans hvalue)
  · intro hself hread
    have hkey := hread.key_plain (Value.fieldEquals_none_toBson habsent) hself
    have hvalue := hread.value_plain hkey hself
    exact ⟨hkey, p.value.isOperatorDocument_toBson.symm.trans hvalue⟩

/-- An array of a document with a name that is spelled like an operator, which is read literally
nevertheless. -/
theorem Property.clause_readsLiterally_array :
    ∃ tree,
      Property.clause
          { key := "tags", value := .array [.object [("$gt", .int 1)]], valueType := .array } [] =
        .ok tree ∧
        ReadsLiterally tree.toDocument "tags"
          (.array [.document [("$gt", .int32 1)]]) := by
  obtain ⟨tree, hclause, hliteral, _⟩ := Property.clause_readsLiterally
    { key := "tags", value := .array [.object [("$gt", .int 1)]], valueType := .array } []
    (by decide) (by decide) rfl rfl
  exact ⟨tree, hclause, hliteral ⟨by decide, rfl⟩⟩

/-- An object whose name is that of an operator selects a truth value, which it does not equal, and a
key that is spelled like an operator is refused. -/
theorem Property.clause_not_readsLiterally :
    (∃ tree,
      Property.clause
          { key := "done", value := .object [("$ne", .bool true)], valueType := .object } [] =
        .ok tree ∧
        Document.matches [("done", .bool false)] tree.toDocument = .ok true ∧
          fieldEquals (some (.bool false)) (.document [("$ne", .bool true)]) = false) ∧
      ∃ tree,
        Property.clause { key := "$done", value := .bool true, valueType := .boolean } [] =
          .ok tree ∧
          Document.matches [("$done", .bool true)] tree.toDocument =
            .error (.filter (.topLevelOperator "$done")) := by
  refine ⟨⟨_, rfl, ?_, ?_⟩, ⟨_, rfl, ?_⟩⟩
  · rfl
  · rfl
  · rfl

end DocQuery
