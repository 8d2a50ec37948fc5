import DocQuery.Fields.Lemmas
import DocQuery.Proofs.Store.Condition

/-!
# Depths of Stored Values

The depth of a stored value counts the arrays and documents around its innermost part.  A value that
is the same as another is no deeper, whatever the order of fields and whether or not names repeat.

Hence a document can be told from nothing that is less deep.  Operators compare a field only with
parts of themselves, so they find no difference between two documents that are deeper than these.
-/

namespace DocQuery

namespace Bson

mutual

/-- The number of arrays and documents around the innermost part of a value. -/
def depth : Bson → Nat
  | array items => itemsDepth items + 1
  | document fields => fieldsDepth fields + 1
  | _ => 0

/-- The greatest depth of items. -/
def itemsDepth : List Bson → Nat
  | [] => 0
  | item :: rest => max item.depth (itemsDepth rest)

/-- The greatest depth of the values of fields. -/
def fieldsDepth : List (String × Bson) → Nat
  | [] => 0
  | (_, value) :: rest => max value.depth (fieldsDepth rest)

end

/-- A statement about values that passes from items to arrays and from fields to documents holds of
all, if it holds of those without parts. -/
theorem induction {motive : Bson → Prop} (scalar : ∀ b : Bson, b.depth = 0 → motive b)
    (array : ∀ items, (∀ item ∈ items, motive item) → motive (.array items))
    (document : ∀ fields : Document, (∀ name value, (name, value) ∈ fields → motive value) →
      motive (.document fields)) : ∀ b, motive b
  | .array items => array items fun item hitem ↦ by
    have hsize := List.sizeOf_lt_of_mem hitem
    exact induction scalar array document item
  | .document fields => document fields fun name value hvalue ↦ by
    have hsize : sizeOf value < sizeOf fields := by
      have hfield := List.sizeOf_lt_of_mem hvalue
      rw [Prod.mk.sizeOf_spec] at hfield
      omega
    exact induction scalar array document value
  | .null => scalar _ rfl
  | .bool _ => scalar _ rfl
  | .int32 _ => scalar _ rfl
  | .int64 _ => scalar _ rfl
  | .double _ => scalar _ rfl
  | .string _ => scalar _ rfl
  | .dateTime _ => scalar _ rfl
  | .objectId _ => scalar _ rfl
  | .minKey => scalar _ rfl
  | .maxKey => scalar _ rfl
  | .undefined => scalar _ rfl
termination_by b => sizeOf b

theorem itemsDepth_le_iff (items : List Bson) (n : Nat) :
    itemsDepth items ≤ n ↔ ∀ item ∈ items, item.depth ≤ n := by
  induction items with
  | nil => simp [itemsDepth]
  | cons item rest ih => rw [itemsDepth, Nat.max_le, ih, List.forall_mem_cons]

theorem fieldsDepth_le_iff (fields : Document) (n : Nat) :
    fieldsDepth fields ≤ n ↔ ∀ name value, (name, value) ∈ fields → value.depth ≤ n := by
  induction fields with
  | nil => simp [fieldsDepth]
  | cons field rest ih =>
    obtain ⟨name, value⟩ := field
    rw [fieldsDepth, Nat.max_le, ih]
    constructor
    · rintro ⟨hvalue, hrest⟩ other b hb
      rcases List.mem_cons.1 hb with heq | hb
      · obtain ⟨rfl, rfl⟩ := Prod.mk.inj heq
        exact hvalue
      · exact hrest other b hb
    · intro h
      exact ⟨h name value (List.mem_cons_self ..),
        fun other b hb ↦ h other b (List.mem_cons_of_mem _ hb)⟩

/-- The value of a field is less deep than the document. -/
theorem depth_lt_of_mem {name : String} {value : Bson} {fields : Document}
    (h : (name, value) ∈ fields) : value.depth < (document fields).depth := by
  have hle := (fieldsDepth_le_iff fields _).1 (Nat.le_refl _) name value h
  rw [depth]
  omega

theorem exists_same_of_sameItems {items others : List Bson}
    (h : sameItems items others = true) : ∀ a ∈ items, ∃ b ∈ others, a.same b = true := by
  induction items generalizing others with
  | nil => intro a ha; exact absurd ha (by simp)
  | cons first rest ih =>
    cases others with
    | nil => simp [sameItems] at h
    | cons other others =>
      obtain ⟨hfirst, hrest⟩ : first.same other = true ∧ sameItems rest others = true := by
        simpa [sameItems] using h
      intro a ha
      rcases List.mem_cons.1 ha with rfl | ha
      · exact ⟨other, List.mem_cons_self .., hfirst⟩
      · obtain ⟨b, hb, hsame⟩ := ih hrest a ha
        exact ⟨b, List.mem_cons_of_mem _ hb, hsame⟩

theorem exists_same_of_sameFields {fields other : Document}
    (h : sameFields fields other = true) :
    ∀ name a, (name, a) ∈ fields → ∃ b, Fields.get? name other = some b ∧ a.same b = true := by
  induction fields with
  | nil => intro name a ha; exact absurd ha (by simp)
  | cons field rest ih =>
    obtain ⟨first, value⟩ := field
    rw [sameFields, Bool.and_eq_true] at h
    intro name a ha
    rcases List.mem_cons.1 ha with heq | ha
    · obtain ⟨rfl, rfl⟩ := Prod.mk.inj heq
      cases hget : Fields.get? name other with
      | none => simp [hget] at h
      | some b => exact ⟨b, rfl, by simpa [hget] using h.1⟩
    · exact ih h.2 name a ha

/-- A value that is the same as another is no deeper. -/
theorem depth_le_of_same {a b : Bson} (h : a.same b = true) : a.depth ≤ b.depth := by
  induction a using Bson.induction generalizing b with
  | scalar a ha => rw [ha]; exact Nat.zero_le _
  | array items ih =>
    cases b with
    | array others =>
      have hitems : itemsDepth items ≤ itemsDepth others := by
        rw [itemsDepth_le_iff]
        intro item hitem
        obtain ⟨other, hother, hsame⟩ :=
          exists_same_of_sameItems (by simpa [same] using h) item hitem
        have hle := ih item hitem hsame
        have hother := (itemsDepth_le_iff others _).1 (Nat.le_refl _) other hother
        exact Nat.le_trans hle hother
      exact Nat.succ_le_succ hitems
    | _ => simp [same] at h
  | document fields ih =>
    cases b with
    | document other =>
      have hsame : sameFields fields other = true := by
        rw [same, Bool.and_eq_true] at h
        exact h.2
      have hfields : fieldsDepth fields ≤ fieldsDepth other := by
        rw [fieldsDepth_le_iff]
        intro name value hvalue
        obtain ⟨b, hget, hsame⟩ := exists_same_of_sameFields hsame name value hvalue
        have hle := ih name value hvalue hsame
        have hb := (fieldsDepth_le_iff other _).1 (Nat.le_refl _) name b (Fields.mem_of_get? hget)
        exact Nat.le_trans hle hb
      exact Nat.succ_le_succ hfields
    | _ => simp [same] at h

end Bson

/-! ## Documents under operators -/

/-- A document is in no other order with a value than being the same. -/
theorem compare?_document (fields : Document) (b : Bson) :
    (Bson.document fields).compare? b =
      if (Bson.document fields).same b = true then some .eq else none := by
  cases b <;> rfl

section
variable {x y : Document} {b : Bson}

/-- A document has no order with what is less deep. -/
theorem compare?_eq_none (hx : b.depth < (Bson.document x).depth) :
    (Bson.document x).compare? b = none := by
  rw [compare?_document, if_neg]
  intro hsame
  have hle := Bson.depth_le_of_same hsame
  omega

theorem fieldEquals_eq_false (hx : b.depth < (Bson.document x).depth) :
    fieldEquals (some (.document x)) b = false := by
  rw [fieldEquals, compare?_eq_none hx]
  rfl

/-- No operator tells two documents apart by an operand that is less deep. -/
theorem FieldTest.passes_congr (test : FieldTest) (options : Option Bson)
    (hx : b.depth < (Bson.document x).depth) (hy : b.depth < (Bson.document y).depth) :
    test.passes (some (.document x)) options b = test.passes (some (.document y)) options b := by
  cases test with
  | eq | ne => simp only [passes, fieldEquals_eq_false hx, fieldEquals_eq_false hy]
  | gt | gte | lt | lte =>
    simp only [passes, fieldCompare?, Option.bind_some, compare?_eq_none hx, compare?_eq_none hy]
  | among =>
    cases b with
    | array candidates =>
      have hdepth (candidate : Bson) (h : candidate ∈ candidates) :
          candidate.depth < (Bson.array candidates).depth :=
        Nat.lt_succ_of_le ((Bson.itemsDepth_le_iff _ _).1 (Nat.le_refl _) candidate h)
      have hnone (z : Document) (hz : (Bson.array candidates).depth < (Bson.document z).depth) :
          candidates.any (fieldEquals (some (.document z))) = false := by
        rw [List.any_eq_false]
        intro candidate hcandidate
        rw [fieldEquals_eq_false (Nat.lt_trans (hdepth candidate hcandidate) hz)]
        exact Bool.false_ne_true
      simp only [passes, hnone x hx, hnone y hy]
    | _ => rfl
  | regex => cases b <;> rfl
  | options => rfl

end

theorem operatorPasses_congr {x y : Document} {operand : Bson} (options : Option Bson)
    (name : String) (hx : operand.depth < (Bson.document x).depth)
    (hy : operand.depth < (Bson.document y).depth)
    (hfield : fieldMatches (some (.document x)) operand =
      fieldMatches (some (.document y)) operand) :
    operatorPasses (some (.document x)) options name operand =
      operatorPasses (some (.document y)) options name operand := by
  unfold operatorPasses
  rw [hfield]
  cases FieldTest.ofName? name with
  | none => rfl
  | some test => simp only [test.passes_congr options hx hy]

/-- No condition tells two documents apart that are both deeper than it. -/
theorem fieldMatches_congr {x y : Document} (b : Bson) (hx : b.depth < (Bson.document x).depth)
    (hy : b.depth < (Bson.document y).depth) :
    fieldMatches (some (.document x)) b = fieldMatches (some (.document y)) b := by
  have hliteral (b : Bson) (hx : b.depth < (Bson.document x).depth)
      (hy : b.depth < (Bson.document y).depth) (hoperators : isOperatorDocument b = false) :
      fieldMatches (some (.document x)) b = fieldMatches (some (.document y)) b := by
    rw [fieldMatches_of_not_isOperatorDocument _ hoperators,
      fieldMatches_of_not_isOperatorDocument _ hoperators, fieldEquals_eq_false hx,
      fieldEquals_eq_false hy]
  induction b using Bson.induction with
  | scalar b hb =>
    refine hliteral b hx hy ?_
    cases b with
    | document fields => exact absurd hb (by simp [Bson.depth])
    | _ => rfl
  | array items => exact hliteral _ hx hy rfl
  | document fields ih =>
    by_cases hoperators : isOperatorDocument (.document fields) = true
    · rw [fieldMatches, fieldMatches, if_pos hoperators, if_pos hoperators]
      apply operatorsMatch_congr
      intro name operand hmem
      have hlt := Bson.depth_lt_of_mem hmem
      have hox := Nat.lt_trans hlt hx
      have hoy := Nat.lt_trans hlt hy
      exact operatorPasses_congr _ name hox hoy (ih name operand hmem hox hoy)
    · exact hliteral _ hx hy (by simpa using hoperators)

end DocQuery
