import DocQuery.Proofs.Store.Condition

/-!
# Comparison Operators Among Themselves

A store decides `$eq` and `$ne` by equality and the other comparison operators by order, and these are
different functions.  They agree on every field that is there: it equals a value exactly if its order to the
value is that of equal values, also where the two have no order.  Null equals a missing field, which has no
order to anything.

So one relation of a field and a value stands behind `$lt`, `$eq` and `$gt`, at most one of which holds, and
`$ne` is the opposite of `$eq`.  `$gte` and `$lte` ask for the order alone.  They hold where one of two others
does, unless a missing field is compared with null: there `$eq` holds and both of them fail.
-/

namespace DocQuery

/-- Whether a field passes a comparison with a value. -/
def Comparator.Selects (op : Comparator) (field : Option Bson) (operand : Bson) : Prop :=
  fieldMatches field (.document [(op.name, operand)]) = .ok true

/-- Whether a missing field is compared with null. -/
def IsMissingNull (field : Option Bson) (operand : Bson) : Prop := field = none ∧ operand = .null

/-- The order of a field and a value, where they have one and where null stands for a missing field. -/
def fieldRelation? (field : Option Bson) (operand : Bson) : Option Ordering :=
  match field, operand with
  | none, .null => some .eq
  | field, operand => fieldCompare? field operand

variable {field : Option Bson} {operand : Bson}

/-! ## One relation -/

theorem fieldRelation?_of_not_missing (h : ¬IsMissingNull field operand) :
    fieldRelation? field operand = fieldCompare? field operand := by
  unfold fieldRelation?
  split
  · exact absurd ⟨rfl, rfl⟩ h
  · rfl

theorem fieldEquals_eq_relation (field : Option Bson) (operand : Bson) :
    fieldEquals field operand = (fieldRelation? field operand == some .eq) := by
  cases field with
  | none => cases operand <;> rfl
  | some value => rfl

/-- A relation other than equality is an order. -/
theorem fieldRelation?_eq_some_iff {order : Ordering} (hne : order ≠ .eq) :
    fieldRelation? field operand = some order ↔ fieldCompare? field operand = some order := by
  by_cases hmissing : IsMissingNull field operand
  · obtain ⟨rfl, rfl⟩ := hmissing
    exact iff_of_false (fun h ↦ hne (Option.some.inj h).symm) nofun
  · rw [fieldRelation?_of_not_missing hmissing]

/-! ## Operators -/

/-- The operator that asks for one order. -/
def Comparator.ofOrder : Ordering → Comparator
  | .lt => lt
  | .eq => eq
  | .gt => gt

namespace Comparator

theorem selects_iff_holds (op : Comparator) :
    op.Selects field operand ↔ op.holds field operand = true := by
  have hread : fieldMatches field (.document [(op.name, operand)]) = .ok (op.holds field operand) :=
    fieldMatches_compare field op operand
  rw [Selects, hread, Except.ok.injEq]

/-- The operator of an order asks whether this is the relation. -/
theorem selects_ofOrder_iff (order : Ordering) :
    (ofOrder order).Selects field operand ↔ fieldRelation? field operand = some order := by
  rw [selects_iff_holds]
  cases order with
  | eq => rw [ofOrder, holds, fieldEquals_eq_relation, beq_iff_eq]
  | lt => rw [ofOrder, holds, beq_iff_eq, fieldRelation?_eq_some_iff (by decide)]
  | gt => rw [ofOrder, holds, beq_iff_eq, fieldRelation?_eq_some_iff (by decide)]

theorem selects_ne_iff : ne.Selects field operand ↔ ¬eq.Selects field operand := by
  rw [selects_iff_holds, selects_iff_holds, holds, holds, Bool.not_eq_true', Bool.not_eq_true]

/-- A field and a value relate in one way at most. -/
theorem order_eq_of_selects {order other : Ordering} (h : (ofOrder order).Selects field operand)
    (hother : (ofOrder other).Selects field operand) : order = other := by
  rw [selects_ofOrder_iff] at h hother
  exact Option.some.inj (h.symm.trans hother)

/-- An operator that asks for an order with equality in it agrees with the operators of this order and of
equality, unless a missing field is compared with null. -/
theorem selects_iff_or_equal_iff {op : Comparator} {order : Ordering}
    (hop : op.Selects field operand ↔
      fieldCompare? field operand = some order ∨ fieldCompare? field operand = some .eq) :
    (op.Selects field operand ↔ (ofOrder order).Selects field operand ∨ eq.Selects field operand) ↔
      ¬IsMissingNull field operand := by
  have hequal : eq.Selects field operand ↔ fieldRelation? field operand = some .eq :=
    selects_ofOrder_iff .eq
  rw [hop, hequal, selects_ofOrder_iff]
  by_cases hmissing : IsMissingNull field operand
  · obtain ⟨rfl, rfl⟩ := hmissing
    refine iff_of_false (fun h ↦ ?_) (not_not_intro ⟨rfl, rfl⟩)
    rcases h.2 (.inr rfl) with hnone | hnone <;> exact nomatch hnone
  · rw [fieldRelation?_of_not_missing hmissing]
    exact iff_of_true .rfl hmissing

theorem selects_gte_iff : gte.Selects field operand ↔
    fieldCompare? field operand = some .gt ∨ fieldCompare? field operand = some .eq := by
  rw [selects_iff_holds, holds, Bool.or_eq_true, beq_iff_eq, beq_iff_eq]

theorem selects_lte_iff : lte.Selects field operand ↔
    fieldCompare? field operand = some .lt ∨ fieldCompare? field operand = some .eq := by
  rw [selects_iff_holds, holds, Bool.or_eq_true, beq_iff_eq, beq_iff_eq]

end Comparator

/-- Every comparison is answered without an error, `$ne` is the opposite of `$eq`, and at most one of `$lt`,
`$eq` and `$gt` holds.  `$gte` holds where `$gt` or `$eq` does, and `$lte` where `$lt` or `$eq` does, exactly
unless a missing field is compared with null. -/
theorem comparisons_coherent_iff (field : Option Bson) (operand : Bson) :
    (∀ op : Comparator, ∃ passed, fieldMatches field (.document [(op.name, operand)]) = .ok passed) ∧
      (Comparator.ne.Selects field operand ↔ ¬Comparator.eq.Selects field operand) ∧
      (∀ order other : Ordering, (Comparator.ofOrder order).Selects field operand →
        (Comparator.ofOrder other).Selects field operand → order = other) ∧
      ((Comparator.gte.Selects field operand ↔
          Comparator.gt.Selects field operand ∨ Comparator.eq.Selects field operand) ↔
        ¬IsMissingNull field operand) ∧
      ((Comparator.lte.Selects field operand ↔
          Comparator.lt.Selects field operand ∨ Comparator.eq.Selects field operand) ↔
        ¬IsMissingNull field operand) := by
  refine ⟨fun op ↦ ⟨_, fieldMatches_compare field op operand⟩, Comparator.selects_ne_iff, ?_, ?_, ?_⟩
  · exact fun order other h hother ↦ Comparator.order_eq_of_selects h hother
  · exact Comparator.selects_iff_or_equal_iff Comparator.selects_gte_iff
  · exact Comparator.selects_iff_or_equal_iff Comparator.selects_lte_iff

/-- A document without a field `n`: null equals the field, but the field is neither at least nor at most
null. -/
theorem missing_equals_null_not_ordered :
    Document.matches [] [("n", .document [("$eq", .null)])] = .ok true ∧
      Document.matches [] [("n", .document [("$gte", .null)])] = .ok false ∧
        Document.matches [] [("n", .document [("$lte", .null)])] = .ok false ∧
          ¬∀ (field : Option Bson) (operand : Bson),
            Comparator.gte.Selects field operand ↔
              Comparator.gt.Selects field operand ∨ Comparator.eq.Selects field operand := by
  refine ⟨rfl, rfl, rfl, fun h ↦ ?_⟩
  have hequal : Comparator.eq.Selects none .null := rfl
  have hgte : Comparator.gte.Selects none .null := (h none .null).2 (.inr hequal)
  exact nomatch hgte

end DocQuery
