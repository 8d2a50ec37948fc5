import DocQuery.Proofs.Store.Sorting

/-!
# Where the Order of Fields Fails

The order by which documents are sorted is meant to be total: turning a comparison round reverses its
result, and of three fields the first does not come after the last if neither of them is out of order with
the one between.  The first is true of all fields.  The second fails where a NaN stands between two numbers
of which the first is greater, and nowhere else: a NaN is of the kind of numbers but has no place among
them, so it is taken for equal to each of them.

Two fields of which one is a NaN are compared by their kinds alone, all others by their places.
-/

namespace DocQuery

open Std (TransCmp OrientedCmp)

/-- Whether a field is a NaN. -/
def HoldsNaN (field : Option Bson) : Prop := ∃ x, field = some (.double x) ∧ x.isNaN = true

theorem isPlaced_or_holdsNaN (field : Option Bson) : IsPlaced field ∨ HoldsNaN field := by
  refine Classical.or_iff_not_imp_right.2 fun h x hx ↦ ?_
  exact eq_false_of_ne_true fun hnan ↦ h ⟨x, hx, hnan⟩

variable {a b c : Option Bson}

theorem HoldsNaN.kindRank_eq (h : HoldsNaN a) : kindRank a = 1 := by
  obtain ⟨x, rfl, -⟩ := h
  rfl

/-! ## Comparing with a NaN -/

/-- A NaN and a number have no order. -/
theorem Bson.compare?_nan {x : Double} (hx : x.isNaN = true) {b : Bson}
    (hb : kindRank (some b) = 1) :
    (Bson.double x).compare? b = none ∧ b.compare? (.double x) = none := by
  obtain ⟨y, hy⟩ : ∃ y, b.number? = some y := by
    cases b <;> first | exact ⟨_, rfl⟩ | cases hb
  have hrank : x.rank? = none := if_pos hx
  have hnumber : (Bson.double x).number? = some x := rfl
  unfold compare?
  simp only [hy, hnumber, Double.compare?, hrank]
  cases y.rank? <;> simp

/-- Two fields of which one is a NaN are compared by their kinds. -/
theorem fieldOrder_of_holdsNaN (h : HoldsNaN a ∨ HoldsNaN b) :
    fieldOrder a b = compare (kindRank a) (kindRank b) := by
  unfold fieldOrder
  split
  · rfl
  · rename_i hkind
    obtain hkind : kindRank a = kindRank b := Classical.not_not.1 hkind
    rw [hkind, Std.compare_self]
    rcases h with ⟨x, rfl, hx⟩ | ⟨x, rfl, hx⟩
    · cases b with
      | none => rfl
      | some b => simp only [(Bson.compare?_nan hx hkind.symm).1, Option.getD_none]
    · cases a with
      | none => rfl
      | some a => simp only [(Bson.compare?_nan hx hkind).2, Option.getD_none]

/-! ## Turning a comparison round -/

theorem fieldOrder_swap (a b : Option Bson) : fieldOrder b a = (fieldOrder a b).swap := by
  have hkinds (h : HoldsNaN a ∨ HoldsNaN b) : fieldOrder b a = (fieldOrder a b).swap := by
    rw [fieldOrder_of_holdsNaN h, fieldOrder_of_holdsNaN h.symm]
    exact OrientedCmp.eq_swap
  rcases isPlaced_or_holdsNaN a with ha | ha
  · rcases isPlaced_or_holdsNaN b with hb | hb
    · rw [fieldOrder_eq_placeOrder ha hb, fieldOrder_eq_placeOrder hb ha]
      exact OrientedCmp.eq_swap
    · exact hkinds (.inr hb)
  · exact hkinds (.inl ha)

/-! ## Three fields -/

/-- A field that does not come after another is of no later kind. -/
theorem kindRank_le (h : fieldOrder a b ≠ .gt) : kindRank a ≤ kindRank b := by
  refine Nat.le_of_not_lt fun hlt ↦ h ?_
  unfold fieldOrder
  rw [if_pos (Nat.ne_of_gt hlt)]
  exact Nat.compare_eq_gt.2 hlt

/-- Numbers of which one precedes the other are no NaN. -/
theorem FieldPrecedes.isPlaced (h : FieldPrecedes a b) (hkind : kindRank a = kindRank b) :
    IsPlaced a ∧ IsPlaced b := by
  have hrank {d : Bson} {r : Int} (hr : d.rank? = some r) : IsPlaced (some d) := by
    rintro x ⟨rfl⟩
    refine eq_false_of_ne_true fun hnan ↦ ?_
    have hnone : x.rank? = none := if_pos hnan
    exact absurd (hr.symm.trans hnone) (by simp)
  cases h with
  | kind h => exact absurd hkind (Nat.ne_of_lt h)
  | number ha hb => exact ⟨hrank ha, hrank hb⟩
  | text | truth | instant => exact ⟨by rintro x ⟨⟩, by rintro x ⟨⟩⟩

/-- Of fields with places the greater one is preceded by the other. -/
theorem fieldOrder_eq_gt_iff (ha : IsPlaced a) (hb : IsPlaced b) :
    fieldOrder a b = .gt ↔ FieldPrecedes b a := by
  rw [fieldOrder_eq_placeOrder ha hb, OrientedCmp.gt_iff_lt, placeOrder_eq_lt_iff hb ha]

/-- A NaN between two numbers of which the first is greater: the second precedes it. -/
structure IsTornByNaN (a b c : Option Bson) : Prop where
  nan : HoldsNaN b
  left_number : kindRank a = 1
  right_number : kindRank c = 1
  precedes : FieldPrecedes c a

theorem IsTornByNaN.fieldOrders (h : IsTornByNaN a b c) :
    fieldOrder a b = .eq ∧ fieldOrder b c = .eq ∧ fieldOrder a c = .gt := by
  obtain ⟨hc, ha⟩ := h.precedes.isPlaced (h.right_number.trans h.left_number.symm)
  refine ⟨?_, ?_, (fieldOrder_eq_gt_iff ha hc).2 h.precedes⟩
  · rw [fieldOrder_of_holdsNaN (.inr h.nan), h.left_number, h.nan.kindRank_eq]
    rfl
  · rw [fieldOrder_of_holdsNaN (.inl h.nan), h.right_number, h.nan.kindRank_eq]
    rfl

/-- Of three fields the first does not come after the last if neither is out of order with the one between,
unless this is a NaN that tears them apart. -/
theorem fieldOrder_trans (htorn : ¬IsTornByNaN a b c) (hab : fieldOrder a b ≠ .gt)
    (hbc : fieldOrder b c ≠ .gt) : fieldOrder a c ≠ .gt := by
  have hkinds (h : HoldsNaN a ∨ HoldsNaN c) : fieldOrder a c ≠ .gt := by
    rw [fieldOrder_of_holdsNaN h, ne_eq, Nat.compare_eq_gt]
    exact Nat.not_lt.2 (Nat.le_trans (kindRank_le hab) (kindRank_le hbc))
  rcases isPlaced_or_holdsNaN a with ha | ha
  · rcases isPlaced_or_holdsNaN c with hc | hc
    · rcases isPlaced_or_holdsNaN b with hb | hb
      · rw [fieldOrder_eq_placeOrder ha hb] at hab
        rw [fieldOrder_eq_placeOrder hb hc] at hbc
        rw [fieldOrder_eq_placeOrder ha hc]
        refine Ordering.isLE_iff_ne_gt.1 (TransCmp.isLE_trans (b := b) ?_ ?_)
        · exact Ordering.isLE_iff_ne_gt.2 hab
        · exact Ordering.isLE_iff_ne_gt.2 hbc
      · intro hgt
        have hprecedes := (fieldOrder_eq_gt_iff ha hc).1 hgt
        have hle := kindRank_le hab
        have hge := kindRank_le hbc
        rw [hb.kindRank_eq] at hle hge
        have hcompare : kindRank c ≤ kindRank a := by
          refine kindRank_le (fieldOrder_swap a c ▸ ?_)
          rw [hgt]
          exact Ordering.noConfusion
        exact htorn ⟨hb, by omega, by omega, hprecedes⟩
    · exact hkinds (.inr hc)
  · exact hkinds (.inl ha)

/-- Fields are in a total preorder but for a NaN between two numbers that are out of order. -/
theorem fieldOrder_preorder_iff (a b c : Option Bson) :
    fieldOrder b a = (fieldOrder a b).swap ∧
      ((fieldOrder a b ≠ .gt → fieldOrder b c ≠ .gt → fieldOrder a c ≠ .gt) ↔
        ¬IsTornByNaN a b c) := by
  refine ⟨fieldOrder_swap a b, fun htrans htorn ↦ ?_, fun htorn ↦ fieldOrder_trans htorn⟩
  obtain ⟨hab, hbc, hac⟩ := htorn.fieldOrders
  refine htrans ?_ ?_ hac
  · rw [hab]
    exact Ordering.noConfusion
  · rw [hbc]
    exact Ordering.noConfusion

/-! ## Sorting by one field -/

section
variable {field : String} {direction : Bson}

theorem sortDocuments_single (hdirection : ∃ r, direction.rank? = some r ∧ r ≠ 0)
    (docs : List Document) :
    sortDocuments docs [(field, direction)] = .ok (sortByKeys [sortKey (field, direction)] docs) := by
  have hspec : IsSortDocument [(field, direction)] := by
    rintro _ hmem
    obtain rfl := List.mem_singleton.1 hmem
    exact hdirection
  rw [sortDocuments, sortKeys_eq_ok hspec]
  rfl

/-- Documents are compared by the one field that they are sorted by. -/
theorem documentOrder_single (field : String) (direction : Bson) (x y : Document) :
    documentOrder [sortKey (field, direction)] x y =
      if direction.isNegative then fieldOrder (Fields.get? field y) (Fields.get? field x)
      else fieldOrder (Fields.get? field x) (Fields.get? field y) := by
  rw [documentOrder, documentOrder, Ordering.then_eq, ← fieldOrder_swap]
  rfl

end

/-- A NaN is equal both to two and to one, and so a sort leaves a one behind it that it has not moved in
front of the two, as it has moved another. -/
theorem nan_tears_order :
    let number (n : Int32) : Bson := .int32 n
    let doc (b : Bson) : Document := [("n", b)]
    fieldOrder (some (number 2)) (some (.double .nan)) = .eq ∧
      fieldOrder (some (.double .nan)) (some (number 1)) = .eq ∧
        fieldOrder (some (number 2)) (some (number 1)) = .gt ∧
          sortDocuments [doc (number 2), doc (number 1), doc (.double .nan), doc (number 1)]
              [("n", number 1)] =
            .ok [doc (number 1), doc (number 2), doc (.double .nan), doc (number 1)] := by
  intro number doc
  have hleft : fieldOrder (some (.double .nan)) (some (number 2)) = .eq := by decide +kernel
  have hright : fieldOrder (some (number 1)) (some (.double .nan)) = .eq := by decide +kernel
  have hless : fieldOrder (some (number 1)) (some (number 2)) = .lt := by decide +kernel
  have hup : (number 1).isNegative = false := by decide +kernel
  have hrank : (number 1).rank? = some 0x3FF0000000000000 := by decide +kernel
  have horder (x y : Bson) : documentOrder [sortKey ("n", number 1)] (doc x) (doc y) =
      fieldOrder (some x) (some y) := by
    rw [documentOrder_single, hup]
    rfl
  refine ⟨by decide +kernel, by decide +kernel, by decide +kernel, ?_⟩
  rw [sortDocuments_single ⟨_, hrank, by decide⟩]
  simp [sortByKeys, insertFromEnd, horder, hless, hleft, hright]

end DocQuery
