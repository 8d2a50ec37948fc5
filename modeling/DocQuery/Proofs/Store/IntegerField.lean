import DocQuery.Proofs.Number.IntegerOrder
import DocQuery.Proofs.Store.FieldOrder

/-!
# Integers in Fields

A store compares numbers of all widths as doubles.  So it compares two integers exactly unless they are
different and round to the same double; then each of them passes for the other wherever they are compared,
in conditions on a field and in sorts.  If one of the two is less than `2 ^ 53` in magnitude, this does not
happen.

What a store does with two numbers depends on one order between them.  `ComparedAs` says which order that is
by what can be seen of it: the answers of all conditions on the one number that name the other, and the
sequence in which a sort puts documents that hold them.
-/

namespace DocQuery

/-- The integer that a value holds, in one of the two widths. -/
def Bson.integer? : Bson → Option Int
  | int32 n => some n.toInt
  | int64 n => some n.toInt
  | _ => none

/-- Whether a comparison operator accepts a field that is in an order with its value. -/
def Comparator.accepts (order : Ordering) : Comparator → Bool
  | eq => order.isEq
  | ne => order.isNe
  | gt => order.isGT
  | gte => order.isGE
  | lt => order.isLT
  | lte => order.isLE

/-- The order in which two documents stand in a sort of a direction. -/
def Bson.directed (direction : Bson) (order : Ordering) : Ordering :=
  if direction.isNegative then order.swap else order

/-- The value of a field in one document is compared in an order with the value in another: by conditions
on the field, and by sorts of any documents with the two among them. -/
structure ComparedAs (order : Ordering) (field : String) (value : Bson) (doc other : Document) :
    Prop where
  equals : Document.matches doc [(field, value)] = .ok order.isEq
  compares (op : Comparator) :
    Document.matches doc [(field, (Condition.compare op value).toBson)] = .ok (op.accepts order)
  among (before after : List Bson) :
    Document.matches doc [(field, .document [("$in", .array (before ++ value :: after))])] =
      .ok (order.isEq || (before ++ after).any (fieldEquals (Fields.get? field doc)))
  sorts {direction : Bson} (hdirection : ∃ r, direction.rank? = some r ∧ r ≠ 0)
    {docs : List Document} (hplaces : ∀ x ∈ docs, IsPlaced (Fields.get? field x))
    (hdocs : [doc, other].Sublist docs) :
    ∃ sorted, sortDocuments docs [(field, direction)] = .ok sorted ∧ sorted.Perm docs ∧
      (if direction.directed order = .gt then [other, doc] else [doc, other]).Sublist sorted

/-! ## Comparing integers -/

section
variable {order other : Ordering} {field : String} {value : Bson} {x y : Document}

theorem Comparator.holds_eq_accepts {a : Bson} (h : a.compare? value = some order) (op : Comparator) :
    op.holds (some a) value = op.accepts order := by
  cases op <;> simp only [holds, accepts, fieldEquals, fieldCompare?, Option.bind_some, h] <;>
    cases order <;> rfl

/-- Different orders are told apart by the conditions. -/
theorem ComparedAs.order_eq (h : ComparedAs order field value x y)
    (hother : ComparedAs other field value x y) : order = other := by
  have hgt := (h.compares .gt).symm.trans (hother.compares .gt)
  have hlt := (h.compares .lt).symm.trans (hother.compares .lt)
  simp only [Comparator.accepts, Except.ok.injEq] at hgt hlt
  cases order <;> cases other <;> simp_all

end

section
variable {a b : Bson} {m n : Int}

theorem Bson.number?_of_integer? (h : a.integer? = some n) : a.number? = some (.ofInt n) := by
  cases a with
  | int32 k | int64 k =>
    obtain rfl := Option.some.inj h
    rfl
  | _ => cases h

theorem Bson.kindRank_of_integer? (h : a.integer? = some n) : kindRank (some a) = 1 := by
  cases a with
  | int32 k | int64 k => rfl
  | _ => cases h

theorem Bson.isOperatorDocument_of_integer? (h : a.integer? = some n) :
    isOperatorDocument a = false := by
  cases a with
  | document fields => cases h
  | _ => rfl

variable (ha : a.integer? = some m) (hb : b.integer? = some n)
include ha hb

theorem Bson.compare?_of_integer? : a.compare? b = some (Double.roundedOrder m n) := by
  unfold compare?
  rw [number?_of_integer? ha, number?_of_integer? hb]
  exact Double.compare?_ofInt_eq_roundedOrder m n

theorem fieldOrder_of_integer? : fieldOrder (some a) (some b) = Double.roundedOrder m n := by
  have hkinds : kindRank (some a) = kindRank (some b) :=
    (Bson.kindRank_of_integer? ha).trans (Bson.kindRank_of_integer? hb).symm
  unfold fieldOrder
  rw [if_neg (not_not_intro hkinds)]
  simp only [Bson.compare?_of_integer? ha hb, Option.getD_some]

variable {field : String} {doc other : Document} (hdoc : Fields.get? field doc = some a)
  (hother : Fields.get? field other = some b)
include hdoc hother

/-- In a sort by the field that holds the integers, the second document precedes the first if its integer
comes first in the direction of the sort. -/
theorem documentPrecedes_of_integer? {direction : Bson}
    (hplace : HasPlace [(field, direction)] doc) (hplace' : HasPlace [(field, direction)] other) :
    DocumentPrecedes [(field, direction)] other doc ↔
      direction.directed (Double.roundedOrder m n) = .gt := by
  rw [← documentOrder_eq_lt_iff hplace' hplace, List.map_singleton, documentOrder_single, hdoc, hother,
    fieldOrder_swap (some a), fieldOrder_of_integer? ha hb, Bson.directed]
  split <;> cases Double.roundedOrder m n <;> decide

/-- A store compares integers by their order as doubles. -/
theorem comparedAs_roundedOrder (hfield : isOperatorName field = false) :
    ComparedAs (Double.roundedOrder m n) field b doc other where
  equals := by
    rw [matches_single doc hfield, hdoc,
      fieldMatches_of_not_isOperatorDocument _ (Bson.isOperatorDocument_of_integer? hb), fieldEquals,
      Bson.compare?_of_integer? ha hb]
    cases Double.roundedOrder m n <;> rfl
  compares op := by
    rw [matches_single doc hfield, hdoc, fieldMatches_compare,
      op.holds_eq_accepts (Bson.compare?_of_integer? ha hb)]
  among before after := by
    have hequals : fieldEquals (some a) b = (Double.roundedOrder m n).isEq := by
      rw [fieldEquals, Bson.compare?_of_integer? ha hb]
      cases Double.roundedOrder m n <;> rfl
    rw [matches_single doc hfield, hdoc, fieldMatches_in, List.any_append, List.any_append,
      List.any_cons, hequals, Bool.or_left_comm]
  sorts := by
    intro direction hdirection docs hplaces hdocs
    have hspec : IsSortDocument [(field, direction)] := List.forall_mem_singleton.2 hdirection
    have hplaces : ∀ x ∈ docs, HasPlace [(field, direction)] x :=
      fun x hx ↦ List.forall_mem_singleton.2 (hplaces x hx)
    have hdocmem : doc ∈ docs := hdocs.subset (List.mem_cons_self ..)
    have hothermem : other ∈ docs :=
      hdocs.subset (List.mem_cons_of_mem _ (List.mem_cons_self ..))
    have hprecedes := documentPrecedes_of_integer? ha hb hdoc hother (hplaces doc hdocmem)
      (hplaces other hothermem)
    obtain ⟨sorted, hsorted, hsorting⟩ := sortDocuments_eq_ok hspec hplaces
    refine ⟨sorted, hsorted, hsorting.perm, ?_⟩
    split
    · rename_i hgt
      exact hsorting.sublist_of_precedes hothermem hdocmem hplaces (hprecedes.2 hgt)
    · rename_i hgt
      exact hsorting.sublist_of_not_precedes hdocs (mt hprecedes.1 hgt)

/-- Integers are compared exactly by a store, in either width, unless they are different and round to the
same double: then they are compared as equal.  They are not if one of them is less than `2 ^ 53`. -/
theorem integers_comparedExactly_iff (hfield : isOperatorName field = false) :
    (ComparedAs (compare m n) field b doc other ↔ m = n ∨ Double.ofInt m ≠ Double.ofInt n) ∧
      (Double.ofInt m = Double.ofInt n → ComparedAs .eq field b doc other) ∧
        (m.natAbs < 2 ^ 53 ∨ n.natAbs < 2 ^ 53 → ComparedAs (compare m n) field b doc other) := by
  have hrounded := comparedAs_roundedOrder ha hb hdoc hother hfield
  have hexact : ComparedAs (compare m n) field b doc other ↔
      m = n ∨ Double.ofInt m ≠ Double.ofInt n := by
    rw [← Double.roundedOrder_eq_compare_iff]
    exact ⟨hrounded.order_eq, fun h ↦ h ▸ hrounded⟩
  refine ⟨hexact, fun hsame ↦ ?_, fun hsmall ↦ hexact.2 ?_⟩
  · rwa [Double.roundedOrder, if_pos hsame] at hrounded
  · by_cases hne : m = n
    · exact .inl hne
    rcases hsmall with hm | hn
    · exact .inr (Double.ofInt_ne_ofInt hne hm)
    · exact .inr (Double.ofInt_ne_ofInt (Ne.symm hne) hn).symm

end

/-- An integer of which doubles hold only the neighbours, and one of the other width. -/
theorem integers_comparedExactly_iff_mixedWidths :
    let doc : Document := [("n", .int64 9007199254740993)]
    let seven : Bson := .int32 7
    ComparedAs .gt "n" seven doc [("n", seven)] := by
  intro doc seven
  have hdoc : Fields.get? "n" doc = some (.int64 9007199254740993) := rfl
  have hother : Fields.get? "n" [("n", seven)] = some seven := rfl
  obtain ⟨-, -, hsmall⟩ := integers_comparedExactly_iff rfl rfl hdoc hother (by decide)
  exact hsmall (.inr (by decide))

/-- A document that holds `2 ^ 53` is selected by a condition that asks for the next integer. -/
theorem next_integer_matches :
    let doc : Document := [("n", .int64 9007199254740992)]
    let next : Int64 := 9007199254740993
    (9007199254740992 : Int64) < next ∧ Document.matches doc [("n", .int64 next)] = .ok true ∧
      Document.matches doc [("n", (Condition.compare .lt (.int64 next)).toBson)] = .ok false := by
  intro doc next
  have hdoc : Fields.get? "n" doc = some (.int64 9007199254740992) := rfl
  have hother : Fields.get? "n" [("n", Bson.int64 next)] = some (.int64 next) := rfl
  have hsame : Double.ofInt (Int64.toInt 9007199254740992) = Double.ofInt next.toInt := by
    decide +kernel
  have hrounded := comparedAs_roundedOrder rfl rfl hdoc hother (by decide)
  rw [Double.roundedOrder, if_pos hsame] at hrounded
  exact ⟨by decide, hrounded.equals, hrounded.compares .lt⟩

end DocQuery
