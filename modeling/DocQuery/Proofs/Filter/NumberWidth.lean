import Mathlib.Data.List.Forall2
import DocQuery.Proofs.Filter.LiteralValue
import DocQuery.Proofs.Filter.Received

/-!
# Numbers of Other Widths Inside of Values

A number can be stored in several widths.  Compared with a number, a field is found in whatever width its
number has been stored.  Inside of arrays and documents a store looks for the same values, and there widths
count.

The main statement is about values that are stored with some of their numbers in other widths, at any depth.
A comparison under the type of arrays or that of objects selects such a value exactly if no number in it has
changed its width.  This does not depend on what the numbers are: numbers of the same value and the same
width are the same for a store, zeros of different signs too, and numbers of different widths never are.
-/

namespace DocQuery

/-! ## Numbers of the same value -/

namespace Double

/-- The value of a finite double, as a numerator and a denominator. -/
def ratio (x : Double) : Int × Nat :=
  (if x.negative then -(x.absoluteRatio.1 : Int) else x.absoluteRatio.1, x.absoluteRatio.2)

theorem natAbs_ratio (x : Double) : x.ratio.1.natAbs = x.absoluteRatio.1 := by
  unfold ratio
  dsimp only
  split
  · rw [Int.natAbs_neg, Int.natAbs_natCast]
  · rw [Int.natAbs_natCast]

/-- The place of a finite double in the order of doubles has the sign of its value. -/
theorem rank?_eq_sign_mul {x : Double} (h : x.isFinite = true) :
    x.rank? = some (x.ratio.1.sign * x.magnitude) := by
  have hpos : x.absoluteRatio.1 = 0 → x.magnitude = 0 := by
    intro hzero
    rw [← magnitude_ofRatio_absoluteRatio h false, hzero]
    rfl
  unfold rank?
  rw [isNaN_of_isFinite h, if_neg Bool.false_ne_true]
  apply congrArg some
  unfold ratio
  dsimp only
  by_cases hzero : x.absoluteRatio.1 = 0
  · rw [hpos hzero]
    simp
  · have hsign : (x.absoluteRatio.1 : Int).sign = 1 := Int.sign_eq_one_of_pos (by omega)
    split
    · rw [Int.sign_neg, hsign]
      omega
    · rw [hsign, Int.one_mul]

/-- Finite doubles of the same value are equal. -/
theorem same_of_ratio {x y : Double} (hx : x.isFinite = true) (hy : y.isFinite = true)
    (h : x.ratio.1 * y.ratio.2 = y.ratio.1 * x.ratio.2) : x.same y = true := by
  have habs : x.absoluteRatio.1 * y.absoluteRatio.2 = y.absoluteRatio.1 * x.absoluteRatio.2 := by
    have hboth := congrArg Int.natAbs h
    rw [Int.natAbs_mul, Int.natAbs_mul, natAbs_ratio, natAbs_ratio] at hboth
    exact hboth
  have hsign : x.ratio.1.sign = y.ratio.1.sign := by
    have hboth := congrArg Int.sign h
    have hpositive (u : Double) : (u.ratio.2 : Int).sign = 1 :=
      Int.sign_eq_one_of_pos (Int.natCast_pos.2 (Nat.pos_of_ne_zero u.absoluteRatio_snd_ne_zero))
    rwa [Int.sign_mul, Int.sign_mul, hpositive, hpositive, Int.mul_one, Int.mul_one] at hboth
  unfold same compare?
  rw [rank?_eq_sign_mul hx, rank?_eq_sign_mul hy, hsign, magnitude_eq_of_absoluteRatio hx hy habs]
  simp

end Double

namespace Bson

/-- The value of a number, as a numerator and a denominator. -/
def ratio? : Bson → Option (Int × Nat)
  | int32 n => some (n.toInt, 1)
  | int64 n => some (n.toInt, 1)
  | double x => if x.isFinite then some x.ratio else none
  | _ => none

/-- Whether two values are numbers of the same value, in whatever widths. -/
def SameNumber (a b : Bson) : Prop :=
  ∃ p q, a.ratio? = some p ∧ b.ratio? = some q ∧ p.1 * q.2 = q.1 * p.2

/-- The width that a number is stored in. -/
inductive NumberWidth where
  | int32
  | int64
  | double
deriving DecidableEq

mutual

/-- The widths of all numbers in a value, from left to right. -/
def widths : Bson → List NumberWidth
  | int32 _ => [.int32]
  | int64 _ => [.int64]
  | double _ => [.double]
  | array items => itemsWidths items
  | document fields => fieldsWidths fields
  | _ => []

/-- The widths of all numbers in items. -/
def itemsWidths : List Bson → List NumberWidth
  | [] => []
  | item :: rest => item.widths ++ itemsWidths rest

/-- The widths of all numbers in the values of fields. -/
def fieldsWidths : List (String × Bson) → List NumberWidth
  | [] => []
  | (_, value) :: rest => value.widths ++ fieldsWidths rest

end

/-- Whether two values differ in nothing but the widths of numbers, in which they may differ at any depth. -/
inductive EqualUpToWidths : Bson → Bson → Prop
  | scalar {a : Bson} (h : a.depth = 0) : EqualUpToWidths a a
  | number {a b : Bson} (h : a.SameNumber b) : EqualUpToWidths a b
  | array {items others : List Bson} (h : List.Forall₂ EqualUpToWidths items others) :
      EqualUpToWidths (array items) (array others)
  | document {fields others : Document} (hnames : Fields.names fields = Fields.names others)
      (h : List.Forall₂ EqualUpToWidths (Fields.values fields) (Fields.values others)) :
      EqualUpToWidths (document fields) (document others)

variable {a b : Bson}

theorem SameNumber.widths_length (h : a.SameNumber b) : a.widths.length = b.widths.length := by
  obtain ⟨p, q, ha, hb, -⟩ := h
  have hone {c : Bson} {r : Int × Nat} (hc : c.ratio? = some r) : c.widths.length = 1 := by
    cases c with
    | int32 n | int64 n | double x => rfl
    | _ => cases hc
  exact (hone ha).trans (hone hb).symm

/-- Numbers of the same value are the same for a store exactly if they have the same width. -/
theorem SameNumber.same_iff (h : a.SameNumber b) : a.same b = true ↔ a.widths = b.widths := by
  obtain ⟨p, q, ha, hb, heq⟩ := h
  cases a with
  | int32 m =>
    cases b with
    | int32 n =>
      cases ha
      cases hb
      have hmn : m = n := Int32.toInt_inj.1 (by simpa using heq)
      exact iff_of_true (beq_iff_eq.2 hmn) rfl
    | int64 n | double y => exact iff_of_false Bool.false_ne_true (by simp [widths])
    | _ => cases hb
  | int64 m =>
    cases b with
    | int64 n =>
      cases ha
      cases hb
      have hmn : m = n := Int64.toInt_inj.1 (by simpa using heq)
      exact iff_of_true (beq_iff_eq.2 hmn) rfl
    | int32 n | double y => exact iff_of_false Bool.false_ne_true (by simp [widths])
    | _ => cases hb
  | double x =>
    cases b with
    | double y =>
      obtain ⟨hx, hp⟩ := Option.ite_none_right_eq_some.1 ha
      obtain ⟨hy, hq⟩ := Option.ite_none_right_eq_some.1 hb
      cases hp
      cases hq
      exact iff_of_true (Double.same_of_ratio hx hy heq) rfl
    | int32 n | int64 n => exact iff_of_false Bool.false_ne_true (by simp [widths])
    | _ => cases hb
  | _ => cases ha

/-! ## Values up to widths -/

theorem fieldsWidths_eq (fields : Document) :
    fieldsWidths fields = itemsWidths (Fields.values fields) := by
  induction fields with
  | nil => rfl
  | cons field rest ih => rw [fieldsWidths, Fields.values_cons, itemsWidths, ih]

theorem itemsWidths_length {items others : List Bson}
    (h : List.Forall₂ EqualUpToWidths items others)
    (hlength : ∀ a ∈ items, ∀ b, EqualUpToWidths a b → a.widths.length = b.widths.length) :
    (itemsWidths items).length = (itemsWidths others).length := by
  induction h with
  | nil => rfl
  | cons hfirst _ ih =>
    obtain ⟨hlength, hrest⟩ := List.forall_mem_cons.1 hlength
    rw [itemsWidths, itemsWidths, List.length_append, List.length_append, hlength _ hfirst, ih hrest]

/-- Values that are equal up to widths hold as many numbers. -/
theorem EqualUpToWidths.widths_length (h : EqualUpToWidths a b) :
    a.widths.length = b.widths.length := by
  induction a using Bson.induction generalizing b with
  | scalar a ha =>
    cases h with
    | scalar _ => rfl
    | number h => exact h.widths_length
    | array _ => cases ha
    | document _ _ => cases ha
  | array items ih =>
    cases h with
    | scalar _ => rfl
    | number h => exact h.widths_length
    | array h => exact itemsWidths_length h fun item hitem b ↦ ih item hitem
  | document fields ih =>
    cases h with
    | scalar _ => rfl
    | number h => exact h.widths_length
    | document hnames h =>
      rw [widths, widths, fieldsWidths_eq, fieldsWidths_eq]
      refine itemsWidths_length h fun value hvalue b ↦ ?_
      obtain ⟨field, hfield, rfl⟩ := List.mem_map.1 hvalue
      exact ih field.1 field.2 hfield

/-- If items have what is the same for a store exactly in the same widths, then so have lists of them. -/
theorem sameItems_iff_widths {items others : List Bson}
    (h : List.Forall₂ EqualUpToWidths items others)
    (hsame : ∀ b ∈ others, ∀ a, EqualUpToWidths a b → (a.same b = true ↔ a.widths = b.widths)) :
    sameItems items others = true ↔ itemsWidths items = itemsWidths others := by
  induction h with
  | nil => exact iff_of_true rfl rfl
  | cons hfirst _ ih =>
    obtain ⟨hsame, hrest⟩ := List.forall_mem_cons.1 hsame
    rw [sameItems, Bool.and_eq_true, itemsWidths, itemsWidths, hsame _ hfirst, ih hrest]
    constructor
    · rintro ⟨hwidths, hmore⟩
      rw [hwidths, hmore]
    · exact fun happend ↦ List.append_inj happend hfirst.widths_length

/-- Documents with the same names in the same order are compared by their values. -/
theorem sameFields_iff_sameItems {fields others whole : Document}
    (hnames : Fields.names fields = Fields.names others)
    (hget : ∀ name b, (name, b) ∈ others → Fields.get? name whole = some b) :
    sameFields fields whole = true ↔
      sameItems (Fields.values fields) (Fields.values others) = true := by
  induction fields generalizing others with
  | nil =>
    cases others with
    | nil => exact Iff.rfl
    | cons other more => cases hnames
  | cons field rest ih =>
    cases others with
    | nil => cases hnames
    | cons other more =>
      obtain ⟨name, a⟩ := field
      obtain ⟨otherName, b⟩ := other
      obtain ⟨hname, hmore⟩ := List.cons.inj hnames
      cases hname
      obtain ⟨hfirst, hrest⟩ := Fields.forall_mem_cons.1 hget
      rw [sameFields, hfirst, Fields.values_cons, Fields.values_cons, sameItems, Bool.and_eq_true,
        Bool.and_eq_true, ih hmore hrest]

/-- What is equal up to widths to a value without parts is the same exactly if it has the same width. -/
theorem EqualUpToWidths.same_iff_of_scalar (h : EqualUpToWidths a b) (hdepth : b.depth = 0)
    (hself : b.same b = true) : a.same b = true ↔ a.widths = b.widths := by
  cases h with
  | scalar _ => exact iff_of_true hself rfl
  | number h => exact h.same_iff
  | array _ => cases hdepth
  | document _ _ => cases hdepth

end Bson

namespace Value

/-- Whether no double in a value is NaN. -/
def isFreeOfNaN (v : Value) : Bool :=
  v.every fun
    | float x => !x.isNaN
    | _ => true

/-- What is equal up to widths to a value is the same as the value exactly if all widths are. -/
theorem same_toBson_iff_widths {v : Value} (hordered : v.isOrdered = true)
    (hnumbers : v.isFreeOfNaN = true) {stored : Bson} (h : stored.EqualUpToWidths v.toBson) :
    stored.same v.toBson = true ↔ stored.widths = v.toBson.widths := by
  induction v using Value.induction generalizing stored with
  | null => exact h.same_iff_of_scalar rfl rfl
  | bool b => exact h.same_iff_of_scalar rfl (beq_self_eq_true b)
  | int n =>
    have hdepth : (Bson.ofInt n).depth = 0 := by
      unfold Bson.ofInt
      split <;> rfl
    exact h.same_iff_of_scalar hdepth (Bson.same_ofInt n)
  | float x =>
    have hnan : x.isNaN = false := Bool.not_eq_true' _ ▸ hnumbers
    exact h.same_iff_of_scalar rfl (Bson.same_double hnan)
  | string s => exact h.same_iff_of_scalar rfl (beq_self_eq_true s)
  | time t => exact h.same_iff_of_scalar rfl (beq_self_eq_true t.millis)
  | array items ih =>
    have hordered := ((every_array_iff _ _).1 hordered).2
    have hnumbers := ((every_array_iff _ _).1 hnumbers).2
    rw [toBson, itemsToBson_eq_map] at h ⊢
    cases h with
    | scalar h => cases h
    | number h => exact h.same_iff
    | array h =>
      refine Bson.sameItems_iff_widths h fun b hb a hab ↦ ?_
      obtain ⟨item, hitem, rfl⟩ := List.mem_map.1 hb
      exact ih item hitem (hordered item hitem) (hnumbers item hitem) hab
  | object fields ih =>
    obtain ⟨hincreasing, hordered⟩ := (every_object_iff _ _).1 hordered
    have hnumbers := ((every_object_iff _ _).1 hnumbers).2
    have hdistinct : Fields.Distinct (fieldsToBson fields) := by
      rw [fieldsToBson_eq_map, Fields.Distinct, Fields.names, List.map_map]
      exact Fields.Increasing.distinct (of_decide_eq_true hincreasing)
    rw [toBson] at h ⊢
    cases h with
    | scalar h => cases h
    | number h => exact h.same_iff
    | @document storedFields _ hnames h =>
      have hlength : storedFields.length = (fieldsToBson fields).length := by
        have := congrArg List.length hnames
        simpa [Fields.names] using this
      have hget (name : String) (b : Bson) (hb : (name, b) ∈ fieldsToBson fields) :
          Fields.get? name (fieldsToBson fields) = some b := Fields.get?_of_mem hdistinct hb
      rw [Bson.same, hlength, beq_self_eq_true, Bool.true_and,
        Bson.sameFields_iff_sameItems hnames hget, Bson.widths, Bson.widths, Bson.fieldsWidths_eq,
        Bson.fieldsWidths_eq]
      refine Bson.sameItems_iff_widths h fun b hb a hab ↦ ?_
      rw [fieldsToBson_eq_map, Fields.values, List.map_map] at hb
      obtain ⟨field, hfield, rfl⟩ := List.mem_map.1 hb
      exact ih field.1 field.2 hfield (hordered field.1 field.2 hfield)
        (hnumbers field.1 field.2 hfield) hab

end Value

/-! ## Comparisons -/

variable {p : Property}

theorem Property.clause_eq_equals_of_hasParts (htype : p.valueType = .object ∨ p.valueType = .array)
    (hparts : p.value.toBson.HasParts) (path : TokenPath) :
    p.clause path = .ok (.clause p.key (.equals p.value.toBson)) := by
  have hstring : p.valueType ≠ .string := by rcases htype with h | h <;> simp [h]
  have hnumber : p.valueType ≠ .number := by rcases htype with h | h <;> simp [h]
  have hkind : p.value.isAbsent = false ∧ p.value.instant? = none := by
    cases hvalue : p.value with
    | array items => exact ⟨rfl, rfl⟩
    | object fields => exact ⟨rfl, rfl⟩
    | int n =>
      rw [hvalue, Value.toBson, Bson.ofInt] at hparts
      split at hparts <;> exact hparts.elim
    | _ =>
      rw [hvalue] at hparts
      exact hparts.elim
  exact clause_eq_equals hstring hnumber hkind.1 hkind.2 path

/-- A field under a key that is spelled like an operator is not looked at. -/
theorem matches_erase_of_isOperatorName {key : String} (h : isOperatorName key = true)
    (doc : Document) (condition : Bson) :
    Document.matches doc [(key, condition)] =
      Document.matches (Fields.erase key doc) [(key, condition)] := by
  rw [matches_singleton, matches_singleton]
  apply conditionPasses_congr
  intro name hname
  have hne : key ≠ name := by
    rintro rfl
    exact absurd h (by simp [hname])
  rw [Fields.get?_erase, if_neg hne]

/-- A comparison under the type of objects or that of arrays selects a value that is stored with numbers of
other widths exactly if no width in it has changed.  A key that is spelled like an operator is not read as
the name of the field. -/
theorem Property.clause_selects_iff_widths (path : TokenPath)
    (htype : p.valueType = .object ∨ p.valueType = .array) (hparts : p.value.toBson.HasParts)
    (hordered : p.value.isOrdered = true) (hnumbers : p.value.isFreeOfNaN = true)
    (hplain : p.value.isOperatorObject = false) :
    ∃ tree, p.clause path = .ok tree ∧
      ∀ (doc : Document) (stored : Bson), Fields.get? p.key doc = some stored →
        stored.EqualUpToWidths p.value.toBson →
          (isOperatorName p.key = false →
            Document.matches doc tree.toDocument =
              .ok (decide (stored.widths = p.value.toBson.widths))) ∧
          (isOperatorName p.key = true →
            Document.matches doc tree.toDocument =
              Document.matches (Fields.erase p.key doc) tree.toDocument) := by
  refine ⟨_, clause_eq_equals_of_hasParts htype hparts path, fun doc stored hget hequal ↦ ?_⟩
  refine ⟨fun hkey ↦ ?_, fun hkey ↦ matches_erase_of_isOperatorName hkey doc _⟩
  have hread : Document.matches doc [(p.key, p.value.toBson)] =
      .ok (fieldEquals (some stored) p.value.toBson) := by
    rw [readsLiterally_of_plain hkey (p.value.isOperatorDocument_toBson.trans hplain), hget]
  have hfield : fieldEquals (some stored) p.value.toBson = stored.same p.value.toBson :=
    Comparator.holds_eq_same (.inl rfl) hparts stored
  have hsame := Value.same_toBson_iff_widths hordered hnumbers hequal
  calc Document.matches doc [(p.key, p.value.toBson)]
      = .ok (stored.same p.value.toBson) := by rw [hread, hfield]
    _ = .ok (decide (stored.widths = p.value.toBson.widths)) := by
        rw [Bool.eq_iff_iff.2 (hsame.trans decide_eq_true_iff.symm)]

/-- An object with an array inside, stored with the first of its two numbers in another width. -/
theorem Property.clause_selects_iff_widths_nested :
    let p : Property :=
      { key := "box", value := .object [("sizes", .array [.int 1, .float (.ofInt 2)])],
        valueType := .object }
    let stored : Bson := .document [("sizes", .array [.int64 1, .double (.ofInt 2)])]
    ∃ tree, p.clause [] = .ok tree ∧
      Document.matches [("box", stored)] tree.toDocument = .ok false := by
  intro p stored
  have hone : (Bson.int64 1).SameNumber (.int32 1) := ⟨(1, 1), (1, 1), rfl, rfl, rfl⟩
  have hequal : stored.EqualUpToWidths p.value.toBson :=
    .document rfl (.cons (.array (.cons (.number hone) (.cons (.scalar rfl) .nil))) .nil)
  obtain ⟨tree, htree, hmatches⟩ := Property.clause_selects_iff_widths (p := p) [] (.inl rfl) trivial
    (by decide) (by decide +kernel) rfl
  obtain ⟨hselects, -⟩ := hmatches [("box", stored)] stored rfl hequal
  exact ⟨tree, htree, hselects (by decide)⟩

/-- A number is found in another width, but an array that holds it is not. -/
theorem otherWidth_in_array_not_selected :
    let value : Value := .array [.int 1]
    let stored : Bson := .array [.int64 1]
    stored.EqualUpToWidths value.toBson ∧
      fieldEquals (some (.int64 1)) (Value.int 1).toBson = true ∧
        ∃ tree, Property.clause { key := "tags", value, valueType := .array } [] = .ok tree ∧
          Document.matches [("tags", stored)] tree.toDocument = .ok false := by
  intro value stored
  have hone : (Bson.int64 1).SameNumber (.int32 1) := ⟨(1, 1), (1, 1), rfl, rfl, rfl⟩
  refine ⟨.array (.cons (.number hone) .nil), by decide +kernel, _, rfl, ?_⟩
  show Document.matches [("tags", .array [.int64 1])] [("tags", .array [.int32 1])] = .ok false
  rfl

end DocQuery
