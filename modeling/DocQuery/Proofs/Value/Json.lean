import DocQuery.Proofs.Json.Parts
import DocQuery.Proofs.Number.ExactValue
import DocQuery.Value.Json

/-!
# Values Read Back

A value is read back from its JSON if two things hold of everything inside of it: the names of an object
increase, as they do in `Value.ofFields`, and JSON can express it.  Instants, doubles that are not finite
and doubles whose numeral names another double are what JSON cannot express.

The numeral of an integer names this integer again, and the numeral of a double names no integer, so
that the two kinds of numbers are never mistaken for each other.
-/

namespace DocQuery

/-! ## Numerals of numbers -/

namespace Numeral

theorem int?_ofInt (n : Int64) : (ofInt n.toInt).int? = some n := by
  have hlow := n.le_toInt
  have hhigh := n.toInt_lt
  have hvalue : (if decide (n.toInt < 0) then -(n.toInt.natAbs : Int) else n.toInt.natAbs) =
      n.toInt := by
    by_cases h : n.toInt < 0
    · rw [if_pos (by simpa using h)]
      omega
    · rw [if_neg (by simpa using h)]
      omega
  unfold int? ofInt
  simp only [hvalue]
  rw [if_pos]
  · rw [Int64.ofInt_toInt]
  · simp [isInteger]
    omega

theorem int?_of_not_isInteger {n : Numeral} (h : n.isInteger = false) : n.int? = none := by
  simp [int?, h]

/-- The numeral of a double always has a fraction or an exponent. -/
theorem isInteger_ofDouble (x : Double) : (ofDouble x).isInteger = false := by
  unfold ofDouble
  split
  · rfl
  · unfold ofDecimal isInteger
    dsimp only
    split
    · simp
    · split <;> split <;> simp_all

/-- A whole part that is small enough is a significand. -/
theorem leadingDigits_of_lt {whole : Nat} (h : whole < significandLimit) :
    leadingDigits whole = (whole, 0) := by
  have hlength : (Nat.toDigits 10 whole).length ≤ 20 := by
    rw [Nat.length_toDigits_le_iff (by decide) (by decide)]
    exact Nat.lt_trans h (by decide)
  have hexcess : (Nat.toDigits 10 whole).length - 20 = 0 := by omega
  have hdiv : whole / Nat.pow 10 0 = whole := Nat.div_one whole
  unfold leadingDigits
  dsimp only
  rw [hexcess, hdiv, if_pos h]

section
variable {n : Numeral} (hinteger : n.isInteger = true) (hwhole : n.whole < significandLimit)
include hinteger hwhole

/-- A numeral that is written as an integer and is no longer than a significand names this integer. -/
theorem double_of_isInteger :
    n.double = Double.ofRatio n.negative n.whole 1 ∧ n.double.isFinite = true := by
  obtain ⟨negative, whole, fraction, exponent⟩ := n
  obtain ⟨hfraction, hexponent⟩ := Bool.and_eq_true_iff.1 hinteger
  obtain rfl := List.isEmpty_iff.1 hfraction
  obtain rfl := Option.isNone_iff_eq_none.1 hexponent
  have hbound : whole < 1 * Nat.pow 2 64 := by
    rw [Nat.one_mul]
    exact hwhole
  have hfinite : (Double.ofRatio negative whole 1).isFinite = true :=
    Double.isFinite_of_magnitude_le (by decide)
      (Double.magnitude_ofRatio_le negative Nat.one_ne_zero hbound)
  have hdouble : (Numeral.mk negative whole [] none).double = Double.ofRatio negative whole 1 := by
    unfold double
    rw [leadingDigits_of_lt hwhole]
    exact Double.scale10_zero hfinite
  exact ⟨hdouble, hdouble ▸ hfinite⟩

end

theorem isFinite_double_ofInt {n : Int} (h : n.natAbs < significandLimit) :
    (ofInt n).double.isFinite = true :=
  (double_of_isInteger rfl h).2

end Numeral

namespace Value

/-- A statement about values that passes from items to arrays and from fields to objects holds of all, if
it holds of those without parts. -/
theorem induction {motive : Value → Prop} (null : motive .null) (bool : ∀ b, motive (.bool b))
    (int : ∀ n, motive (.int n)) (float : ∀ x, motive (.float x)) (string : ∀ s, motive (.string s))
    (time : ∀ t, motive (.time t))
    (array : ∀ items, (∀ item ∈ items, motive item) → motive (.array items))
    (object : ∀ fields : List (String × Value),
      (∀ name item, (name, item) ∈ fields → motive item) → motive (.object fields)) :
    ∀ v, motive v
  | .array items => array items fun item hitem ↦ by
    have hsize := List.sizeOf_lt_of_mem hitem
    exact induction null bool int float string time array object item
  | .object fields => object fields fun name item hitem ↦ by
    have hsize : sizeOf item < sizeOf fields := by
      have hfield := List.sizeOf_lt_of_mem hitem
      rw [Prod.mk.sizeOf_spec] at hfield
      omega
    exact induction null bool int float string time array object item
  | .null => null
  | .bool b => bool b
  | .int n => int n
  | .float x => float x
  | .string s => string s
  | .time t => time t
termination_by v => sizeOf v

/-! ## Tests of all parts -/

mutual

/-- Whether a value and all values inside of it pass a test. -/
def every (test : Value → Bool) : Value → Bool
  | array items => test (array items) && everyItem test items
  | object fields => test (object fields) && everyField test fields
  | v => test v

/-- Whether all items pass a test, with all values inside of them. -/
def everyItem (test : Value → Bool) : List Value → Bool
  | [] => true
  | item :: rest => item.every test && everyItem test rest

/-- Whether the values of all fields pass a test, with all values inside of them. -/
def everyField (test : Value → Bool) : List (String × Value) → Bool
  | [] => true
  | (_, item) :: rest => item.every test && everyField test rest

end

/-- Whether the names of every object increase, in a value and inside of it. -/
def isOrdered (v : Value) : Bool :=
  v.every fun
    | object fields => Fields.Increasing fields
    | _ => true

/-- Whether JSON can express a value: no part is an instant, a double that is not finite or a double
whose numeral names another double. -/
def isExpressible (v : Value) : Bool :=
  v.every fun
    | float x => x.isFinite && (Numeral.ofDouble x).double = x
    | time _ => false
    | _ => true

theorem everyItem_iff (test : Value → Bool) (items : List Value) :
    everyItem test items = true ↔ ∀ item ∈ items, item.every test = true := by
  induction items with
  | nil => simp [everyItem]
  | cons item rest ih => rw [everyItem, Bool.and_eq_true, ih, List.forall_mem_cons]

theorem everyField_iff (test : Value → Bool) (fields : List (String × Value)) :
    everyField test fields = true ↔ ∀ name item, (name, item) ∈ fields → item.every test = true := by
  induction fields with
  | nil => simp [everyField]
  | cons field rest ih =>
    obtain ⟨name, item⟩ := field
    rw [everyField, Bool.and_eq_true, ih, Fields.forall_mem_cons]

theorem every_array_iff (test : Value → Bool) (items : List Value) :
    (array items).every test = true ↔
      test (array items) = true ∧ ∀ item ∈ items, item.every test = true := by
  rw [every, Bool.and_eq_true, everyItem_iff]

theorem every_object_iff (test : Value → Bool) (fields : List (String × Value)) :
    (object fields).every test = true ↔
      test (object fields) = true ∧ ∀ name item, (name, item) ∈ fields → item.every test = true := by
  rw [every, Bool.and_eq_true, everyField_iff]

/-! ## Reading what was written -/

theorem itemsToJson_eq_map (items : List Value) : itemsToJson items = items.map toJson := by
  induction items with
  | nil => rfl
  | cons item rest ih => rw [itemsToJson, ih, List.map_cons]

theorem fieldsToJson_eq_map (fields : List (String × Value)) :
    fieldsToJson fields = fields.map fun field ↦ (field.1, field.2.toJson) := by
  induction fields with
  | nil => rfl
  | cons field rest ih => rw [fieldsToJson, ih, List.map_cons]

theorem itemsOfJson?_itemsToJson {items : List Value}
    (h : ∀ item ∈ items, ofJson? item.toJson = some item) :
    itemsOfJson? (itemsToJson items) = some items := by
  induction items with
  | nil => rfl
  | cons item rest ih =>
    obtain ⟨hitem, hrest⟩ := List.forall_mem_cons.1 h
    rw [itemsToJson, itemsOfJson?, hitem, ih hrest]

theorem fieldsOfJson?_fieldsToJson {fields : List (String × Value)}
    (h : ∀ name item, (name, item) ∈ fields → ofJson? item.toJson = some item) :
    fieldsOfJson? (fieldsToJson fields) = some fields := by
  induction fields with
  | nil => rfl
  | cons field rest ih =>
    obtain ⟨name, item⟩ := field
    obtain ⟨hitem, hrest⟩ := Fields.forall_mem_cons.1 h
    rw [fieldsToJson, fieldsOfJson?, hitem, ih hrest]

/-- What is left of a value after it was written as JSON and read is the value itself. -/
theorem ofJson?_toJson (v : Value) (hordered : v.isOrdered = true)
    (hexpressible : v.isExpressible = true) : ofJson? v.toJson = some v := by
  induction v using Value.induction with
  | int n => rw [toJson, ofJson?, Numeral.int?_ofInt]
  | float x =>
    obtain ⟨hfinite, hdouble⟩ := Bool.and_eq_true_iff.1 hexpressible
    have hdouble : (Numeral.ofDouble x).double = x := of_decide_eq_true hdouble
    have hint := Numeral.int?_of_not_isInteger (Numeral.isInteger_ofDouble x)
    rw [toJson, if_pos hfinite, ofJson?, hint, hdouble]
    exact if_pos hfinite
  | time t => cases hexpressible
  | array items ih =>
    have hitems (item : Value) (hitem : item ∈ items) : ofJson? item.toJson = some item :=
      ih item hitem (((every_array_iff _ _).1 hordered).2 item hitem)
        (((every_array_iff _ _).1 hexpressible).2 item hitem)
    rw [toJson, ofJson?, itemsOfJson?_itemsToJson hitems]
    rfl
  | object fields ih =>
    obtain ⟨hincreasing, hparts⟩ := (every_object_iff _ _).1 hordered
    have hfields (name : String) (item : Value) (hitem : (name, item) ∈ fields) :
        ofJson? item.toJson = some item :=
      ih name item hitem (hparts name item hitem)
        (((every_object_iff _ _).1 hexpressible).2 name item hitem)
    rw [toJson, ofJson?, fieldsOfJson?_fieldsToJson hfields, Option.map_some, ofFields,
      Fields.sorted_of_increasing (of_decide_eq_true hincreasing)]
  | _ => rfl

/-- What JSON can express is written soundly. -/
theorem isSound_toJson (v : Value) (h : v.isExpressible = true) : v.toJson.isSound = true := by
  induction v using Value.induction with
  | int n =>
    have hlow := n.le_toInt
    have hhigh := n.toInt_lt
    have hlimit : n.toInt.natAbs < Numeral.significandLimit := by
      unfold Numeral.significandLimit
      omega
    exact Numeral.isFinite_double_ofInt hlimit
  | float x =>
    obtain ⟨hfinite, hdouble⟩ := Bool.and_eq_true_iff.1 h
    have hdouble : (Numeral.ofDouble x).double = x := of_decide_eq_true hdouble
    rw [toJson, if_pos hfinite, Json.isSound, hdouble]
    exact hfinite
  | array items ih =>
    rw [toJson, Json.isSound, Json.itemsSound_iff, itemsToJson_eq_map]
    intro tree htree
    obtain ⟨item, hitem, rfl⟩ := List.mem_map.1 htree
    exact ih item hitem (((every_array_iff _ _).1 h).2 item hitem)
  | object fields ih =>
    rw [toJson, Json.isSound, Json.membersSound_iff, fieldsToJson_eq_map]
    intro name tree htree
    obtain ⟨field, hfield, heq⟩ := List.mem_map.1 htree
    obtain ⟨rfl, rfl⟩ := Prod.mk.inj heq
    exact ih field.1 field.2 hfield (((every_object_iff _ _).1 h).2 field.1 field.2 hfield)
  | _ => rfl

end Value

end DocQuery
