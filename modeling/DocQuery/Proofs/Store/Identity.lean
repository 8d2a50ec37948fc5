import DocQuery.Proofs.Number.Magnitude
import DocQuery.Proofs.Store.Condition

/-!
# Identities

Two values may be equal to a store although they are different: numbers of all widths are compared
as doubles.  The identity of a value is what this equality sees of it.  Texts, truth values, numbers
other than NaN, instants and object identifiers have an identity, and two of them are equal to a store
exactly when they have the same; so on them its equality is an equivalence.

A condition that asks a field with an identity for a value, or for one of several values, is a question
about identities.
-/

namespace DocQuery

/-! ## Numbers -/

namespace Double

theorem isNaN_of_isFinite {x : Double} (h : x.isFinite = true) : x.isNaN = false := by
  have hlt : x.magnitude < infiniteMagnitude := of_decide_eq_true h
  exact decide_eq_false (Nat.not_lt.2 (Nat.le_of_lt hlt))

theorem exists_rank {x : Double} (h : x.isNaN = false) : ∃ rank, x.rank? = some rank := by
  rw [rank?, h]
  exact ⟨_, rfl⟩

end Double

/-! ## Identities of values -/

/-- What the equality of a store sees of a value. -/
inductive Identity where
  /-- A number, as the place of its double in the order of doubles. -/
  | number (rank : Int)
  | text (s : String)
  | truth (b : Bool)
  | instant (millis : Int)
  | object (id : ObjectId)
deriving DecidableEq

/-- The value that an identity shows; a number has several of different width. -/
def Identity.literal? : Identity → Option Bson
  | number _ => none
  | text s => some (.string s)
  | truth b => some (.bool b)
  | instant millis => some (.dateTime millis)
  | object id => some (.objectId id)

theorem Identity.literal?_eq_none {k : Identity} (h : k.literal? = none) :
    ∃ rank, k = .number rank := by
  cases k with
  | number rank => exact ⟨rank, rfl⟩
  | _ => cases h

namespace Bson

/-- The identity of a value, if it is of a kind that has one. -/
def identity? : Bson → Option Identity
  | int32 n => (Double.ofInt n.toInt).rank?.map .number
  | int64 n => (Double.ofInt n.toInt).rank?.map .number
  | double x => x.rank?.map .number
  | string s => some (.text s)
  | bool b => some (.truth b)
  | dateTime millis => some (.instant millis)
  | objectId id => some (.object id)
  | _ => none

/-- Whether a value can be the key of a record: a text, a truth value, an integer, a finite double, an
instant or an object identifier. -/
def IsKey : Bson → Prop
  | string _ => True
  | bool _ => True
  | int32 _ => True
  | int64 _ => True
  | double x => x.isFinite = true
  | dateTime _ => True
  | objectId _ => True
  | _ => False

theorem IsKey.exists_identity {b : Bson} (h : b.IsKey) : ∃ k, b.identity? = some k := by
  have hnumber {x : Double} (hx : x.isNaN = false) : ∃ k, x.rank?.map Identity.number = some k := by
    obtain ⟨rank, hrank⟩ := Double.exists_rank hx
    exact ⟨.number rank, by rw [hrank]; rfl⟩
  cases b with
  | string s => exact ⟨_, rfl⟩
  | bool b => exact ⟨_, rfl⟩
  | int32 n => exact hnumber (Double.isNaN_ofInt _)
  | int64 n => exact hnumber (Double.isNaN_ofInt _)
  | double x => exact hnumber (Double.isNaN_of_isFinite h)
  | dateTime millis => exact ⟨_, rfl⟩
  | objectId id => exact ⟨_, rfl⟩
  | _ => exact h.elim

/-- A value with the identity of a number is a number. -/
theorem exists_number? {b : Bson} {rank : Int} (h : b.identity? = some (.number rank)) :
    ∃ x, b.number? = some x ∧ x.rank? = some rank := by
  have hrank {x : Double} (h : x.rank?.map Identity.number = some (.number rank)) :
      x.rank? = some rank := by
    obtain ⟨other, hother, heq⟩ := Option.map_eq_some_iff.1 h
    obtain ⟨rfl⟩ := Identity.number.inj heq
    exact hother
  cases b with
  | int32 n => exact ⟨_, rfl, hrank h⟩
  | int64 n => exact ⟨_, rfl, hrank h⟩
  | double x => exact ⟨_, rfl, hrank h⟩
  | _ => simp [identity?] at h

/-- Two doubles that are not NaN are compared by their ranks. -/
theorem compare?_of_number? {a b : Bson} {x y : Double} {r s : Int} (ha : a.number? = some x)
    (hb : b.number? = some y) (hx : x.rank? = some r) (hy : y.rank? = some s) :
    a.compare? b = some (compare r s) := by
  unfold compare?
  rw [ha, hb]
  simp only [Double.compare?, hx, hy]

/-- A value with another identity than a number is the value that the identity shows. -/
theorem eq_of_literal? {b v : Bson} {k : Identity} (hb : b.identity? = some k)
    (hk : k.literal? = some v) : b = v := by
  cases k with
  | number rank => cases hk
  | _ =>
    cases hk
    cases b <;> simp_all [identity?]

/-- Values with identities are equal to a store exactly when their identities are the same. -/
theorem compare?_eq_iff {a b : Bson} {j k : Identity} (ha : a.identity? = some j)
    (hb : b.identity? = some k) : a.compare? b = some .eq ↔ j = k := by
  cases hj : j.literal? with
  | none =>
    obtain ⟨r, rfl⟩ := Identity.literal?_eq_none hj
    obtain ⟨x, hx, hr⟩ := exists_number? ha
    cases hk : k.literal? with
    | none =>
      obtain ⟨s, rfl⟩ := Identity.literal?_eq_none hk
      obtain ⟨y, hy, hs⟩ := exists_number? hb
      rw [compare?_of_number? hx hy hr hs, Option.some.injEq, Int.compare_eq_eq,
        Identity.number.injEq]
    | some v =>
      obtain rfl := eq_of_literal? hb hk
      cases a <;> cases hx <;> cases k <;> cases hk <;> simp [compare?, number?, same]
  | some u =>
    obtain rfl := eq_of_literal? ha hj
    cases hk : k.literal? with
    | none =>
      obtain ⟨s, rfl⟩ := Identity.literal?_eq_none hk
      obtain ⟨y, hy, hs⟩ := exists_number? hb
      cases b <;> cases hy <;> cases j <;> cases hj <;> simp [compare?, number?, same]
    | some v =>
      obtain rfl := eq_of_literal? hb hk
      cases j <;> cases hj <;> cases k <;> cases hk <;> simp [compare?, number?, same]

/-- What is equal to a value with an identity has the same identity. -/
theorem identity?_of_compare? {a b : Bson} {k : Identity} (hb : b.identity? = some k)
    (h : a.compare? b = some .eq) : a.identity? = some k := by
  cases ha : a.identity? with
  | some j => rw [(compare?_eq_iff ha hb).1 h]
  | none =>
    exfalso
    cases hk : k.literal? with
    | some v =>
      obtain rfl := eq_of_literal? hb hk
      cases k <;> cases hk <;> cases a <;> simp_all [compare?, number?, same, identity?]
    | none =>
      obtain ⟨r, rfl⟩ := Identity.literal?_eq_none hk
      obtain ⟨y, hy, hr⟩ := exists_number? hb
      cases a <;> cases b <;> cases hy <;>
        simp_all [compare?, number?, same, identity?, Double.compare?]

/-- A value with an identity is no document of operators. -/
theorem isOperatorDocument_of_identity? {b : Bson} {k : Identity} (h : b.identity? = some k) :
    isOperatorDocument b = false := by
  cases b with
  | document fields => cases h
  | _ => rfl

end Bson

/-! ## Conditions on identities -/

/-- A field is asked for one of several values by asking for each. -/
theorem fieldMatches_in (field : Option Bson) (ids : List Bson) :
    fieldMatches field (.document [("$in", .array ids)]) = .ok (ids.any (fieldEquals field)) := by
  have hread : fieldMatches field (.document [("$in", .array ids)]) =
      operatorsMatch field none [("$in", .array ids)] := by
    rw [fieldMatches]
    rfl
  rw [hread, operatorsMatch_single _ _ (show FieldTest.ofName? "$in" = some .among from rfl)
    (by decide), FieldTest.passes]

section
variable {a b : Bson} {j k : Identity} (ha : a.identity? = some j)
include ha

theorem fieldEquals_identity (hb : b.identity? = some k) :
    fieldEquals (some a) b = decide (j = k) := by
  have hiff := Bson.compare?_eq_iff ha hb
  rw [fieldEquals]
  by_cases h : j = k
  · rw [hiff.2 h, decide_eq_true h]
    rfl
  · rw [decide_eq_false h, beq_eq_false_iff_ne]
    exact fun heq ↦ h (hiff.1 heq)

/-- A value is asked for by its identity. -/
theorem fieldMatches_identity (hb : b.identity? = some k) :
    fieldMatches (some a) b = .ok (decide (j = k)) := by
  have hplain := Bson.isOperatorDocument_of_identity? hb
  rw [fieldMatches_of_not_isOperatorDocument _ hplain, fieldEquals_identity ha hb]

/-- One of several values is asked for by their identities. -/
theorem fieldMatches_among {ids : List Bson} (hids : ∀ id ∈ ids, ∃ k, id.identity? = some k) :
    fieldMatches (some a) (.document [("$in", .array ids)]) =
      .ok (decide (some j ∈ ids.map Bson.identity?)) := by
  have hany : ids.any (fieldEquals (some a)) = decide (some j ∈ ids.map Bson.identity?) := by
    induction ids with
    | nil => rfl
    | cons id rest ih =>
      obtain ⟨k, hk⟩ := hids id (List.mem_cons_self ..)
      have hrest := ih fun id hid ↦ hids id (List.mem_cons_of_mem _ hid)
      rw [List.any_cons, fieldEquals_identity ha hk, hrest]
      simp [hk]
  rw [fieldMatches_in, hany]

end

end DocQuery
