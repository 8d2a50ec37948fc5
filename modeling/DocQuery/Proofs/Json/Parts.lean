import DocQuery.Json.Basic
import DocQuery.Proofs.Fields.Writing

/-!
# Parts of JSON Trees

A statement about JSON trees is proved by `Json.induction`, which passes from the items to an array and
from the values of members to an object.  Soundness and depth of lists are soundness and depth of what
is in them.
-/

namespace DocQuery.Json

/-- A statement about trees that passes from items to arrays and from members to objects holds of all,
if it holds of those without parts. -/
theorem induction {motive : Json → Prop} (null : motive .null) (bool : ∀ b, motive (.bool b))
    (number : ∀ n, motive (.number n)) (string : ∀ s, motive (.string s))
    (unreadable : motive .unreadable)
    (array : ∀ items, (∀ item ∈ items, motive item) → motive (.array items))
    (object : ∀ members : List (String × Json),
      (∀ name item, (name, item) ∈ members → motive item) → motive (.object members)) :
    ∀ t, motive t
  | .array items => array items fun item hitem ↦ by
    have hsize := List.sizeOf_lt_of_mem hitem
    exact induction null bool number string unreadable array object item
  | .object members => object members fun name item hitem ↦ by
    have hsize : sizeOf item < sizeOf members := by
      have hmember := List.sizeOf_lt_of_mem hitem
      rw [Prod.mk.sizeOf_spec] at hmember
      omega
    exact induction null bool number string unreadable array object item
  | .null => null
  | .bool b => bool b
  | .number n => number n
  | .string s => string s
  | .unreadable => unreadable
termination_by t => sizeOf t

/-! ## Soundness -/

@[simp]
theorem itemsSound_cons (item : Json) (rest : List Json) :
    itemsSound (item :: rest) = (item.isSound && itemsSound rest) := rfl

@[simp]
theorem membersSound_cons (name : String) (item : Json) (rest : List (String × Json)) :
    membersSound ((name, item) :: rest) = (item.isSound && membersSound rest) := rfl

theorem itemsSound_iff (items : List Json) :
    itemsSound items = true ↔ ∀ item ∈ items, item.isSound = true := by
  induction items with
  | nil => simp [itemsSound]
  | cons item rest ih => rw [itemsSound_cons, Bool.and_eq_true, ih, List.forall_mem_cons]

theorem membersSound_iff (members : List (String × Json)) :
    membersSound members = true ↔ ∀ name item, (name, item) ∈ members → item.isSound = true := by
  induction members with
  | nil => simp [membersSound]
  | cons member rest ih =>
    obtain ⟨name, item⟩ := member
    rw [membersSound_cons, Bool.and_eq_true, ih, Fields.forall_mem_cons]

end DocQuery.Json
