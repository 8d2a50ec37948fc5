import DocQuery.Model.Coercion
import DocQuery.Proofs.Fields.Writing

/-!
# Fields of Records for Storing

The record for storing has the fields of the record, in the same order.  A field that is declared as an
instant, no matter how often and among which other types, is coerced once; every other field has the
value that it had.  A record in its stored form is its own stored form.
-/

namespace DocQuery

theorem Instant.ofText?_empty : Instant.ofText? "" = none := by decide +kernel

theorem coerceInstant_string (s : String) :
    coerceInstant (.string s) = (Instant.ofText? s).elim (.string s) Instant.toBson := by
  rw [coerceInstant]
  split
  · rename_i hempty
    obtain rfl : s = "" := by simpa using hempty
    rw [Instant.ofText?_empty]
    rfl
  · cases Instant.ofText? s <;> rfl

/-- A value stays as it is unless it is a text that names an instant, which takes its place. -/
theorem coerceInstant_spec (value : Bson) :
    (∃ text instant, value = .string text ∧ text ≠ "" ∧ Instant.ofText? text = some instant ∧
        coerceInstant value = .dateTime instant.millis) ∨
      (∀ text, value = .string text → Instant.ofText? text = none) ∧ coerceInstant value = value := by
  cases value with
  | string text =>
    cases hread : Instant.ofText? text with
    | some instant =>
      left
      have hne : text ≠ "" := by
        rintro rfl
        exact nomatch Instant.ofText?_empty.symm.trans hread
      exact ⟨text, instant, rfl, hne, hread, by rw [coerceInstant_string, hread]; rfl⟩
    | none =>
      right
      refine ⟨fun other hother ↦ ?_, by rw [coerceInstant_string, hread]; rfl⟩
      obtain rfl := Bson.string.inj hother
      exact hread
  | _ => exact .inr ⟨nofun, rfl⟩

/-- A value that does not stay as it is was a text and becomes an instant. -/
theorem exists_of_coerceInstant_ne {value : Bson} (h : coerceInstant value ≠ value) :
    ∃ s t, value = .string s ∧ coerceInstant value = .dateTime t := by
  rcases coerceInstant_spec value with ⟨text, instant, hvalue, -, -, hafter⟩ | ⟨-, hsame⟩
  · exact ⟨text, instant.millis, hvalue, hafter⟩
  · exact absurd hsame h

/-- What has been coerced stays as it is. -/
theorem coerceInstant_idem (value : Bson) :
    coerceInstant (coerceInstant value) = coerceInstant value := by
  by_cases h : coerceInstant value = value
  · rw [h, h]
  · obtain ⟨s, t, -, ht⟩ := exists_of_coerceInstant_ne h
    rw [ht]
    rfl

theorem names_coerceProperty (record : Document) (property : String × PropertyType) :
    Fields.names (coerceProperty record property) = Fields.names record := by
  unfold coerceProperty
  split
  · rename_i hget
    have hmem : property.1 ∈ Fields.names record :=
      (Fields.get?_isSome_iff _ _).1 (by rw [hget]; rfl)
    rw [Fields.names_put, if_pos hmem]
  · rfl

theorem get?_coerceProperty (name : String) (record : Document) (property : String × PropertyType) :
    Fields.get? name (coerceProperty record property) =
      if property = (name, .datetime) then (Fields.get? name record).map coerceInstant
      else Fields.get? name record := by
  obtain ⟨field, type⟩ := property
  by_cases htype : type = .datetime
  · subst htype
    cases hget : Fields.get? field record with
    | none =>
      have hsame : coerceProperty record (field, .datetime) = record := by
        simp only [coerceProperty, hget]
      rw [hsame]
      split
      · rename_i hfield
        obtain ⟨rfl, -⟩ := Prod.mk.inj hfield
        rw [hget]
        rfl
      · rfl
    | some value =>
      have hput : coerceProperty record (field, .datetime) =
          Fields.put field (coerceInstant value) record := by
        simp only [coerceProperty, hget]
      rw [hput, Fields.get?_put]
      by_cases hfield : field = name
      · subst hfield
        rw [if_pos rfl, if_pos rfl, hget]
        rfl
      · rw [if_neg hfield, if_neg fun h ↦ hfield (Prod.mk.inj h).1]
  · have hsame : coerceProperty record (field, type) = record := by
      cases type with
      | datetime => exact absurd rfl htype
      | _ => rfl
    rw [hsame, if_neg fun h ↦ htype (Prod.mk.inj h).2]

/-- A field that coercion would not change stays, and so does the record. -/
theorem coerceProperty_eq_self {record : Document} {property : String × PropertyType}
    (h : property.2 = .datetime → ∀ value, Fields.get? property.1 record = some value →
      coerceInstant value = value) : coerceProperty record property = record := by
  unfold coerceProperty
  split
  · rename_i htype hget
    rw [h htype _ hget, Fields.put_of_get? hget]
  · rfl

namespace Model

theorem names_coerce (m : Model) (record : Document) :
    Fields.names (m.coerce record) = Fields.names record := by
  unfold coerce
  induction m.properties generalizing record with
  | nil => rfl
  | cons property rest ih =>
    rw [List.foldl_cons, ih, names_coerceProperty]

/-- The fields that are declared as instants are coerced, and no others. -/
theorem get?_coerce (m : Model) (name : String) (record : Document) :
    Fields.get? name (m.coerce record) =
      if (name, .datetime) ∈ m.properties then (Fields.get? name record).map coerceInstant
      else Fields.get? name record := by
  unfold coerce
  induction m.properties generalizing record with
  | nil => rfl
  | cons property rest ih =>
    rw [List.foldl_cons, ih, get?_coerceProperty]
    by_cases hfirst : property = (name, .datetime)
    · have hmem : (name, .datetime) ∈ property :: rest := by simp [hfirst]
      rw [if_pos hfirst, if_pos hmem, Option.map_map]
      split
      · -- A field that is declared twice has been coerced already.
        exact congrFun (congrArg Option.map (funext coerceInstant_idem)) _
      · rfl
    · have hiff : (name, .datetime) ∈ property :: rest ↔ (name, .datetime) ∈ rest := by
        simp [Ne.symm hfirst]
      rw [if_neg hfirst]
      simp only [hiff]

theorem foldl_coerceProperty_eq_self {record : Document} {properties : List (String × PropertyType)}
    (h : ∀ property ∈ properties, coerceProperty record property = record) :
    properties.foldl coerceProperty record = record := by
  induction properties with
  | nil => rfl
  | cons property rest ih =>
    rw [List.foldl_cons, h property List.mem_cons_self]
    exact ih fun other hother ↦ h other (List.mem_cons_of_mem _ hother)

/-- No step of the coercion finds anything to change in a record that is in its stored form. -/
theorem coerce_idem (m : Model) (record : Document) :
    m.coerce (m.coerce record) = m.coerce record := by
  apply foldl_coerceProperty_eq_self
  rintro ⟨name, type⟩ hmem
  apply coerceProperty_eq_self
  rintro rfl value hget
  rw [get?_coerce, if_pos hmem] at hget
  obtain ⟨before, -, rfl⟩ := Option.map_eq_some_iff.1 hget
  exact coerceInstant_idem before

/-- Whether a field is declared as an instant and its value is a text, not empty, that names this
instant. -/
def NamesInstant (m : Model) (name : String) (value : Bson) (instant : Instant) : Prop :=
  (name, .datetime) ∈ m.properties ∧
    ∃ text, value = .string text ∧ text ≠ "" ∧ Instant.ofText? text = some instant

/-- The stored form of a record has the names of the record in their order.  A field has changed exactly
if it is declared as an instant and its text names one, and then it is that instant in milliseconds; the
stored form of the stored form is itself. -/
theorem coerce_changes_instants_only (m : Model) (record : Document) :
    Fields.names (m.coerce record) = Fields.names record ∧
      (∀ name before, Fields.get? name record = some before →
        ∃ after, Fields.get? name (m.coerce record) = some after ∧
          (∀ instant, m.NamesInstant name before instant → after = .dateTime instant.millis) ∧
          (after ≠ before ↔ ∃ instant, m.NamesInstant name before instant)) ∧
      m.coerce (m.coerce record) = m.coerce record := by
  refine ⟨names_coerce m record, fun name before hbefore ↦ ?_, coerce_idem m record⟩
  rw [get?_coerce, hbefore]
  by_cases hdeclared : (name, .datetime) ∈ m.properties
  · rw [if_pos hdeclared]
    refine ⟨coerceInstant before, rfl, ?_⟩
    rcases coerceInstant_spec before with ⟨text, instant, rfl, hne, hread, hafter⟩ | ⟨hread, hafter⟩
    · rw [hafter]
      refine ⟨?_, fun _ ↦ ⟨instant, hdeclared, text, rfl, hne, hread⟩, fun _ ↦ nofun⟩
      rintro other ⟨-, _, htext, -, hother⟩
      rw [← Bson.string.inj htext, hread] at hother
      rw [Option.some.inj hother]
    · have hnone : ∀ instant, ¬m.NamesInstant name before instant := by
        rintro instant ⟨-, text, htext, -, hinstant⟩
        exact nomatch (hread text htext).symm.trans hinstant
      exact ⟨fun instant h ↦ absurd h (hnone instant), fun h ↦ absurd hafter h,
        fun ⟨instant, h⟩ ↦ absurd h (hnone instant)⟩
  · rw [if_neg hdeclared]
    exact ⟨before, rfl, fun _ h ↦ absurd h.1 hdeclared, fun h ↦ absurd rfl h,
      fun ⟨_, h⟩ ↦ absurd h.1 hdeclared⟩

end Model

end DocQuery
