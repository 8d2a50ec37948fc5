import Mathlib.Data.List.Induction
import DocQuery.Proofs.Fields.Writing

/-!
# Sorting Named Fields

Fields can be set in turn in the order of their names or in the order in which they come.  In both ways the
last of several fields of one name counts.  So it makes no difference to the sorted fields whether such
fields have been put together before.

A list whose names increase is known from the values of the names: `Increasing.ext`.
-/

namespace DocQuery.Fields

variable {α β : Type}

theorem sorted_concat (fields : List (String × α)) (field : String × α) :
    sorted (fields ++ [field]) = putSorted field.1 field.2 (sorted fields) := by
  unfold sorted
  rw [List.foldl_append]
  rfl

theorem mem_putSorted {name : String} {value : α} {fields : List (String × α)} {field : String × α}
    (h : field ∈ putSorted name value fields) : field = (name, value) ∨ field ∈ fields := by
  induction fields with
  | nil => exact .inl (List.mem_singleton.1 h)
  | cons first rest ih =>
    obtain ⟨key, old⟩ := first
    rw [putSorted] at h
    split at h
    · exact (List.mem_cons.1 h).imp_right (List.mem_cons_of_mem _)
    · split at h
      · exact List.mem_cons.1 h
      · rcases List.mem_cons.1 h with rfl | h
        · exact .inr (List.mem_cons_self ..)
        · exact (ih h).imp_right (List.mem_cons_of_mem _)

/-- Sorting adds no fields. -/
theorem sorted_subset (fields : List (String × α)) : sorted fields ⊆ fields := by
  induction fields using List.reverseRecOn with
  | nil => exact List.Subset.refl _
  | append_singleton rest last ih =>
    intro field hfield
    rw [sorted_concat] at hfield
    rcases mem_putSorted hfield with rfl | hfield
    · exact List.mem_append_right _ (List.mem_singleton.2 rfl)
    · exact List.mem_append_left _ (ih hfield)

/-- Sorted fields have the values that setting them in turn leaves. -/
theorem get?_sorted (name : String) (fields : List (String × α)) :
    get? name (sorted fields) = get? name (putAll [] fields) := by
  induction fields using List.reverseRecOn with
  | nil => rfl
  | append_singleton rest last ih =>
    rw [sorted_concat, get?_putSorted _ _ _ (increasing_sorted rest), ih, putAll_append]
    exact (get?_put ..).symm

theorem Increasing.not_mem_of_lt {name key : String} {value : α} {rest : List (String × α)}
    (h : Increasing ((key, value) :: rest)) (hlt : name < key) :
    name ∉ names ((key, value) :: rest) := by
  intro hmem
  rcases List.mem_cons.1 hmem with rfl | hmem
  · exact String.lt_irrefl _ hlt
  · exact String.lt_irrefl _ (String.lt_trans hlt ((List.pairwise_cons.1 h).1 name hmem))

/-- Lists whose names increase are the same if every name has the same value in both. -/
theorem Increasing.ext {fields others : List (String × α)} (h : Increasing fields)
    (hothers : Increasing others) (hget : ∀ name, get? name fields = get? name others) :
    fields = others := by
  induction fields generalizing others with
  | nil =>
    cases others with
    | nil => rfl
    | cons other rest =>
      obtain ⟨key, value⟩ := other
      exact absurd (hget key) (by simp [get?_cons])
  | cons field rest ih =>
    obtain ⟨key, value⟩ := field
    have hself (k : String) (v : α) (l : List (String × α)) :
        get? k ((k, v) :: l) = some v := if_pos rfl
    cases others with
    | nil => exact absurd (hget key) (by simp [get?_cons])
    | cons other more =>
      obtain ⟨otherKey, otherValue⟩ := other
      have hkey : key = otherKey := by
        apply Classical.byContradiction
        intro hne
        by_cases hlt : key < otherKey
        · have hnone := (get?_eq_none_iff _ _).2 (hothers.not_mem_of_lt hlt)
          rw [← hget, hself] at hnone
          cases hnone
        · have hnone := (get?_eq_none_iff _ _).2 (h.not_mem_of_lt (lt_of_not_lt hne hlt))
          rw [hget, hself] at hnone
          cases hnone
      subst hkey
      have hvalue : value = otherValue := by
        have hhead := hget key
        rw [hself, hself] at hhead
        exact Option.some.inj hhead
      subst hvalue
      have hrest (name : String) : get? name rest = get? name more := by
        by_cases hname : key = name
        · subst hname
          rw [(get?_eq_none_iff key rest).2 (List.nodup_cons.1 h.distinct).1,
            (get?_eq_none_iff key more).2 (List.nodup_cons.1 hothers.distinct).1]
        · have hboth := hget name
          rwa [get?_cons, get?_cons, if_neg hname, if_neg hname] at hboth
      rw [ih (List.pairwise_cons.1 h).2 (List.pairwise_cons.1 hothers).2 hrest]

/-- Of several fields of one name the last counts in both orders. -/
theorem sorted_putAll (fields : List (String × α)) : sorted (putAll [] fields) = sorted fields := by
  have hnil : Distinct ([] : List (String × α)) := List.nodup_nil
  have hagain : putAll [] (putAll [] fields) = putAll [] fields := by
    rw [putAll_eq_overwrite hnil (hnil.putAll fields)]
    simp [overwrite, names]
  apply Increasing.ext (increasing_sorted _) (increasing_sorted _)
  intro name
  rw [get?_sorted, get?_sorted, hagain]

theorem map_put (f : α → β) (name : String) (value : α) (fields : List (String × α)) :
    (put name value fields).map (fun field ↦ (field.1, f field.2)) =
      put name (f value) (fields.map fun field ↦ (field.1, f field.2)) := by
  induction fields with
  | nil => rfl
  | cons field rest ih =>
    obtain ⟨key, old⟩ := field
    rw [put, List.map_cons, put]
    split
    · rfl
    · rw [List.map_cons, ih]

theorem map_putAll (f : α → β) (fields new : List (String × α)) :
    (putAll fields new).map (fun field ↦ (field.1, f field.2)) =
      putAll (fields.map fun field ↦ (field.1, f field.2))
        (new.map fun field ↦ (field.1, f field.2)) := by
  induction new generalizing fields with
  | nil => rfl
  | cons field rest ih => rw [putAll_cons, ih, map_put, List.map_cons, putAll_cons]

end DocQuery.Fields
