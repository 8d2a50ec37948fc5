import DocQuery.Fields.Basic

/-!
# Laws of Named Fields

The view of a list of fields is `get?` together with the list of its names.  `put` changes the
value of one name, appends the name if it is new and moves no other; `erase` removes one name.
Both keep the names distinct.  `putSorted` changes the same value of a list whose names increase,
and keeps them increasing.
-/

namespace DocQuery.Fields

variable {κ α : Type}

/-- The names of the fields, in order. -/
def names (fields : List (κ × α)) : List κ := fields.map (·.1)

/-- Whether each name occurs at most once. -/
def Distinct (fields : List (κ × α)) : Prop := (names fields).Nodup

/-! ## Reading -/

section
variable [DecidableEq κ]

@[simp]
theorem get?_nil (name : κ) : get? name ([] : List (κ × α)) = none := rfl

theorem get?_cons (name key : κ) (value : α) (rest : List (κ × α)) :
    get? name ((key, value) :: rest) = if key = name then some value else get? name rest := rfl

/-- A name has a value exactly when it occurs. -/
theorem get?_isSome_iff (name : κ) (fields : List (κ × α)) :
    (get? name fields).isSome ↔ name ∈ names fields := by
  induction fields with
  | nil => simp [names]
  | cons field rest ih =>
    obtain ⟨key, value⟩ := field
    by_cases h : key = name
    · simp [get?_cons, names, h]
    · have h' : ¬name = key := fun e ↦ h e.symm
      rw [get?_cons, if_neg h, ih]
      simp [names, h']

/-- A name without a value does not occur. -/
theorem get?_eq_none_iff (name : κ) (fields : List (κ × α)) :
    get? name fields = none ↔ name ∉ names fields := by
  rw [← get?_isSome_iff]
  cases get? name fields <;> simp

/-- The value of a name stands in one of its fields. -/
theorem mem_of_get? {name : κ} {value : α} {fields : List (κ × α)}
    (h : get? name fields = some value) : (name, value) ∈ fields := by
  induction fields with
  | nil => exact absurd h (by simp)
  | cons field rest ih =>
    obtain ⟨key, first⟩ := field
    rw [get?_cons] at h
    split at h
    · rename_i hkey
      obtain rfl := Option.some.inj h
      exact hkey ▸ List.mem_cons_self ..
    · exact List.mem_cons_of_mem _ (ih h)

/-! ## Setting a field -/

/-- Setting a name changes what this name has and nothing else. -/
theorem get?_put (name other : κ) (value : α) (fields : List (κ × α)) :
    get? other (put name value fields) =
      if name = other then some value else get? other fields := by
  induction fields with
  | nil => rfl
  | cons field rest ih =>
    obtain ⟨key, old⟩ := field
    by_cases h : key = name
    · subst h
      by_cases ho : key = other <;> simp [put, get?_cons, ho]
    · by_cases ho : key = other
      · subst ho
        simp [put, h, get?_cons, Ne.symm h]
      · simp [put, h, get?_cons, ho, ih]

@[simp]
theorem get?_put_self (name : κ) (value : α) (fields : List (κ × α)) :
    get? name (put name value fields) = some value := by
  simp [get?_put]

theorem get?_put_of_ne {name other : κ} (h : name ≠ other) (value : α)
    (fields : List (κ × α)) : get? other (put name value fields) = get? other fields := by
  simp [get?_put, h]

/-- Of two settings of one name the later counts. -/
theorem put_put (name : κ) (value later : α) (fields : List (κ × α)) :
    put name later (put name value fields) = put name later fields := by
  induction fields with
  | nil => simp [put]
  | cons field rest ih =>
    obtain ⟨key, old⟩ := field
    by_cases h : key = name
    · simp [put, h]
    · simp [put, h, ih]

/-- Setting a name keeps the names in their places and appends the name if it is new. -/
theorem names_put (name : κ) (value : α) (fields : List (κ × α)) :
    names (put name value fields) =
      if name ∈ names fields then names fields else names fields ++ [name] := by
  induction fields with
  | nil => rfl
  | cons field rest ih =>
    obtain ⟨key, old⟩ := field
    by_cases h : key = name
    · simp [put, h, names]
    · have h' : ¬name = key := fun e ↦ h e.symm
      have hcons : names (put name value ((key, old) :: rest)) =
          key :: names (put name value rest) := by
        simp [put, h, names]
      rw [hcons, ih]
      by_cases hr : name ∈ names rest
      · have hc : name ∈ names ((key, old) :: rest) := List.mem_cons_of_mem _ hr
        rw [if_pos hr, if_pos hc]
        rfl
      · have hc : name ∉ names ((key, old) :: rest) := by
          simpa [names, h'] using hr
        rw [if_neg hr, if_neg hc]
        rfl

/-- Setting a name keeps the names distinct. -/
theorem Distinct.put {fields : List (κ × α)} (h : Distinct fields) (name : κ)
    (value : α) : Distinct (put name value fields) := by
  unfold Distinct at h ⊢
  rw [names_put]
  split
  · exact h
  · rename_i hn
    rw [List.nodup_append]
    refine ⟨h, by simp, ?_⟩
    intro a ha b hb hab
    rw [List.mem_singleton] at hb
    exact hn (hb ▸ hab ▸ ha)

/-- Setting several names keeps the names distinct. -/
theorem Distinct.putAll {fields : List (κ × α)} (h : Distinct fields)
    (new : List (κ × α)) : Distinct (putAll fields new) := by
  induction new generalizing fields with
  | nil => exact h
  | cons field rest ih => exact ih (h.put field.1 field.2)

/-! ## Removing a field -/

/-- A removed name has no value, and the others keep theirs. -/
theorem get?_erase (name other : κ) (fields : List (κ × α)) :
    get? other (erase name fields) = if name = other then none else get? other fields := by
  induction fields with
  | nil => simp [erase]
  | cons field rest ih =>
    obtain ⟨key, value⟩ := field
    have ih' : get? other (rest.filter fun field ↦ field.1 ≠ name) =
        if name = other then none else get? other rest := ih
    by_cases h : key = name
    · subst h
      by_cases ho : key = other <;> simp_all [erase, get?_cons]
    · by_cases ho : key = other
      · subst ho
        simp [erase, h, get?_cons, Ne.symm h]
      · simp_all [erase, get?_cons]

/-- Removing a name keeps the order of the others. -/
theorem names_erase (name : κ) (fields : List (κ × α)) :
    names (erase name fields) = (names fields).filter (· ≠ name) := by
  simp [names, erase, List.filter_map, Function.comp_def]

end

/-! ## Sorted fields -/

/-- Whether the names increase. -/
def Increasing (fields : List (String × α)) : Prop := (names fields).Pairwise (· < ·)

/-- Of two different names one is less. -/
theorem lt_of_not_lt {a b : String} (hne : a ≠ b) (h : ¬a < b) : b < a := by
  apply String.not_le.1
  intro hab
  exact hne (String.le_antisymm hab (String.not_lt.1 h))

/-- Names that increase are distinct. -/
theorem Increasing.distinct {fields : List (String × α)} (h : Increasing fields) :
    Distinct fields := by
  refine List.Pairwise.imp ?_ h
  intro a b hab heq
  exact String.lt_irrefl a (heq ▸ hab)

/-- Setting a name in its place in the order changes what this name has and nothing else. -/
theorem get?_putSorted (name other : String) (value : α) {fields : List (String × α)}
    (h : Increasing fields) :
    get? other (putSorted name value fields) =
      if name = other then some value else get? other fields := by
  induction fields with
  | nil => rfl
  | cons field rest ih =>
    obtain ⟨key, old⟩ := field
    have hrest : Increasing rest := (List.pairwise_cons.1 h).2
    by_cases hk : key = name
    · subst hk
      by_cases ho : key = other <;> simp [putSorted, get?_cons, ho]
    · by_cases hlt : name < key
      · simp [putSorted, hk, hlt, get?_cons]
      · by_cases ho : key = other
        · subst ho
          simp [putSorted, hk, hlt, get?_cons, Ne.symm hk]
        · simp [putSorted, hk, hlt, get?_cons, ho, ih hrest]

/-- The names after a setting are the old ones and the new one. -/
theorem mem_names_putSorted (name other : String) (value : α) (fields : List (String × α)) :
    other ∈ names (putSorted name value fields) ↔ other = name ∨ other ∈ names fields := by
  induction fields with
  | nil => simp [putSorted, names]
  | cons field rest ih =>
    obtain ⟨key, old⟩ := field
    have ih' : other ∈ (putSorted name value rest).map (·.1) ↔
        other = name ∨ other ∈ rest.map (·.1) := ih
    by_cases hk : key = name
    · simp [putSorted, names, hk]
    · by_cases hlt : name < key
      · simp [putSorted, names, hk, hlt]
      · simp only [putSorted, names, hk, hlt, if_false, List.map_cons, List.mem_cons, ih']
        exact or_left_comm

/-- Setting a name in its place keeps the names increasing. -/
theorem Increasing.putSorted {fields : List (String × α)} (h : Increasing fields) (name : String)
    (value : α) : Increasing (putSorted name value fields) := by
  induction fields with
  | nil => simp [Fields.putSorted, Increasing, names]
  | cons field rest ih =>
    obtain ⟨key, old⟩ := field
    obtain ⟨hhead, hrest⟩ := List.pairwise_cons.1 h
    by_cases hk : key = name
    · subst hk
      simp only [Fields.putSorted, if_true]
      exact h
    · by_cases hlt : name < key
      · simp only [Fields.putSorted, if_neg hk, if_pos hlt]
        refine List.pairwise_cons.2 ⟨?_, h⟩
        intro other hmem
        rcases List.mem_cons.1 hmem with rfl | hmem
        · exact hlt
        · exact String.lt_trans hlt (hhead other hmem)
      · simp only [Fields.putSorted, if_neg hk, if_neg hlt]
        refine List.pairwise_cons.2 ⟨?_, ih hrest⟩
        intro other hmem
        rcases (mem_names_putSorted name other value rest).1 hmem with rfl | hmem
        · exact lt_of_not_lt (Ne.symm hk) hlt
        · exact hhead other hmem

/-- Sorted fields have increasing names. -/
theorem increasing_sorted (fields : List (String × α)) : Increasing (sorted fields) := by
  suffices h : ∀ acc : List (String × α), Increasing acc →
      Increasing (fields.foldl (fun acc field ↦ Fields.putSorted field.1 field.2 acc) acc) from
    h [] List.Pairwise.nil
  induction fields with
  | nil => exact fun _ h ↦ h
  | cons field rest ih => exact fun acc h ↦ ih _ (h.putSorted field.1 field.2)

end DocQuery.Fields
