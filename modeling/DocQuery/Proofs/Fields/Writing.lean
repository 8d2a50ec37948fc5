import DocQuery.Fields.Lemmas

/-!
# Writing Named Fields

What `put`, `putAll` and `erase` leave of a list of fields, field by field.  Where the names are
distinct, setting a name that is present changes one place, and setting one that is not appends a
field.  Setting several names is `overwrite`: every field that is there keeps its place and takes its
new value if it has one, and the others follow in their order.  To set the same names again changes
nothing.  Fields whose names increase are already sorted.

The values alone, in their order, are what a list keyed by another name looks like from outside.  The
place of a name in the list is also the place of its value.
-/

namespace DocQuery.Fields

variable {κ α : Type}

/-- The values of the fields, in order. -/
def values (fields : List (κ × α)) : List α := fields.map (·.2)

@[simp]
theorem values_cons (field : κ × α) (rest : List (κ × α)) :
    values (field :: rest) = field.2 :: values rest := rfl

@[simp]
theorem values_append (fields others : List (κ × α)) :
    values (fields ++ others) = values fields ++ values others :=
  List.map_append

theorem forall_mem_cons {P : κ → α → Prop} {key : κ} {value : α} {rest : List (κ × α)} :
    (∀ name other, (name, other) ∈ (key, value) :: rest → P name other) ↔
      P key value ∧ ∀ name other, (name, other) ∈ rest → P name other := by
  constructor
  · intro h
    exact ⟨h key value (List.mem_cons_self ..),
      fun name other hmem ↦ h name other (List.mem_cons_of_mem _ hmem)⟩
  · rintro ⟨hfirst, hrest⟩ name other hmem
    rcases List.mem_cons.1 hmem with heq | hmem
    · obtain ⟨rfl, rfl⟩ := Prod.mk.inj heq
      exact hfirst
    · exact hrest name other hmem

theorem distinct_singleton (field : κ × α) : Distinct [field] :=
  List.pairwise_singleton ..

section
variable [DecidableEq κ]

instance (fields : List (κ × α)) : Decidable (Distinct fields) :=
  inferInstanceAs (Decidable (names fields).Nodup)

/-- The fields with those of another list written over them: every field keeps its place and takes its
new value, if there is one, and new fields follow. -/
def overwrite (old new : List (κ × α)) : List (κ × α) :=
  old.map (fun field ↦ (field.1, (get? field.1 new).getD field.2)) ++
    new.filter fun field ↦ field.1 ∉ names old

/-! ## Reading a field -/

theorem get?_of_mem {fields : List (κ × α)} (hdistinct : Distinct fields) {field : κ × α}
    (h : field ∈ fields) : get? field.1 fields = some field.2 := by
  induction fields with
  | nil => exact absurd h (by simp)
  | cons first rest ih =>
    obtain ⟨hfirst, hrest⟩ := List.nodup_cons.1 hdistinct
    obtain ⟨key, value⟩ := first
    rw [get?_cons]
    rcases List.mem_cons.1 h with rfl | hmem
    · rw [if_pos rfl]
    · have hname : field.1 ∈ names rest := List.mem_map_of_mem hmem
      have hne : key ≠ field.1 := fun heq ↦ hfirst (heq ▸ hname)
      rw [if_neg hne, ih hrest hmem]

/-! ## Setting a field -/

theorem put_of_not_mem {name : κ} {fields : List (κ × α)} (h : name ∉ names fields) (value : α) :
    put name value fields = fields ++ [(name, value)] := by
  induction fields with
  | nil => rfl
  | cons field rest ih =>
    obtain ⟨key, old⟩ := field
    obtain ⟨hne, hrest⟩ : key ≠ name ∧ name ∉ names rest := by
      simpa [names, eq_comm] using h
    rw [put, if_neg hne, ih hrest]
    rfl

theorem put_of_mem {name : κ} {fields : List (κ × α)} (hdistinct : Distinct fields)
    (h : name ∈ names fields) (value : α) :
    put name value fields =
      fields.map fun field ↦ (field.1, if field.1 = name then value else field.2) := by
  induction fields with
  | nil => exact absurd h (by simp [names])
  | cons field rest ih =>
    obtain ⟨key, old⟩ := field
    obtain ⟨hkey, hrest⟩ := List.nodup_cons.1 hdistinct
    by_cases hname : key = name
    · subst hname
      have hothers : rest.map (fun field ↦ (field.1, if field.1 = key then value else field.2)) =
          rest := by
        refine (List.map_congr_left fun field hfield ↦ ?_).trans (List.map_id rest)
        have hne : field.1 ≠ key := fun heq ↦ hkey (List.mem_map.2 ⟨field, hfield, heq⟩)
        rw [if_neg hne]
        rfl
      rw [put, if_pos rfl, List.map_cons, if_pos rfl, hothers]
    · have hmem : name ∈ names rest := by
        simpa [names, Ne.symm hname] using h
      rw [put, if_neg hname, ih hrest hmem, List.map_cons, if_neg hname]

theorem mem_put {name : κ} {value : α} {fields : List (κ × α)} {field : κ × α}
    (h : field ∈ put name value fields) : field = (name, value) ∨ field ∈ fields := by
  induction fields with
  | nil => exact .inl (List.mem_singleton.1 h)
  | cons first rest ih =>
    obtain ⟨key, old⟩ := first
    rw [put] at h
    split at h
    · rename_i hkey
      rcases List.mem_cons.1 h with rfl | h
      · exact .inl (by rw [hkey])
      · exact .inr (List.mem_cons_of_mem _ h)
    · rcases List.mem_cons.1 h with rfl | h
      · exact .inr (List.mem_cons_self ..)
      · exact (ih h).imp_right (List.mem_cons_of_mem _)

theorem mem_names_put {name : κ} {fields : List (κ × α)} (h : name ∈ names fields) (other : κ)
    (value : α) : name ∈ names (put other value fields) := by
  rw [names_put]
  split
  · exact h
  · exact List.mem_append_left _ h

/-- To set a name to the value that it has changes nothing. -/
theorem put_of_get? {name : κ} {value : α} {fields : List (κ × α)}
    (h : get? name fields = some value) : put name value fields = fields := by
  induction fields with
  | nil => cases h
  | cons field rest ih =>
    obtain ⟨key, old⟩ := field
    rw [get?_cons] at h
    rw [put]
    split at h
    · rename_i hkey
      obtain rfl := Option.some.inj h
      rw [if_pos hkey]
    · rename_i hkey
      rw [if_neg hkey, ih h]

/-- Two names are set in either order if one of them is there. -/
theorem put_comm {name other : κ} (hne : name ≠ other) {fields : List (κ × α)}
    (h : name ∈ names fields) (value later : α) :
    put other later (put name value fields) = put name value (put other later fields) := by
  induction fields with
  | nil => exact absurd h (by simp [names])
  | cons field rest ih =>
    obtain ⟨key, old⟩ := field
    by_cases hkey : key = name
    · subst hkey
      simp [put, hne]
    · have hrest : name ∈ names rest := by
        simpa [names, Ne.symm hkey] using h
      by_cases hother : key = other
      · subst hother
        simp [put, hkey]
      · simp [put, hkey, hother, ih hrest]

theorem erase_cons (name : κ) (field : κ × α) (rest : List (κ × α)) :
    erase name (field :: rest) =
      if field.1 = name then erase name rest else field :: erase name rest := by
  unfold erase
  rw [List.filter_cons]
  by_cases h : field.1 = name <;> simp [h]

/-- To remove a name after it has been set is to remove it. -/
theorem erase_put_self (name : κ) (value : α) (fields : List (κ × α)) :
    erase name (put name value fields) = erase name fields := by
  induction fields with
  | nil => simp [put, erase]
  | cons field rest ih =>
    obtain ⟨key, old⟩ := field
    rw [put]
    split
    · rename_i hkey
      rw [erase_cons, erase_cons, if_pos hkey, if_pos hkey]
    · rw [erase_cons, erase_cons, ih]

/-! ## Setting several fields -/

theorem putAll_cons (fields : List (κ × α)) (field : κ × α) (rest : List (κ × α)) :
    putAll fields (field :: rest) = putAll (put field.1 field.2 fields) rest := rfl

theorem putAll_append (fields first second : List (κ × α)) :
    putAll fields (first ++ second) = putAll (putAll fields first) second :=
  List.foldl_append

theorem overwrite_put {name : κ} {old new : List (κ × α)} (hold : Distinct old)
    (hname : name ∉ names new) (value : α) :
    overwrite (put name value old) new = overwrite old ((name, value) :: new) := by
  have hnone : get? name new = none := (get?_eq_none_iff name new).2 hname
  unfold overwrite
  by_cases h : name ∈ names old
  · have hfields : (put name value old).map
        (fun field ↦ (field.1, (get? field.1 new).getD field.2)) =
          old.map fun field ↦ (field.1, (get? field.1 ((name, value) :: new)).getD field.2) := by
      rw [put_of_mem hold h, List.map_map]
      refine List.map_congr_left fun field _ ↦ ?_
      by_cases hfield : field.1 = name
      · simp [hfield, get?_cons, hnone]
      · simp [hfield, get?_cons, Ne.symm hfield]
    rw [hfields, names_put, if_pos h, List.filter_cons, if_neg (by simpa using h)]
  · have hfields : old.map (fun field ↦ (field.1, (get? field.1 new).getD field.2)) =
        old.map fun field ↦ (field.1, (get? field.1 ((name, value) :: new)).getD field.2) := by
      refine List.map_congr_left fun field hfield ↦ ?_
      have hne : name ≠ field.1 := fun heq ↦ h (List.mem_map.2 ⟨field, hfield, heq.symm⟩)
      rw [get?_cons, if_neg hne]
    have hothers : new.filter (fun field ↦ field.1 ∉ names old ++ [name]) =
        new.filter fun field ↦ field.1 ∉ names old := by
      refine List.filter_congr fun field hfield ↦ ?_
      have hne : field.1 ≠ name := fun heq ↦ hname (List.mem_map.2 ⟨field, hfield, heq⟩)
      simp [hne]
    rw [names_put, if_neg h, put_of_not_mem h, List.map_append, hfields, hothers,
      List.filter_cons, if_pos (by simpa using h)]
    simp [hnone]

/-- To set several names in turn is to write their fields over those that are there. -/
theorem putAll_eq_overwrite {old new : List (κ × α)} (hold : Distinct old) (hnew : Distinct new) :
    putAll old new = overwrite old new := by
  induction new generalizing old with
  | nil => simp [putAll, overwrite]
  | cons field rest ih =>
    obtain ⟨name, value⟩ := field
    obtain ⟨hname, hrest⟩ := List.nodup_cons.1 hnew
    calc
      putAll old ((name, value) :: rest) = putAll (put name value old) rest := rfl
      _ = overwrite (put name value old) rest := ih (hold.put name value) hrest
      _ = overwrite old ((name, value) :: rest) := overwrite_put hold hname value

theorem get?_putAll (name : κ) {old new : List (κ × α)} (hnew : Distinct new) :
    get? name (putAll old new) = (get? name new).or (get? name old) := by
  induction new generalizing old with
  | nil => rfl
  | cons field rest ih =>
    obtain ⟨key, value⟩ := field
    obtain ⟨hkey, hrest⟩ := List.nodup_cons.1 hnew
    have hstep : get? name (putAll old ((key, value) :: rest)) =
        (get? name rest).or (get? name (put key value old)) := ih hrest
    rw [hstep, get?_put, get?_cons]
    by_cases h : key = name
    · subst h
      rw [(get?_eq_none_iff key rest).2 hkey]
      simp
    · simp [h]

theorem get?_putAll_of_not_mem {name : κ} {old new : List (κ × α)} (h : name ∉ names new) :
    get? name (putAll old new) = get? name old := by
  induction new generalizing old with
  | nil => rfl
  | cons field rest ih =>
    obtain ⟨hne, hrest⟩ : field.1 ≠ name ∧ name ∉ names rest := by
      simpa [names, eq_comm] using h
    rw [putAll_cons, ih hrest, get?_put_of_ne hne]

/-- A field that is set, or that is there before, is there after several fields have been set. -/
theorem isSome_get?_putAll {name : κ} {old new : List (κ × α)}
    (h : (get? name new).isSome = true ∨ (get? name old).isSome = true) :
    (get? name (putAll old new)).isSome = true := by
  induction new generalizing old with
  | nil => exact h.resolve_left (by simp)
  | cons field rest ih =>
    obtain ⟨key, value⟩ := field
    rw [putAll_cons]
    apply ih
    rw [get?_cons] at h
    rw [get?_put]
    by_cases hkey : key = name
    · exact .inr (by simp [hkey])
    · rwa [if_neg hkey] at h ⊢

/-- Fields that are set are there. -/
theorem subset_putAll (old : List (κ × α)) {new : List (κ × α)} (hnew : Distinct new) :
    new ⊆ putAll old new := by
  intro field hfield
  apply mem_of_get?
  rw [get?_putAll _ hnew, get?_of_mem hnew hfield]
  rfl

/-! ## Setting again -/

/-- A setting is lost if the name is set once more. -/
theorem putAll_put {name : κ} {fields new : List (κ × α)} (h : name ∈ names fields)
    (hnew : name ∈ names new) (value : α) :
    putAll (put name value fields) new = putAll fields new := by
  induction new generalizing fields with
  | nil => exact absurd hnew (by simp [names])
  | cons field rest ih =>
    obtain ⟨key, later⟩ := field
    rw [putAll_cons, putAll_cons]
    by_cases hkey : name = key
    · subst hkey
      rw [put_put]
    · have hrest : name ∈ names rest := by
        simpa [names, hkey] using hnew
      rw [put_comm hkey h, ih (mem_names_put h key later) hrest]

/-- To set several names again changes nothing, even where one of them is set more than once. -/
theorem putAll_putAll_self (old new : List (κ × α)) :
    putAll (putAll old new) new = putAll old new := by
  induction new generalizing old with
  | nil => rfl
  | cons field rest ih =>
    obtain ⟨name, value⟩ := field
    let first := put name value old
    have hfirst : get? name first = some value := get?_put_self name value old
    have hmem : name ∈ names (putAll first rest) :=
      (get?_isSome_iff _ _).1 (isSome_get?_putAll (.inr (by rw [hfirst]; rfl)))
    calc
      putAll (putAll old ((name, value) :: rest)) ((name, value) :: rest) =
          putAll (put name value (putAll first rest)) rest := rfl
      _ = putAll (putAll first rest) rest := by
        by_cases hname : name ∈ names rest
        · exact putAll_put hmem hname value
        · rw [put_of_get? ((get?_putAll_of_not_mem hname).trans hfirst)]
      _ = putAll old ((name, value) :: rest) := ih first

/-! ## Places -/

/-- The place of a name, which is also the place of its value. -/
def position? (name : κ) (fields : List (κ × α)) : Option Nat :=
  fields.findIdx? fun field ↦ field.1 = name

theorem position?_cons (name : κ) (field : κ × α) (rest : List (κ × α)) :
    position? name (field :: rest) =
      if field.1 = name then some 0 else (position? name rest).map (· + 1) := by
  unfold position?
  rw [List.findIdx?_cons]
  simp

/-- A name without a place has no value. -/
theorem get?_of_position?_eq_none {name : κ} {fields : List (κ × α)}
    (h : position? name fields = none) : get? name fields = none := by
  induction fields with
  | nil => rfl
  | cons field rest ih =>
    rw [position?_cons] at h
    rw [get?_cons]
    split at h
    · cases h
    · rename_i hne
      rw [if_neg hne]
      exact ih (Option.map_eq_none_iff.1 h)

/-- What stands at the place of a name. -/
theorem get?_of_position? {name : κ} {fields : List (κ × α)} {index : Nat}
    (h : position? name fields = some index) :
    ∃ old, get? name fields = some old ∧ (values fields)[index]? = some old := by
  induction fields generalizing index with
  | nil => cases h
  | cons field rest ih =>
    obtain ⟨key, value⟩ := field
    rw [position?_cons] at h
    rw [get?_cons]
    split at h
    · rename_i hkey
      cases h
      exact ⟨value, if_pos hkey, rfl⟩
    · rename_i hne
      obtain ⟨place, hplace, rfl⟩ := Option.map_eq_some_iff.1 h
      obtain ⟨old, hget, hat⟩ := ih hplace
      exact ⟨old, by rw [if_neg hne, hget], by simpa using hat⟩

/-- To set a name is to set the value at its place. -/
theorem values_put {name : κ} {fields : List (κ × α)} {index : Nat}
    (h : position? name fields = some index) (value : α) :
    values (put name value fields) = (values fields).set index value := by
  induction fields generalizing index with
  | nil => cases h
  | cons field rest ih =>
    obtain ⟨key, old⟩ := field
    rw [position?_cons] at h
    rw [put]
    split at h
    · rename_i hkey
      cases h
      rw [if_pos hkey]
      rfl
    · rename_i hne
      obtain ⟨place, hplace, rfl⟩ := Option.map_eq_some_iff.1 h
      rw [if_neg hne, values_cons, ih hplace]
      rfl

/-- To remove a name is to remove the value at its place. -/
theorem values_erase {name : κ} {fields : List (κ × α)} {index : Nat}
    (hdistinct : Distinct fields) (h : position? name fields = some index) :
    values (erase name fields) = (values fields).eraseIdx index := by
  induction fields generalizing index with
  | nil => cases h
  | cons field rest ih =>
    obtain ⟨key, old⟩ := field
    obtain ⟨hkey, hrest⟩ := List.nodup_cons.1 hdistinct
    rw [position?_cons] at h
    split at h
    · rename_i hname
      cases h
      subst hname
      have hothers : erase key rest = rest := by
        refine List.filter_eq_self.2 fun field hfield ↦ ?_
        have hne : field.1 ≠ key := fun heq ↦ hkey (List.mem_map.2 ⟨field, hfield, heq⟩)
        simpa using hne
      rw [erase_cons, if_pos rfl, hothers]
      rfl
    · rename_i hne
      obtain ⟨place, hplace, rfl⟩ := Option.map_eq_some_iff.1 h
      rw [erase_cons, if_neg hne, values_cons, ih hrest hplace]
      rfl

theorem erase_of_position?_eq_none {name : κ} {fields : List (κ × α)}
    (h : position? name fields = none) : erase name fields = fields := by
  have hnone := (get?_eq_none_iff name fields).1 (get?_of_position?_eq_none h)
  refine List.filter_eq_self.2 fun field hfield ↦ ?_
  have hne : field.1 ≠ name := fun heq ↦ hnone (List.mem_map.2 ⟨field, hfield, heq⟩)
  simpa using hne

end

/-! ## Sorting -/

instance (fields : List (String × α)) : Decidable (Increasing fields) :=
  inferInstanceAs (Decidable ((names fields).Pairwise (· < ·)))

/-- A name that is greater than all others has its place at the end. -/
theorem putSorted_of_forall_lt {name : String} {fields : List (String × α)}
    (h : ∀ other ∈ names fields, other < name) (value : α) :
    putSorted name value fields = fields ++ [(name, value)] := by
  induction fields with
  | nil => rfl
  | cons field rest ih =>
    obtain ⟨key, old⟩ := field
    obtain ⟨hkey, hrest⟩ := List.forall_mem_cons.1 h
    have hne : key ≠ name := fun heq ↦ String.lt_irrefl key (heq ▸ hkey)
    have hnlt : ¬name < key := fun hlt ↦ String.lt_irrefl key (String.lt_trans hkey hlt)
    rw [putSorted, if_neg hne, if_neg hnlt, ih hrest]
    rfl

/-- Fields whose names increase are sorted. -/
theorem sorted_of_increasing {fields : List (String × α)} (h : Increasing fields) :
    sorted fields = fields := by
  suffices hfold : ∀ acc : List (String × α), Increasing (acc ++ fields) →
      fields.foldl (fun acc field ↦ putSorted field.1 field.2 acc) acc = acc ++ fields from
    hfold [] h
  clear h
  induction fields with
  | nil => exact fun acc _ ↦ (List.append_nil acc).symm
  | cons field rest ih =>
    intro acc hacc
    have hless : ∀ other ∈ names acc, other < field.1 := by
      unfold Increasing names at hacc
      rw [List.map_append, List.pairwise_append] at hacc
      exact fun other hother ↦ hacc.2.2 other hother field.1 (List.mem_cons_self ..)
    rw [List.append_cons] at hacc
    rw [List.foldl_cons, putSorted_of_forall_lt hless, List.append_cons acc field rest]
    exact ih _ hacc

end DocQuery.Fields
