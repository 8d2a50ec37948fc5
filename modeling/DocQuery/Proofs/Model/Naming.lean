import DocQuery.Model.Naming

/-!
# Kebab Names

The words of a name are not empty, and together they are its letters and numerals in order; each word
has letters only or numerals only.  For an ASCII name the kebab form is therefore words of small letters
and words of digits with hyphens between them, and without the hyphens it is the letters and digits of
the name in lower case.  Such a form is its own kebab form.

Beyond ASCII a lower-case form may hold an accent that is dropped when the form is cleaned again.
-/

namespace DocQuery.Naming

/-! ## Words -/

/-- A character of a name closes the current word, begins the next one, or both, or goes on with it. -/
theorem wordsFrom_cons (word : List Char) (c : Char) (rest : List Char) :
    wordsFrom word (c :: rest) =
      if Text.isAlphanumeric c then
        if word.head?.any fun previous ↦ isBoundary previous c rest.head? then
          word.reverse :: wordsFrom [c] rest
        else wordsFrom (c :: word) rest
      else wordsFrom word [] ++ wordsFrom [] rest := by
  cases word with
  | nil => rw [wordsFrom, wordsFrom]; rfl
  | cons previous before =>
    rw [wordsFrom, wordsFrom]
    rfl

/-- No character that belongs to a word is lost, and none is moved. -/
theorem flatten_wordsFrom (word cs : List Char) :
    (wordsFrom word cs).flatten = word.reverse ++ cs.filter Text.isAlphanumeric := by
  have hclosed (word : List Char) : (wordsFrom word []).flatten = word.reverse := by
    cases word with
    | nil => rfl
    | cons c before => exact List.append_nil _
  induction cs generalizing word with
  | nil => rw [hclosed, List.filter_nil, List.append_nil]
  | cons c rest ih =>
    rw [wordsFrom_cons]
    split
    · rename_i hc
      rw [List.filter_cons_of_pos hc]
      split
      · rw [List.flatten_cons, ih]
        rfl
      · rw [ih, List.reverse_cons, List.append_assoc]
        rfl
    · rename_i hc
      rw [List.filter_cons_of_neg hc, List.flatten_append, hclosed, ih]
      rfl

theorem flatten_words (cs : List Char) : (words cs).flatten = cs.filter Text.isAlphanumeric :=
  flatten_wordsFrom [] cs

/-- Whether a word has letters only or numerals only. -/
def IsOfOneKind (word : List Char) : Prop :=
  (∀ c ∈ word, Text.isAlphabetic c) ∨ ∀ c ∈ word, Text.isNumeric c

theorem IsOfOneKind.reverse {word : List Char} (h : IsOfOneKind word) : IsOfOneKind word.reverse := by
  simpa only [IsOfOneKind, List.mem_reverse] using h

theorem isOfOneKind_singleton {c : Char} (h : Text.isAlphanumeric c) : IsOfOneKind [c] := by
  simpa [IsOfOneKind, Text.isAlphanumeric] using h

/-- A character that does not begin a word is of the kind of the word. -/
theorem IsOfOneKind.cons {word : List Char} {c : Char} {next : Option Char} (h : IsOfOneKind word)
    (hc : Text.isAlphanumeric c) (hgoes : ¬word.head?.any fun previous ↦ isBoundary previous c next) :
    IsOfOneKind (c :: word) := by
  cases word with
  | nil => exact isOfOneKind_singleton hc
  | cons previous before =>
    rw [List.head?_cons, Option.any_some, Bool.not_eq_true] at hgoes
    simp only [isBoundary, Bool.or_eq_false_iff, Bool.and_eq_false_imp] at hgoes
    obtain ⟨⟨⟨-, hnumeric⟩, halphabetic⟩, -⟩ := hgoes
    rw [Text.isAlphanumeric, Bool.or_eq_true] at hc
    rcases h with h | h
    · have hprevious := h previous List.mem_cons_self
      have hletter : Text.isAlphabetic c := hc.resolve_right (by simp [hnumeric hprevious])
      exact .inl (List.forall_mem_cons.2 ⟨hletter, h⟩)
    · have hprevious := h previous List.mem_cons_self
      have hnumeral : Text.isNumeric c := hc.resolve_left (by simp [halphabetic hprevious])
      exact .inr (List.forall_mem_cons.2 ⟨hnumeral, h⟩)

theorem of_mem_wordsFrom {word cs w : List Char} (hword : IsOfOneKind word)
    (hw : w ∈ wordsFrom word cs) : w ≠ [] ∧ IsOfOneKind w := by
  have hclosed {word : List Char} (hword : IsOfOneKind word) (hw : w ∈ wordsFrom word []) :
      w ≠ [] ∧ IsOfOneKind w := by
    cases word with
    | nil => exact absurd hw List.not_mem_nil
    | cons c before =>
      obtain rfl := List.mem_singleton.1 hw
      exact ⟨by simp, hword.reverse⟩
  have hnil : IsOfOneKind [] := .inl (List.forall_mem_nil _)
  induction cs generalizing word with
  | nil => exact hclosed hword hw
  | cons c rest ih =>
    rw [wordsFrom_cons] at hw
    split at hw
    · rename_i hc
      split at hw
      · rename_i hends
        rcases List.mem_cons.1 hw with rfl | hw
        · refine ⟨?_, hword.reverse⟩
          rintro hempty
          rw [List.reverse_eq_nil_iff.1 hempty] at hends
          cases hends
        · exact ih (isOfOneKind_singleton hc) hw
      · rename_i hgoes
        exact ih (hword.cons hc hgoes) hw
    · rcases List.mem_append.1 hw with hw | hw
      · exact hclosed hword hw
      · exact ih hnil hw

theorem of_mem_words {cs w : List Char} (hw : w ∈ words cs) : w ≠ [] ∧ IsOfOneKind w :=
  of_mem_wordsFrom (.inl (List.forall_mem_nil _)) hw

/-! ## ASCII characters -/

/-- What holds of the first 128 characters holds of every ASCII character. -/
@[elab_as_elim]
theorem of_ascii {P : Char → Prop} (c : Char) (hc : c.toNat < 0x80)
    (h : ∀ n < 0x80, P (Char.ofNat n)) : P c :=
  Char.ofNat_toNat c ▸ h c.toNat hc

theorem isAlphabetic_of_ascii {c : Char} (h : c.toNat < 0x80) : Text.isAlphabetic c = c.isAlpha :=
  if_pos h

theorem isNumeric_of_ascii {c : Char} (h : c.toNat < 0x80) : Text.isNumeric c = c.isDigit :=
  if_pos h

theorem lowerFrom_of_ascii (afterCased : Bool) {cs : List Char} (h : ∀ c ∈ cs, c.toNat < 0x80) :
    Text.lowerFrom afterCased cs = cs.map Char.toLower := by
  induction cs generalizing afterCased with
  | nil => rfl
  | cons c rest ih =>
    obtain ⟨hc, hrest⟩ := List.forall_mem_cons.1 h
    have hsigma : c ≠ 'Σ' := by
      rintro rfl
      exact absurd hc (by decide)
    rw [Text.lowerFrom, if_neg hsigma, Text.lowerChar, if_pos hc, ih _ hrest]
    rfl

theorem cleanChar_of_ascii {c : Char} (h : c.toNat < 0x80) :
    cleanChar c = if c = '@' ∨ c = '\'' then [] else if c = '/' then ['-'] else [c] :=
  of_ascii c h (by decide +kernel)

/-- Cleaning an ASCII character makes no letter and no digit, and drops none. -/
theorem filter_cleanChar_of_ascii {c : Char} (h : c.toNat < 0x80) :
    (cleanChar c).filter Text.isAlphanumeric = [c].filter Char.isAlphanum :=
  of_ascii c h (by decide +kernel)

theorem toNat_lt_of_mem_cleanChar {c d : Char} (h : c.toNat < 0x80) (hd : d ∈ cleanChar c) :
    d.toNat < 0x80 := by
  rw [cleanChar_of_ascii h] at hd
  split at hd
  · exact absurd hd List.not_mem_nil
  · split at hd
    · rw [List.mem_singleton.1 hd]
      decide
    · rwa [List.mem_singleton.1 hd]

theorem isLower_toLower {c : Char} (hc : c.toNat < 0x80) : c.isAlpha → c.toLower.isLower :=
  of_ascii c hc (by decide +kernel)

theorem toNat_lt_of_isLower_or_isDigit {c : Char} (h : c.isLower ∨ c.isDigit) : c.toNat < 0x80 := by
  have hlower : c.isLower = (decide (97 ≤ c.toNat) && decide (c.toNat ≤ 122)) := rfl
  have hdigit : c.isDigit = (decide (48 ≤ c.toNat) && decide (c.toNat ≤ 57)) := rfl
  simp only [hlower, hdigit, Bool.and_eq_true, decide_eq_true_eq] at h
  omega

/-- What holds of the small letters and the digits among the first 128 characters holds of every small
letter and every digit. -/
@[elab_as_elim]
theorem of_isLower_or_isDigit {P : Char → Prop} (c : Char) (hc : c.isLower ∨ c.isDigit)
    (h : ∀ n < 0x80, (Char.ofNat n).isLower ∨ (Char.ofNat n).isDigit → P (Char.ofNat n)) : P c := by
  have hlt := toNat_lt_of_isLower_or_isDigit hc
  revert hc
  exact of_ascii c hlt h

section
variable {c : Char} (h : c.isLower ∨ c.isDigit)
include h

theorem cleanChar_eq_self : cleanChar c = [c] :=
  of_isLower_or_isDigit c h (by decide +kernel)

theorem isAlphanumeric_of_isLower_or_isDigit : Text.isAlphanumeric c :=
  of_isLower_or_isDigit c h (by decide +kernel)

theorem toLower_eq_self : c.toLower = c :=
  of_isLower_or_isDigit c h (by decide +kernel)

theorem ne_hyphen : c ≠ '-' :=
  of_isLower_or_isDigit c h (by decide +kernel)

theorem kinds_of_isLower_or_isDigit :
    Text.isUppercase c = false ∧ Text.isAlphabetic c = c.isLower ∧ Text.isNumeric c = !c.isLower :=
  of_isLower_or_isDigit c h (by decide +kernel)

end

theorem isLower_of_isDigit {c : Char} (h : c.isDigit) : c.isLower = false := by
  have hnumeric := isNumeric_of_ascii (toNat_lt_of_isLower_or_isDigit (.inr h))
  rw [h, (kinds_of_isLower_or_isDigit (.inr h)).2.2] at hnumeric
  simpa using hnumeric

/-- No word ends between two small letters, or between two digits. -/
theorem isBoundary_of_isLower_eq {previous c : Char} (hprevious : previous.isLower ∨ previous.isDigit)
    (hc : c.isLower ∨ c.isDigit) (h : previous.isLower = c.isLower) (next : Option Char) :
    isBoundary previous c next = false := by
  obtain ⟨hupper, halphabetic, hnumeric⟩ := kinds_of_isLower_or_isDigit hprevious
  obtain ⟨hupper', halphabetic', hnumeric'⟩ := kinds_of_isLower_or_isDigit hc
  rw [isBoundary, hupper, hupper', halphabetic, halphabetic', hnumeric, hnumeric', h]
  cases c.isLower <;> simp

/-! ## Kebab forms -/

/-- Whether a word has at least one character, and small ASCII letters only or digits only. -/
structure IsKebabWord (word : List Char) : Prop where
  ne_nil : word ≠ []
  kind : (∀ c ∈ word, c.isLower) ∨ ∀ c ∈ word, c.isDigit

/-- Whether a text is words of small ASCII letters and words of digits with hyphens between them; the
empty text has no words. -/
def IsKebab (s : String) : Prop :=
  ∃ ws : List (List Char), (∀ w ∈ ws, IsKebabWord w) ∧ s.toList = ['-'].intercalate ws

namespace IsKebabWord

variable {w : List Char}

theorem isLower_or_isDigit (h : IsKebabWord w) {c : Char} (hc : c ∈ w) : c.isLower ∨ c.isDigit :=
  h.kind.imp (· c hc) (· c hc)

theorem hyphen_not_mem (h : IsKebabWord w) : '-' ∉ w := fun hmem ↦
  ne_hyphen (h.isLower_or_isDigit hmem) rfl

theorem map_toLower (h : IsKebabWord w) : w.map Char.toLower = w :=
  (List.map_congr_left fun _ hc ↦ toLower_eq_self (h.isLower_or_isDigit hc)).trans (List.map_id' w)

end IsKebabWord

/-- Small ASCII letters are not parted, and neither are digits. -/
theorem wordsFrom_append {word w : List Char}
    (h : (∀ c ∈ word ++ w, c.isLower) ∨ ∀ c ∈ word ++ w, c.isDigit) (rest : List Char) :
    wordsFrom word (w ++ rest) = wordsFrom (w.reverse ++ word) rest := by
  induction w generalizing word with
  | nil => rfl
  | cons c w ih =>
    have hc : c.isLower ∨ c.isDigit := h.imp (· c (by simp)) (· c (by simp))
    have hgoes (next : Option Char) :
        (word.head?.any fun previous ↦ isBoundary previous c next) = false := by
      cases word with
      | nil => rfl
      | cons previous before =>
        rcases h with h | h
        · have hprevious := h previous (by simp)
          exact isBoundary_of_isLower_eq (.inl hprevious) hc (hprevious.trans (h c (by simp)).symm) next
        · have hprevious := h previous (by simp)
          have hsame := (isLower_of_isDigit hprevious).trans (isLower_of_isDigit (h c (by simp))).symm
          exact isBoundary_of_isLower_eq (.inr hprevious) hc hsame next
    have hperm {d : Char} : d ∈ c :: word ++ w → d ∈ word ++ c :: w := List.perm_middle.mem_iff.2
    have hrest := h.imp (fun h d hd ↦ h d (hperm hd)) fun h d hd ↦ h d (hperm hd)
    rw [List.cons_append, wordsFrom_cons, if_pos (isAlphanumeric_of_isLower_or_isDigit hc), hgoes,
      if_neg Bool.false_ne_true, ih hrest, List.reverse_cons, List.append_assoc]
    rfl

/-- The words of a kebab form are the words that it joins. -/
theorem words_intercalate {ws : List (List Char)} (h : ∀ w ∈ ws, IsKebabWord w) :
    words (['-'].intercalate ws) = ws := by
  induction ws with
  | nil => rfl
  | cons w rest ih =>
    obtain ⟨hw, hrest⟩ := List.forall_mem_cons.1 h
    have hopen (after : List Char) : words (w ++ after) = wordsFrom w.reverse after := by
      rw [words, wordsFrom_append hw.kind, List.append_nil]
    have hclosed : wordsFrom w.reverse [] = [w] := by
      rw [wordsFrom, List.isEmpty_reverse, if_neg (by simpa using hw.ne_nil), List.reverse_reverse]
    cases rest with
    | nil =>
      rw [List.intercalate_singleton]
      have hword := hopen []
      rwa [List.append_nil, hclosed] at hword
    | cons next others =>
      have hhyphen : ¬Text.isAlphanumeric '-' := by decide
      rw [List.intercalate_cons_cons, List.append_assoc, hopen, List.singleton_append, wordsFrom_cons,
        if_neg hhyphen, hclosed]
      exact congrArg (w :: ·) (ih hrest)

theorem mem_intercalate {c : Char} {ws : List (List Char)} (h : c ∈ ['-'].intercalate ws) :
    c = '-' ∨ ∃ w ∈ ws, c ∈ w := by
  induction ws with
  | nil => exact absurd h List.not_mem_nil
  | cons w rest ih =>
    cases rest with
    | nil => exact .inr ⟨w, List.mem_cons_self, by simpa using h⟩
    | cons next others =>
      rw [List.intercalate_cons_cons, List.mem_append, List.mem_append, List.mem_singleton] at h
      rcases h with (h | h) | h
      · exact .inr ⟨w, List.mem_cons_self, h⟩
      · exact .inl h
      · exact (ih h).imp_right fun ⟨v, hv, hc⟩ ↦ ⟨v, List.mem_cons_of_mem _ hv, hc⟩

theorem filter_intercalate {ws : List (List Char)} (h : ∀ w ∈ ws, '-' ∉ w) :
    (['-'].intercalate ws).filter (· ≠ '-') = ws.flatten := by
  induction ws with
  | nil => rfl
  | cons w rest ih =>
    obtain ⟨hw, hrest⟩ := List.forall_mem_cons.1 h
    have hkeep : w.filter (· ≠ '-') = w := List.filter_eq_self.2 fun c hc ↦ by
      simpa using fun heq : c = '-' ↦ hw (heq ▸ hc)
    cases rest with
    | nil => rw [List.intercalate_singleton, hkeep, List.flatten_singleton]
    | cons next others =>
      rw [List.intercalate_cons_cons, List.filter_append, List.filter_append, hkeep, ih hrest]
      simp

theorem toList_kebab (name : String) : (kebab name).toList =
    ['-'].intercalate ((words (clean name)).map fun w ↦ Text.lowerFrom false w) := by
  have hhyphen : "-".toList = ['-'] := rfl
  rw [kebab, String.toList_intercalate, List.map_map, hhyphen]
  refine congrArg _ (List.map_congr_left fun w _ ↦ ?_)
  rw [Function.comp_apply, Text.lower, String.toList_ofList, String.toList_ofList]

/-- A form that is there already has nothing to clean. -/
theorem IsKebab.clean_eq {s : String} (h : IsKebab s) : clean s = s.toList := by
  obtain ⟨ws, hws, hs⟩ := h
  have hclean : ∀ c ∈ s.toList, cleanChar c = [c] := by
    intro c hc
    rcases mem_intercalate (hs ▸ hc) with rfl | ⟨w, hw, hc⟩
    · decide
    · exact cleanChar_eq_self ((hws w hw).isLower_or_isDigit hc)
  rw [clean, List.flatMap_def, List.map_congr_left hclean, ← List.flatMap_def]
  exact List.flatMap_singleton' s.toList

theorem IsKebab.kebab_eq {s : String} (h : IsKebab s) : kebab s = s := by
  have hclean := h.clean_eq
  obtain ⟨ws, hws, hs⟩ := h
  have hlower : ∀ w ∈ ws, Text.lowerFrom false w = w := fun w hw ↦ by
    rw [lowerFrom_of_ascii false fun c hc ↦
      toNat_lt_of_isLower_or_isDigit ((hws w hw).isLower_or_isDigit hc), (hws w hw).map_toLower]
  rw [← String.toList_inj, toList_kebab, hclean, hs, words_intercalate hws,
    List.map_congr_left hlower, List.map_id']

section
variable {name : String} (hascii : ∀ c ∈ name.toList, c.toNat < 0x80)
include hascii

theorem filter_clean_of_ascii :
    (clean name).filter Text.isAlphanumeric = name.toList.filter Char.isAlphanum := by
  rw [clean, List.filter_flatMap]
  revert hascii
  induction name.toList with
  | nil => exact fun _ ↦ rfl
  | cons c rest ih =>
    intro hascii
    obtain ⟨hc, hrest⟩ := List.forall_mem_cons.1 hascii
    rw [List.flatMap_cons, filter_cleanChar_of_ascii hc, ih hrest, ← List.filter_append]
    rfl

theorem toNat_lt_of_mem_words {w : List Char} (hw : w ∈ words (clean name)) :
    ∀ c ∈ w, c.toNat < 0x80 := by
  intro c hc
  have hmem := List.mem_flatten_of_mem hw hc
  rw [flatten_words] at hmem
  obtain ⟨d, hd, hcd⟩ := List.mem_flatMap.1 (List.mem_filter.1 hmem).1
  exact toNat_lt_of_mem_cleanChar (hascii d hd) hcd

theorem isKebabWord_of_mem_words {w : List Char} (hw : w ∈ words (clean name)) :
    IsKebabWord (w.map Char.toLower) := by
  have hlt := toNat_lt_of_mem_words hascii hw
  obtain ⟨hne, hkind⟩ := of_mem_words hw
  refine ⟨by simpa using hne, hkind.imp (fun h ↦ ?_) fun h ↦ ?_⟩
  · refine List.forall_mem_map.2 fun c hc ↦ isLower_toLower (hlt c hc) ?_
    exact isAlphabetic_of_ascii (hlt c hc) ▸ h c hc
  · refine List.forall_mem_map.2 fun c hc ↦ ?_
    have hdigit : c.isDigit := isNumeric_of_ascii (hlt c hc) ▸ h c hc
    rwa [toLower_eq_self (.inr hdigit)]

theorem toList_kebab_of_ascii : (kebab name).toList =
    ['-'].intercalate ((words (clean name)).map fun w ↦ w.map Char.toLower) := by
  rw [toList_kebab]
  exact congrArg _ <| List.map_congr_left fun w hw ↦
    lowerFrom_of_ascii false (toNat_lt_of_mem_words hascii hw)

theorem isKebab_kebab : IsKebab (kebab name) :=
  ⟨_, List.forall_mem_map.2 fun _ hw ↦ isKebabWord_of_mem_words hascii hw,
    toList_kebab_of_ascii hascii⟩

theorem filter_kebab : (kebab name).toList.filter (· ≠ '-') =
    (name.toList.filter Char.isAlphanum).map Char.toLower := by
  have hwords : ∀ w ∈ (words (clean name)).map fun w ↦ w.map Char.toLower, '-' ∉ w :=
    List.forall_mem_map.2 fun _ hw ↦ (isKebabWord_of_mem_words hascii hw).hyphen_not_mem
  rw [toList_kebab_of_ascii hascii, filter_intercalate hwords, ← List.map_flatten, flatten_words,
    filter_clean_of_ascii hascii]

end

/-- The words of a name lose no letter and no numeral.  The kebab form of an ASCII name is words of small
letters and words of digits, which are the letters and digits of the name in lower case; every such form
is its own kebab form, so that the kebab form of a kebab form is itself. -/
theorem kebab_canonical (name : String) :
    (∀ w ∈ words (clean name), w ≠ []) ∧
      (words (clean name)).flatten = (clean name).filter Text.isAlphanumeric ∧
      ((∀ c ∈ name.toList, c.toNat < 0x80) →
        IsKebab (kebab name) ∧
          (kebab name).toList.filter (· ≠ '-') =
            (name.toList.filter Char.isAlphanum).map Char.toLower ∧
          kebab (kebab name) = kebab name) ∧
      (IsKebab name → kebab name = name) :=
  ⟨fun _ hw ↦ (of_mem_words hw).1, flatten_words _,
    fun hascii ↦ ⟨isKebab_kebab hascii, filter_kebab hascii, (isKebab_kebab hascii).kebab_eq⟩,
    IsKebab.kebab_eq⟩

theorem kebab_canonical_scoped :
    IsKebab (kebab "@my-scope/HTMLParser2") ∧
      kebab (kebab "@my-scope/HTMLParser2") = kebab "@my-scope/HTMLParser2" ∧
      kebab (kebab "@my-scope/HTMLParser2") = "my-scope-html-parser-2" :=
  have hascii : ("@my-scope/HTMLParser2".toList.all fun c ↦ c.toNat < 0x80) = true := by decide
  have h := (kebab_canonical "@my-scope/HTMLParser2").2.2.1
    fun c hc ↦ of_decide_eq_true (List.all_eq_true.1 hascii c hc)
  ⟨h.1, h.2.2, h.2.2.trans (by decide +kernel)⟩

/-- Beyond ASCII a kebab form need not be its own. -/
example : kebab "İ" = "i\u0307" ∧ kebab "i\u0307" = "i" := by decide +kernel

end DocQuery.Naming
