import DocQuery.Json.Reading

/-!
# Numerals Read Back

The text of a numeral is its sign, the digits of its whole part, and what is written of its fraction and
its exponent.  Every numeral is read back from its text, whatever follows the text, as long as the
numeral does not go on there.

Zero is the only number whose digits begin with a zero, so no whole part is refused.
-/

namespace DocQuery

/-! ## Digits -/

namespace Text

theorem paddedDigits_one (n : Nat) : paddedDigits 1 n = Nat.toDigits 10 n := by
  have hpos : 0 < (Nat.toDigits 10 n).length := Nat.length_toDigits_pos
  have hzero : 1 - (Nat.toDigits 10 n).length = 0 := by omega
  unfold paddedDigits
  dsimp only
  rw [hzero]
  rfl

theorem digitsValue_toDigits (n : Nat) : digitsValue (Nat.toDigits 10 n) = n := by
  have hvalue : digitsValue (Nat.toDigits 10 n) = Nat.ofDigitChars 10 (Nat.toDigits 10 n) 0 := by
    rw [Nat.ofDigitChars_eq_foldl]
    rfl
  rw [hvalue, Nat.ofDigitChars_ten_toDigits]

theorem isDigit_of_mem_toDigits {n : Nat} {c : Char} (h : c ∈ Nat.toDigits 10 n) :
    c.isDigit = true :=
  Nat.isDigit_of_mem_toDigits (by decide) (by decide) h

theorem eq_zero_of_head?_toDigits {n : Nat} (h : (Nat.toDigits 10 n).head? = some '0') : n = 0 := by
  induction n using Nat.strongRecOn with
  | _ n ih =>
    by_cases hlt : n < 10
    · rw [Nat.toDigits_of_lt_base hlt] at h
      exact Nat.digitChar_eq_zero.1 (Option.some.inj h)
    · have hne : Nat.toDigits 10 (n / 10) ≠ [] := Nat.toDigits_ne_nil
      rw [Nat.toDigits_of_base_le (by decide) (by omega), List.head?_append,
        Option.or_of_isSome (List.isSome_head?.2 hne)] at h
      have hzero := ih (n / 10) (by omega) h
      omega

end Text

namespace Numeral

theorem isDigit_digitChar (d : Fin 10) : (digitChar d).isDigit = true := by
  revert d
  decide

theorem digitOf_digitChar (d : Fin 10) : digitOf (digitChar d) = d := by
  revert d
  decide

/-! ## The parts of a text -/

/-- What is written of a sign. -/
def signChars (negative : Bool) : List Char := if negative then ['-'] else []

/-- What is written of fraction digits. -/
def fractionChars : List (Fin 10) → List Char
  | [] => []
  | digits => '.' :: digits.map digitChar

/-- What is written of an exponent. -/
def exponentChars : Option Int → List Char
  | none => []
  | some e => 'e' :: (if e < 0 then '-' else '+') :: Nat.toDigits 10 e.natAbs

theorem toList_text (n : Numeral) :
    n.text.toList = signChars n.negative ++
      (Nat.toDigits 10 n.whole ++ (fractionChars n.fraction ++ exponentChars n.exponent)) := by
  obtain ⟨negative, whole, fraction, exponent⟩ := n
  have hpadded (k : Nat) : (Text.padded 1 k).toList = Nat.toDigits 10 k := by
    rw [Text.padded, String.toList_ofList, Text.paddedDigits_one]
  have hsign : (if negative then "-" else "").toList = signChars negative := by
    cases negative <;> rfl
  have hfraction : (if fraction.isEmpty then ""
      else "." ++ String.ofList (fraction.map digitChar)).toList = fractionChars fraction := by
    cases fraction with
    | nil => rfl
    | cons d rest => simp [fractionChars]
  cases exponent with
  | none =>
    simp only [text, String.toList_append, hsign, hpadded, hfraction, exponentChars,
      List.append_assoc]
    rfl
  | some e =>
    have hmark : (if e < 0 then "e-" else "e+").toList = ['e', if e < 0 then '-' else '+'] := by
      split <;> rfl
    simp only [text, String.toList_append, hsign, hpadded, hfraction, hmark, exponentChars,
      List.append_assoc]
    rfl

/-- The text of a numeral begins with its sign or with a digit. -/
theorem exists_head_text (n : Numeral) :
    ∃ c tail, n.text.toList = c :: tail ∧ (c = '-' ∨ c.isDigit = true) := by
  rw [toList_text]
  cases n.negative with
  | true => exact ⟨'-', _, rfl, .inl rfl⟩
  | false =>
    cases hdigits : Nat.toDigits 10 n.whole with
    | nil => exact absurd hdigits Nat.toDigits_ne_nil
    | cons c tail =>
      have hmem : c ∈ Nat.toDigits 10 n.whole := by simp [hdigits]
      exact ⟨c, _, rfl, .inr (Text.isDigit_of_mem_toDigits hmem)⟩

end Numeral

/-! ## Reading -/

namespace Json

/-- Whether a text does not begin with one of certain characters. -/
def Avoids (stops : Char → Bool) (rest : List Char) : Prop := ∀ c ∈ rest.head?, stops c = false

/-- The characters with which a numeral can go on. -/
def isNumeralChar (c : Char) : Bool := c.isDigit || c = '.' || c = 'e' || c = 'E'

theorem Avoids.mono {stops : Char → Bool} {rest : List Char} (others : Char → Bool)
    (h : ∀ c, others c = true → stops c = true) (hrest : Avoids stops rest) :
    Avoids others rest := by
  intro c hc
  have hstops := hrest c hc
  cases hothers : others c with
  | false => rfl
  | true =>
    rw [h c hothers] at hstops
    exact hstops

theorem readDigits_append {digits rest : List Char} (hdigits : ∀ c ∈ digits, c.isDigit = true)
    (hne : digits ≠ []) (hrest : Avoids Char.isDigit rest) :
    readDigits (digits ++ rest) = some (digits, rest) := by
  have htake : (digits ++ rest).takeWhile Char.isDigit = digits := by
    rw [List.takeWhile_append_of_pos hdigits]
    cases rest with
    | nil => rw [List.takeWhile_nil, List.append_nil]
    | cons c tail =>
      have hc : c.isDigit = false := hrest c rfl
      rw [List.takeWhile_cons_of_neg (by rw [hc]; exact Bool.false_ne_true), List.append_nil]
  unfold readDigits
  dsimp only
  rw [htake, if_neg (by simpa using hne), List.drop_left]

theorem readDigits_toDigits (n : Nat) {rest : List Char} (hrest : Avoids Char.isDigit rest) :
    readDigits (Nat.toDigits 10 n ++ rest) = some (Nat.toDigits 10 n, rest) :=
  readDigits_append (fun _ ↦ Text.isDigit_of_mem_toDigits) Nat.toDigits_ne_nil hrest

theorem readFraction_append (fraction : List (Fin 10)) {rest : List Char}
    (hrest : Avoids (fun c ↦ c.isDigit || c = '.') rest) :
    readFraction (Numeral.fractionChars fraction ++ rest) = some (fraction, rest) := by
  cases fraction with
  | nil =>
    cases rest with
    | nil => rfl
    | cons c tail =>
      have hc : c ≠ '.' := by
        have hstop := hrest c rfl
        intro heq
        simp [heq] at hstop
      simp [Numeral.fractionChars, readFraction, hc]
  | cons d digits =>
    have hdigits : ∀ c ∈ (d :: digits).map Numeral.digitChar, c.isDigit = true := by
      intro c hc
      obtain ⟨e, -, rfl⟩ := List.mem_map.1 hc
      exact Numeral.isDigit_digitChar e
    have hread := readDigits_append hdigits (by simp)
      (hrest.mono Char.isDigit fun c hc ↦ by simp [hc])
    have hback : ((d :: digits).map Numeral.digitChar).map Numeral.digitOf = d :: digits := by
      rw [List.map_map]
      exact List.map_id'' Numeral.digitOf_digitChar _
    change (readDigits ((d :: digits).map Numeral.digitChar ++ rest)).map
      (fun read ↦ (read.1.map Numeral.digitOf, read.2)) = _
    rw [hread, Option.map_some, hback]

theorem readExponent_append (exponent : Option Int) {rest : List Char}
    (hrest : Avoids (fun c ↦ c.isDigit || c = 'e' || c = 'E') rest) :
    readExponent (Numeral.exponentChars exponent ++ rest) = some (exponent, rest) := by
  cases exponent with
  | none =>
    cases rest with
    | nil => rfl
    | cons c tail =>
      have hc : ¬(c = 'e' ∨ c = 'E') := by
        have hstop := hrest c rfl
        rintro (rfl | rfl) <;> exact absurd hstop (by decide)
      simp [Numeral.exponentChars, readExponent, hc]
  | some e =>
    have hread := readDigits_toDigits e.natAbs
      (hrest.mono Char.isDigit fun c hc ↦ by simp [hc])
    by_cases he : e < 0
    · have hvalue : -(Text.digitsValue (Nat.toDigits 10 e.natAbs) : Int) = e := by
        rw [Text.digitsValue_toDigits]
        omega
      simp [Numeral.exponentChars, readExponent, he, hread, hvalue]
    · have hvalue : (Text.digitsValue (Nat.toDigits 10 e.natAbs) : Int) = e := by
        rw [Text.digitsValue_toDigits]
        omega
      simp [Numeral.exponentChars, readExponent, he, hread, hvalue]

theorem avoids_cons {stops : Char → Bool} {c : Char} (h : stops c = false) (rest : List Char) :
    Avoids stops (c :: rest) := by
  intro first hfirst
  obtain rfl := Option.some.inj hfirst
  exact h

theorem avoids_append {stops : Char → Bool} {cs rest : List Char} (hcs : Avoids stops cs)
    (hrest : Avoids stops rest) : Avoids stops (cs ++ rest) := by
  cases cs with
  | nil => exact hrest
  | cons c tail => exact hcs

theorem readUnsigned_text (n : Numeral) {rest : List Char} (hrest : Avoids isNumeralChar rest) :
    readUnsigned n.negative (Nat.toDigits 10 n.whole ++ (Numeral.fractionChars n.fraction ++
      (Numeral.exponentChars n.exponent ++ rest))) = some (n, rest) := by
  -- What follows a part does not go on with it: the exponent begins with a letter, the fraction
  -- with a point.
  have hexponent : Avoids (fun c ↦ c.isDigit || c = '.')
      (Numeral.exponentChars n.exponent ++ rest) := by
    apply avoids_append
    · cases n.exponent with
      | none => exact fun c hc ↦ by cases hc
      | some e => exact avoids_cons rfl _
    · exact hrest.mono _ fun c hc ↦ by grind [isNumeralChar]
  have hfraction : Avoids Char.isDigit (Numeral.fractionChars n.fraction ++
      (Numeral.exponentChars n.exponent ++ rest)) := by
    apply avoids_append
    · cases n.fraction with
      | nil => exact fun c hc ↦ by cases hc
      | cons d digits => exact avoids_cons rfl _
    · exact hexponent.mono _ fun c hc ↦ by simp [hc]
  have hzero : ¬((Nat.toDigits 10 n.whole).head? = some '0' ∧ (Nat.toDigits 10 n.whole).length ≠ 1) := by
    rintro ⟨hhead, hlength⟩
    rw [Text.eq_zero_of_head?_toDigits hhead] at hlength
    exact hlength rfl
  unfold readUnsigned
  rw [readDigits_toDigits n.whole hfraction]
  simp only [Option.bind_eq_bind, Option.bind_some, if_neg hzero]
  rw [readFraction_append n.fraction hexponent]
  simp only [Option.bind_some]
  rw [readExponent_append n.exponent
    (hrest.mono _ fun c hc ↦ by grind [isNumeralChar])]
  simp only [Option.bind_some, Text.digitsValue_toDigits]
  rfl

theorem readNumeral_of_ne {c : Char} (h : c ≠ '-') (tail : List Char) :
    readNumeral (c :: tail) = readUnsigned false (c :: tail) := by
  unfold readNumeral
  split
  · rename_i heq
    exact absurd (List.cons.inj heq).1 h
  · rfl

/-- Every numeral is read back where it does not go on. -/
theorem readNumeral_text (n : Numeral) {rest : List Char} (hrest : Avoids isNumeralChar rest) :
    readNumeral (n.text.toList ++ rest) = some (n, rest) := by
  have hunsigned := readUnsigned_text n hrest
  rw [Numeral.toList_text, List.append_assoc, List.append_assoc, List.append_assoc]
  cases hnegative : n.negative with
  | true =>
    rw [hnegative] at hunsigned
    exact hunsigned
  | false =>
    rw [hnegative] at hunsigned
    -- The first character is a digit and no sign.
    cases hdigits : Nat.toDigits 10 n.whole with
    | nil => exact absurd hdigits Nat.toDigits_ne_nil
    | cons c tail =>
      have hmem : c ∈ Nat.toDigits 10 n.whole := by simp [hdigits]
      have hminus : c ≠ '-' := by
        rintro rfl
        exact absurd (Text.isDigit_of_mem_toDigits hmem) (by decide)
      rw [hdigits] at hunsigned
      exact (readNumeral_of_ne hminus _).trans hunsigned

end Json

end DocQuery
