import DocQuery.Json.Writing
import DocQuery.Proofs.Json.Numeral
import DocQuery.Proofs.Json.Parts

/-!
# JSON Texts Read Back

Every sound JSON tree is read back from its text.

The statement about values allows for any text that can follow a value and for any number of nested
calls that is at least twice the length of the value's own text; so it passes from the parts of an array
or an object to the whole.  Nothing is asked of the numbers but that they are numerals, and nothing of
the strings at all: a character that is written with four digits stands below the surrogates, and no
unit of it is taken for half of a pair.
-/

namespace DocQuery.Json

/-! ## Strings -/

/-- Whether a character is written with four hexadecimal digits. -/
def isNumbered (c : Char) : Bool :=
  c.toNat < 0x20 && !(['\x08', '\x0c', '\n', '\r', '\t'].contains c)

/-- What a written character is read as. -/
def pieceOf (c : Char) : Piece := if isNumbered c then .unit c.toNat else .char c

theorem hexDigitValue?_hexDigit (n : Nat) : Text.hexDigitValue? (hexDigit n) = some (n % 16) := by
  have hall : ∀ d : Fin 16, Text.hexDigitValue? (Nat.digitChar d) = some d.val := by decide
  exact hall ⟨n % 16, Nat.mod_lt n (by decide)⟩

theorem unit?_hexDigit {n : Nat} (h : n < 0x20) :
    unit? '0' '0' (hexDigit (n / 16)) (hexDigit n) = some n := by
  have hzero : Text.hexDigitValue? '0' = some 0 := by decide
  have hvalue : 16 * (n / 16 % 16) + n % 16 = n := by omega
  simp [unit?, Text.hexDigitsValue?, hzero, hexDigitValue?_hexDigit, hvalue]

theorem readPieces_letter {e c : Char} (he : e ≠ 'u') (hc : escaped? e = some c) (rest : List Char) :
    readPieces ('\\' :: e :: rest) =
      (readPieces rest).map fun read ↦ (.char c :: read.1, read.2) := by
  rw [readPieces, hc]
  · cases readPieces rest <;> rfl
  · intro a b c d tail h
    exact absurd h he

theorem readPieces_unit {a b c d : Char} {code : Nat} (h : unit? a b c d = some code)
    (rest : List Char) :
    readPieces ('\\' :: 'u' :: a :: b :: c :: d :: rest) =
      (readPieces rest).map fun read ↦ (.unit code :: read.1, read.2) := by
  rw [readPieces, h]
  cases readPieces rest <;> rfl

theorem readPieces_plain {c : Char} (hquote : c ≠ '"') (hslash : c ≠ '\\') (hlow : ¬c.toNat < 0x20)
    (rest : List Char) :
    readPieces (c :: rest) = (readPieces rest).map fun read ↦ (.char c :: read.1, read.2) := by
  have hplain : ¬(c = '\\' ∨ c.toNat < 0x20) := not_or.2 ⟨hslash, hlow⟩
  rw [readPieces, if_neg hplain]
  · cases readPieces rest <;> rfl
  · exact hquote
  · intro a b c d tail h
    exact absurd h hslash
  · intro e tail h
    exact absurd h hslash

theorem readPieces_escapeChar (c : Char) (rest : List Char) :
    readPieces (escapeChar c ++ rest) =
      (readPieces rest).map fun read ↦ (pieceOf c :: read.1, read.2) := by
  by_cases hletter : c ∈ ['"', '\\', '\x08', '\x0c', '\n', '\r', '\t']
  · simp only [List.mem_cons, List.not_mem_nil, or_false] at hletter
    rcases hletter with rfl | rfl | rfl | rfl | rfl | rfl | rfl <;>
      exact readPieces_letter (by decide) rfl rest
  · simp only [List.mem_cons, List.not_mem_nil, or_false, not_or] at hletter
    obtain ⟨hquote, hslash, hb, hf, hn, hr, ht⟩ := hletter
    by_cases hlow : c.toNat < 0x20
    · have hescape : escapeChar c =
          ['\\', 'u', '0', '0', hexDigit (c.toNat / 16), hexDigit c.toNat] := by
        simp only [escapeChar, hquote, hslash, hb, hf, hn, hr, ht, if_false, if_pos hlow]
      have hpiece : pieceOf c = .unit c.toNat := by
        simp [pieceOf, isNumbered, hlow, hb, hf, hn, hr, ht]
      rw [hescape, hpiece]
      exact readPieces_unit (unit?_hexDigit hlow) rest
    · have hescape : escapeChar c = [c] := by
        simp only [escapeChar, hquote, hslash, hb, hf, hn, hr, ht, if_false, if_neg hlow]
      have hpiece : pieceOf c = .char c := by
        simp [pieceOf, isNumbered, hlow]
      rw [hescape, hpiece]
      exact readPieces_plain hquote hslash hlow rest

theorem readPieces_flatMap (cs rest : List Char) :
    readPieces (cs.flatMap escapeChar ++ '"' :: rest) = some (cs.map pieceOf, rest) := by
  induction cs with
  | nil => rw [List.flatMap_nil, List.nil_append, readPieces, List.map_nil]
  | cons c cs ih =>
    rw [List.flatMap_cons, List.append_assoc, readPieces_escapeChar, ih]
    rfl

/-- A unit that is no half of a pair stands for its character. -/
theorem joinPieces_unit {code : Nat} (h : code < 0xD800) (pieces : List Piece) :
    joinPieces (.unit code :: pieces) = (joinPieces pieces).map (Char.ofNat code :: ·) := by
  have hhigh : isHighHalf code = false := by
    simp [isHighHalf]
    omega
  have hlow : isLowHalf code = false := by
    simp [isLowHalf]
    omega
  cases pieces with
  | nil => simp [joinPieces, hhigh, hlow]
  | cons piece rest =>
    cases piece with
    | char c => simp [joinPieces, hhigh, hlow]
    | unit low => simp [joinPieces, hhigh, hlow]

theorem joinPieces_pieceOf (c : Char) (pieces : List Piece) :
    joinPieces (pieceOf c :: pieces) = (joinPieces pieces).map (c :: ·) := by
  unfold pieceOf
  split
  · rename_i hnumbered
    have hlow : c.toNat < 0x20 := by
      simp [isNumbered] at hnumbered
      omega
    rw [joinPieces_unit (by omega), Char.ofNat_toNat]
  · rw [joinPieces]

theorem joinPieces_map (cs : List Char) : joinPieces (cs.map pieceOf) = some cs := by
  induction cs with
  | nil => rw [List.map_nil, joinPieces]
  | cons c cs ih =>
    rw [List.map_cons, joinPieces_pieceOf, ih]
    rfl

theorem toList_quote (s : String) :
    (quote s).toList = '"' :: (s.toList.flatMap escapeChar ++ ['"']) := by
  rw [quote, String.toList_ofList]

/-- Every string is read back, whatever follows it. -/
theorem readString_escaped (s : String) (rest : List Char) :
    readString (s.toList.flatMap escapeChar ++ '"' :: rest) = some (some s, rest) := by
  rw [readString, readPieces_flatMap]
  simp only [Option.map_some, joinPieces_map, String.ofList_toList]

/-! ## Written values -/

theorem toList_text_array (items : List Json) :
    (array items).text.toList = '[' :: ((itemsText items).toList ++ [']']) := by
  rw [text, String.toList_append, String.toList_append]
  rfl

theorem toList_text_object (members : List (String × Json)) :
    (object members).text.toList = '\x7b' :: ((membersText members).toList ++ ['\x7d']) := by
  rw [text, String.toList_append, String.toList_append]
  rfl

theorem toList_itemsText_cons (item next : Json) (rest : List Json) :
    (itemsText (item :: next :: rest)).toList =
      item.text.toList ++ ',' :: (itemsText (next :: rest)).toList := by
  rw [itemsText, String.toList_append, String.toList_append, List.append_assoc]
  · rfl
  · simp

theorem toList_membersText_singleton (name : String) (item : Json) :
    (membersText [(name, item)]).toList = (quote name).toList ++ ':' :: item.text.toList := by
  rw [membersText, String.toList_append, String.toList_append, List.append_assoc]
  rfl

theorem toList_membersText_cons (name : String) (item : Json) (next : String × Json)
    (rest : List (String × Json)) :
    (membersText ((name, item) :: next :: rest)).toList =
      (quote name).toList ++ ':' :: (item.text.toList ++ ',' :: (membersText (next :: rest)).toList) := by
  rw [membersText]
  · simp only [String.toList_append, List.append_assoc]
    rfl
  · simp

/-- A written value begins with no blank and with no closing bracket. -/
theorem exists_head_text (t : Json) :
    ∃ c tail, t.text.toList = c :: tail ∧ (isSpace c || c = ']') = false := by
  cases t with
  | bool b => cases b <;> exact ⟨_, _, rfl, rfl⟩
  | number n =>
    obtain ⟨c, tail, htext, hc⟩ := n.exists_head_text
    refine ⟨c, tail, htext, ?_⟩
    rcases hc with rfl | hdigit
    · rfl
    · have hne (d : Char) (hd : d.isDigit = false) : c ≠ d := by
        rintro rfl
        rw [hdigit] at hd
        cases hd
      simp [isSpace, hne ' ' rfl, hne '\t' rfl, hne '\n' rfl, hne '\r' rfl, hne ']' rfl]
  | string s => exact ⟨_, _, toList_quote s, rfl⟩
  | array items => exact ⟨_, _, toList_text_array items, rfl⟩
  | object members => exact ⟨_, _, toList_text_object members, rfl⟩
  | _ => exact ⟨_, _, rfl, rfl⟩

theorem avoids_text (t : Json) (rest : List Char) :
    Avoids (fun c ↦ isSpace c || c = ']') (t.text.toList ++ rest) := by
  obtain ⟨c, tail, htext, hc⟩ := t.exists_head_text
  rw [htext]
  exact avoids_cons hc _

theorem avoids_itemsText {items : List Json} (hne : items ≠ []) (rest : List Char) :
    Avoids (fun c ↦ isSpace c || c = ']') ((itemsText items).toList ++ rest) := by
  cases items with
  | nil => exact absurd rfl hne
  | cons item others =>
    cases others with
    | nil => exact avoids_text item rest
    | cons next others =>
      rw [toList_itemsText_cons, List.append_assoc]
      exact avoids_text item _

/-- Written members begin with the quote of a name. -/
theorem exists_head_membersText {members : List (String × Json)} (hne : members ≠ []) :
    ∃ tail, (membersText members).toList = '"' :: tail := by
  cases members with
  | nil => exact absurd rfl hne
  | cons member others =>
    obtain ⟨name, item⟩ := member
    cases others with
    | nil => exact ⟨_, by rw [toList_membersText_singleton, toList_quote]; rfl⟩
    | cons next others => exact ⟨_, by rw [toList_membersText_cons, toList_quote]; rfl⟩

/-- What can stand between values: a comma or a closing bracket does not go on with a numeral. -/
theorem avoids_isNumeralChar {c : Char} (h : c = ',' ∨ c = ']' ∨ c = '\x7d') (rest : List Char) :
    Avoids isNumeralChar (c :: rest) := by
  rcases h with rfl | rfl | rfl <;> exact avoids_cons rfl rest

theorem Avoids.isSpace {rest : List Char} (h : Avoids (fun c ↦ isSpace c || c = ']') rest) :
    Avoids Json.isSpace rest :=
  h.mono Json.isSpace fun c hc ↦ by simp [hc]

theorem skipSpace_of_avoids {cs : List Char} (h : Avoids isSpace cs) : skipSpace cs = cs := by
  cases cs with
  | nil => rfl
  | cons c tail =>
    have hc : isSpace c = false := h c rfl
    exact List.dropWhile_cons_of_neg (by rw [hc]; exact Bool.false_ne_true)

/-! ## Reading values -/

theorem ofMembers_map (members : List (String × Json)) :
    ofMembers (members.map fun member ↦ (some member.1, member.2)) = object members := by
  have hread : (members.map fun member ↦ (some member.1, member.2)).mapM
      (fun member : Option String × Json ↦ member.1.map (·, member.2)) = some members := by
    induction members with
    | nil => rfl
    | cons member rest ih =>
      rw [List.map_cons, List.mapM_cons, ih]
      rfl
  unfold ofMembers
  split
  · rename_i readable h
    rw [Option.some.inj (h.symm.trans hread)]
  · rename_i h
    cases h.symm.trans hread

theorem readValue_array {fuel : Nat} {cs rest : List Char} {items : List Json}
    (hcs : Avoids (fun c ↦ isSpace c || c = ']') cs) (h : readItems fuel cs = some (items, rest)) :
    readValue (fuel + 1) ('[' :: cs) = some (array items, rest) := by
  rw [readValue, skipSpace_of_avoids hcs.isSpace]
  split
  · rename_i tail
    have hbracket := hcs ']' rfl
    cases hbracket
  · rw [h]
    rfl

theorem readValue_object {fuel : Nat} {tail rest : List Char} {members : List (String × Json)}
    (h : readMembers fuel ('"' :: tail) =
      some (members.map fun member ↦ (some member.1, member.2), rest)) :
    readValue (fuel + 1) ('\x7b' :: '"' :: tail) = some (object members, rest) := by
  have hquote : skipSpace ('"' :: tail) = '"' :: tail := rfl
  rw [readValue, hquote]
  change (readMembers fuel ('"' :: tail)).map (fun read ↦ (ofMembers read.1, read.2)) = _
  rw [h, Option.map_some, ofMembers_map]

theorem readItems_singleton {fuel : Nat} {cs rest : List Char} {item : Json}
    (h : readValue fuel cs = some (item, ']' :: rest)) :
    readItems (fuel + 1) cs = some ([item], rest) := by
  rw [readItems, h]
  rfl

theorem readItems_cons {fuel : Nat} {cs tail rest : List Char} {item : Json} {items : List Json}
    (h : readValue fuel cs = some (item, ',' :: tail)) (htail : Avoids isSpace tail)
    (hitems : readItems fuel tail = some (items, rest)) :
    readItems (fuel + 1) cs = some (item :: items, rest) := by
  have hcomma : skipSpace (',' :: tail) = ',' :: tail := rfl
  rw [readItems, h]
  simp only [hcomma, skipSpace_of_avoids htail, hitems]
  rfl

theorem readValue_number {c : Char} (hc : c = '-' ∨ c.isDigit = true) (fuel : Nat) (tail : List Char) :
    readValue (fuel + 1) (c :: tail) =
      (readNumeral (c :: tail)).map fun read ↦ (number read.1, read.2) := by
  rw [readValue]
  all_goals
    intro rest h
    exact absurd ((List.cons.inj h).1 ▸ hc) (by decide)

theorem readMembers_singleton {fuel : Nat} {cs tail rest : List Char} {name : String} {item : Json}
    (hname : readString cs = some (some name, ':' :: tail)) (htail : Avoids isSpace tail)
    (h : readValue fuel tail = some (item, '\x7d' :: rest)) :
    readMembers (fuel + 1) ('"' :: cs) = some ([(some name, item)], rest) := by
  have hcolon : skipSpace (':' :: tail) = ':' :: tail := rfl
  rw [readMembers, hname]
  simp only [hcolon, skipSpace_of_avoids htail, h]
  rfl

theorem readMembers_cons {fuel : Nat} {cs tail next rest : List Char} {name : String} {item : Json}
    {members : List (Option String × Json)}
    (hname : readString cs = some (some name, ':' :: tail)) (htail : Avoids isSpace tail)
    (h : readValue fuel tail = some (item, ',' :: next)) (hnext : Avoids isSpace next)
    (hmembers : readMembers fuel next = some (members, rest)) :
    readMembers (fuel + 1) ('"' :: cs) = some ((some name, item) :: members, rest) := by
  have hcolon : skipSpace (':' :: tail) = ':' :: tail := rfl
  have hcomma : skipSpace (',' :: next) = ',' :: next := rfl
  rw [readMembers, hname]
  simp only [hcolon, skipSpace_of_avoids htail, h, hcomma, skipSpace_of_avoids hnext, hmembers]
  rfl

/-- Whether a tree is read back from its text, whatever follows there. -/
def ReadsBack (t : Json) : Prop :=
  ∀ (fuel : Nat) (rest : List Char), 2 * t.text.toList.length ≤ fuel → Avoids isNumeralChar rest →
    readValue fuel (t.text.toList ++ rest) = some (t, rest)

/-- Items that are read back one by one are read back together, up to the closing bracket. -/
theorem readItems_text {items : List Json} (hne : items ≠ []) (hitems : ∀ item ∈ items, ReadsBack item)
    {fuel : Nat} (hfuel : 2 * (itemsText items).toList.length + 1 ≤ fuel) (rest : List Char) :
    readItems fuel ((itemsText items).toList ++ ']' :: rest) = some (items, rest) := by
  induction items generalizing fuel with
  | nil => exact absurd rfl hne
  | cons item others ih =>
    have hitem := hitems item (List.mem_cons_self ..)
    have hothers : ∀ i ∈ others, ReadsBack i := fun i hi ↦ hitems i (List.mem_cons_of_mem _ hi)
    obtain ⟨calls, rfl⟩ : ∃ calls, fuel = calls + 1 := ⟨fuel - 1, by omega⟩
    cases others with
    | nil =>
      rw [itemsText] at hfuel ⊢
      exact readItems_singleton (hitem calls _ (by omega) (avoids_isNumeralChar (by simp) _))
    | cons next others =>
      rw [toList_itemsText_cons, List.length_append, List.length_cons] at hfuel
      rw [toList_itemsText_cons, List.append_assoc, List.cons_append]
      have hnext := List.cons_ne_nil next others
      exact readItems_cons (hitem calls _ (by omega) (avoids_isNumeralChar (by simp) _))
        (avoids_itemsText hnext _).isSpace (ih hnext hothers (by omega))

/-- Members whose values are read back are read back together, up to the closing brace. -/
theorem readMembers_text {members : List (String × Json)} (hne : members ≠ [])
    (hmembers : ∀ name item, (name, item) ∈ members → ReadsBack item) {fuel : Nat}
    (hfuel : 2 * (membersText members).toList.length + 1 ≤ fuel) (rest : List Char) :
    readMembers fuel ((membersText members).toList ++ '\x7d' :: rest) =
      some (members.map fun member ↦ (some member.1, member.2), rest) := by
  induction members generalizing fuel with
  | nil => exact absurd rfl hne
  | cons member others ih =>
    obtain ⟨name, item⟩ := member
    have hitem := hmembers name item (List.mem_cons_self ..)
    have hothers (other : String) (i : Json) (hi : (other, i) ∈ others) : ReadsBack i :=
      hmembers other i (List.mem_cons_of_mem _ hi)
    obtain ⟨calls, rfl⟩ : ∃ calls, fuel = calls + 1 := ⟨fuel - 1, by omega⟩
    cases others with
    | nil =>
      rw [toList_membersText_singleton, toList_quote] at hfuel ⊢
      simp only [List.length_append, List.length_cons, List.length_nil] at hfuel
      simp only [List.cons_append, List.append_assoc, List.nil_append]
      exact readMembers_singleton (readString_escaped name _) (avoids_text item _).isSpace
        (hitem calls _ (by omega) (avoids_isNumeralChar (by simp) _))
    | cons next others =>
      have hnext := List.cons_ne_nil next others
      rw [toList_membersText_cons, toList_quote] at hfuel ⊢
      simp only [List.length_append, List.length_cons, List.length_nil] at hfuel
      simp only [List.cons_append, List.append_assoc, List.nil_append]
      obtain ⟨tail, htail⟩ := exists_head_membersText hnext
      have hblank : Avoids isSpace ((membersText (next :: others)).toList ++ '\x7d' :: rest) := by
        rw [htail]
        exact avoids_cons rfl _
      exact readMembers_cons (readString_escaped name _) (avoids_text item _).isSpace
        (hitem calls _ (by omega) (avoids_isNumeralChar (by simp) _)) hblank
        (ih hnext hothers (by omega))

theorem ReadsBack.of_succ {t : Json}
    (h : ∀ (calls : Nat) (rest : List Char), 2 * t.text.toList.length ≤ calls + 1 →
      Avoids isNumeralChar rest → readValue (calls + 1) (t.text.toList ++ rest) = some (t, rest)) :
    ReadsBack t := by
  intro fuel rest hfuel hrest
  obtain ⟨c, tail, htext, -⟩ := t.exists_head_text
  have hlength : 0 < t.text.toList.length := by simp [htext]
  obtain ⟨calls, rfl⟩ : ∃ calls, fuel = calls + 1 := ⟨fuel - 1, by omega⟩
  exact h calls rest hfuel hrest

/-- A sound tree is read back from its text, whatever follows there. -/
theorem readsBack_of_isSound (t : Json) (hsound : t.isSound = true) : ReadsBack t := by
  induction t using Json.induction with
  | null => exact .of_succ fun _ _ _ _ ↦ rfl
  | bool b => exact .of_succ fun _ _ _ _ ↦ by cases b <;> rfl
  | number n =>
    refine .of_succ fun calls rest _ hrest ↦ ?_
    obtain ⟨c, tail, htext, hc⟩ := n.exists_head_text
    have hread := readNumeral_text n hrest
    rw [text]
    rw [htext, List.cons_append] at hread ⊢
    rw [readValue_number hc, hread]
    rfl
  | string s =>
    refine .of_succ fun calls rest _ _ ↦ ?_
    rw [text, toList_quote, List.cons_append, List.append_assoc, List.singleton_append, readValue,
      readString_escaped]
    rfl
  | unreadable => cases hsound
  | array items ih =>
    refine .of_succ fun calls rest hfuel _ ↦ ?_
    by_cases hne : items = []
    · subst hne
      rfl
    · have hitems (item : Json) (hitem : item ∈ items) : ReadsBack item :=
        ih item hitem ((itemsSound_iff items).1 hsound item hitem)
      rw [toList_text_array] at hfuel ⊢
      simp only [List.length_cons, List.length_append, List.length_nil] at hfuel
      rw [List.cons_append, List.append_assoc, List.singleton_append]
      exact readValue_array (avoids_itemsText hne _) (readItems_text hne hitems (by omega) rest)
  | object members ih =>
    refine .of_succ fun calls rest hfuel _ ↦ ?_
    by_cases hne : members = []
    · subst hne
      rfl
    · have hmembers (name : String) (item : Json) (hitem : (name, item) ∈ members) : ReadsBack item :=
        ih name item hitem ((membersSound_iff members).1 hsound name item hitem)
      rw [toList_text_object] at hfuel ⊢
      simp only [List.length_cons, List.length_append, List.length_nil] at hfuel
      rw [List.cons_append, List.append_assoc, List.singleton_append]
      have hread : readMembers calls ((membersText members).toList ++ '\x7d' :: rest) =
          some (members.map fun member ↦ (some member.1, member.2), rest) :=
        readMembers_text hne hmembers (by omega) rest
      obtain ⟨tail, htail⟩ := exists_head_membersText hne
      rw [htail, List.cons_append] at hread ⊢
      exact readValue_object hread

/-- A sound tree is what its text is read as. -/
theorem ofText?_text (t : Json) (hsound : t.isSound = true) : ofText? t.text = some t := by
  have hspace : skipSpace t.text.toList = t.text.toList := by
    have hhead := avoids_text t []
    rw [List.append_nil] at hhead
    exact skipSpace_of_avoids hhead.isSpace
  have hread := readsBack_of_isSound t hsound (2 * t.text.toList.length + 2) [] (by omega)
    (fun c hc ↦ by cases hc)
  rw [List.append_nil] at hread
  unfold ofText?
  simp only [hspace, hread]
  rfl

end DocQuery.Json
