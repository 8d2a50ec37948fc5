import DocQuery.Proofs.Filter.LiteralValue
import DocQuery.Proofs.Filter.Received

/-!
# Sending Queries

A query that is sent as text compiles alike before and after, if each of its statements keeps its meaning.
These statements are also the only ones that compile alike when they are looked at alone: every other one
is told apart from what is received of it by some value of its field.  That may be a text that a search
finds besides the one of an instant, an instant beyond a bound, or the value of the comparison itself.

Spared are statements that write something that is spelled like an operator and searches that are too
large, because they need not select anything before they are sent.
-/

namespace DocQuery

/-! ## Comparisons that lose their meaning -/

/-- A value that passes the comparison with itself exactly as the one with what is received of it
holds no instant. -/
theorem Comparator.isTimeless_of_holds_eq {op : Comparator}
    (hop : op = .eq ∨ op = .gte ∨ op = .lte) {v : Value} (hvalue : v.isSendable = true)
    (hinstant : v.instant? = none)
    (h : op.holds (some v.toBson) v.toBson = op.holds (some v.toBson) v.received.toBson) :
    v.isTimeless = true := by
  by_cases htimeless : v.isTimeless = true
  · exact htimeless
  obtain ⟨hparts, hreceived⟩ := Value.hasParts_toBson hinstant htimeless
  rw [holds_eq_same hop hparts, holds_eq_same hop hreceived, Value.same_toBson hvalue] at h
  exact Value.isTimeless_of_same hvalue h.symm

namespace Property

variable {p : Property} {path : TokenPath}

theorem comparator?_eq_some {symbol : Symbol} {op : Comparator} (h : comparator? symbol = some op) :
    (op = .eq → symbol = .eq) ∧ op ≠ .ne := by
  cases symbol <;> cases h <;> decide

/-- A symbol that lets equality pass has a comparison that does. -/
theorem exists_comparator? {symbol : Symbol} (h : symbol = .eq ∨ symbol = .gte ∨ symbol = .lte) :
    ∃ op, comparator? symbol = some op ∧ (op = .eq ∨ op = .gte ∨ op = .lte) := by
  rcases h with rfl | rfl | rfl
  · exact ⟨.eq, rfl, .inl rfl⟩
  · exact ⟨.gte, rfl, .inr (.inl rfl)⟩
  · exact ⟨.lte, rfl, .inr (.inr rfl)⟩

/-- A comparison with the exact text of an instant that is read like the equality with its text with
milliseconds asks for this text, and the two texts are the same. -/
theorem asksForText_of_readsLike {t : Instant} (hvalue : p.value = .time t)
    (hkey : isOperatorName p.key = false) {d : Condition}
    (hcondition : p.received.condition path = .ok d)
    (hlike : (MatchTree.clause p.key (.equals (.string t.isoText))).ReadsLike (.clause p.key d)) :
    t.IsInMillis ∧ p.AsksForText := by
  have hiso : (Condition.equals (.string t.isoText)).IsReadable := rfl
  have honly (hread : d.IsReadable) (s : String) (hs : d.holds (some (.string s)) = true) :
      s = t.isoText := by
    rw [← hlike.holds_eq hkey hiso hread] at hs
    exact (fieldEquals_string s t.isoText).1 hs
  rw [condition_received_of_time hvalue] at hcondition
  unfold AsksForText
  cases htype : p.valueType with
  | string =>
    rw [htype] at hcondition
    rcases textCondition_eq_ok hcondition with ⟨hsymbol, rfl⟩ | ⟨-, rfl⟩
    · have htext : p.received.value.text = t.exactText := by
        rw [received, hvalue]
        rfl
      have hread := hlike.isReadable hkey hiso fun value ↦ isOperatorDocument_of_textEquality
      obtain ⟨front, hfront⟩ := t.exists_exactText_eq
      obtain ⟨hsame, hplain⟩ := eq_of_holds_textEquality (htext ▸ hfront) hread (honly hread)
      exact ⟨Instant.isInMillis_of_eq (htext.symm.trans hsame), hsymbol, hplain⟩
    · -- an inequality selects the documents without the field
      have hread := hlike.isReadable hkey hiso fun value h ↦ absurd h (textInequality_ne_equals value)
      have hnone := hlike.holds_eq hkey hiso hread none
      rw [holds_textInequality, holds_textEquality_none] at hnone
      cases hnone
  | number =>
    rw [htype] at hcondition
    cases hop : comparator? p.symbol with
    | none =>
      rw [hop] at hcondition
      cases hcondition
    | some op =>
      rw [hop] at hcondition
      obtain rfl := Except.ok.inj hcondition
      obtain ⟨hsymbol, hne⟩ := comparator?_eq_some hop
      obtain ⟨front, hfront⟩ := t.exists_isoText_eq
      obtain ⟨heq, hsame⟩ := Comparator.eq_of_holds hne t.exactText_ne_empty hfront (honly trivial)
      exact ⟨Instant.isInMillis_of_eq hsame, hsymbol heq⟩
  | date | boolean | object | array =>
    rw [htype] at hcondition
    obtain rfl := Except.ok.inj hcondition
    have hself := honly rfl t.exactText ((fieldEquals_string _ _).2 rfl)
    exact ⟨Instant.isInMillis_of_eq hself, trivial⟩

/-- Equalities with the texts of a value before and after it is sent select the same only if the texts
are equal. -/
theorem text_received_of_holds_eq (hread : p.textEquality.IsReadable)
    (hreceived : p.received.textEquality.IsReadable)
    (h : ∀ field, p.textEquality.holds field = p.received.textEquality.holds field) :
    p.value.received.text = p.value.text := by
  have hfinds (text : String) : p.Finds text.toList ↔ p.received.Finds text.toList := by
    rw [← holds_textEquality_iff hread, h]
    exact holds_textEquality_iff hreceived text
  have hforth := (hfinds p.value.received.text).2 (TextMatch.finds_self _ _ _)
  have hback := (hfinds p.value.text).1 (TextMatch.finds_self _ _ _)
  have hsame := hforth.sameText hback.length_le
  rw [← List.append_nil p.value.text.toList, ← List.append_nil p.value.received.text.toList]
    at hsame
  exact (Value.text_received_of_sameText hsame).1

/-- A comparison of texts that compiles alike after it is sent compares with the same text. -/
theorem text_received_of_compilesLike (htype : p.valueType = .string)
    (hinstant : p.value.instant? = none) (hkey : isOperatorName p.key = false) (hfits : p.PatternFits)
    (hsymbol : p.symbol = .eq ∨ p.symbol = .ne)
    (h : CompilesLike (p.clause path) (p.received.clause path)) :
    p.value.received.text = p.value.text := by
  by_cases htimeless : p.value.isTimeless = true
  · rw [Value.received_of_isTimeless htimeless]
  have hpresent := Value.isAbsent_eq_false_of_not_isTimeless htimeless
  have htext : p.ComparesText := ⟨htype, hpresent, hinstant⟩
  have hreceived : p.received.ComparesText :=
    ⟨htype, p.value.isAbsent_received.trans hpresent, p.value.instant?_received⟩
  have hread := htext.isReadable_textEquality hfits
  rcases hsymbol with hsymbol | hsymbol
  · rw [htext.clause_of_eq hsymbol, hreceived.clause_of_eq hsymbol] at h
    obtain ⟨_, ⟨rfl⟩, hlike⟩ := h.exists_ok
    have hread' := hlike.isReadable hkey hread fun value ↦ isOperatorDocument_of_textEquality
    exact text_received_of_holds_eq hread hread' fun field ↦ hlike.holds_eq hkey hread hread' field
  · rw [htext.clause_of_ne hsymbol, hreceived.clause_of_ne hsymbol] at h
    obtain ⟨_, ⟨rfl⟩, hlike⟩ := h.exists_ok
    have hlacks := isReadable_textInequality_iff.2 hread
    have hlacks' := hlike.isReadable hkey hlacks fun value h ↦ absurd h (textInequality_ne_equals value)
    refine text_received_of_holds_eq hread (isReadable_textInequality_iff.1 hlacks') fun field ↦ ?_
    have hholds := hlike.holds_eq hkey hlacks hlacks' field
    rwa [holds_textInequality, holds_textInequality, Bool.not_inj_iff] at hholds

/-- A comparison of numbers that lets equality pass and compiles alike after it is sent is one with a
value that holds no instant. -/
theorem isTimeless_of_number (htype : p.valueType = .number) (hvalue : p.value.isSendable = true)
    (hinstant : p.value.instant? = none) (hkey : isOperatorName p.key = false)
    (hsymbol : p.symbol = .eq ∨ p.symbol = .gte ∨ p.symbol = .lte)
    (h : CompilesLike (p.clause path) (p.received.clause path)) : p.value.isTimeless = true := by
  by_cases htimeless : p.value.isTimeless = true
  · exact htimeless
  have hpresent := Value.isAbsent_eq_false_of_not_isTimeless htimeless
  obtain ⟨op, hop, hequal⟩ := exists_comparator? hsymbol
  have hop' : comparator? p.received.symbol = some op := hop
  rw [clause_of_number htype hinstant hpresent, clause_of_number (p := p.received) htype
    p.value.instant?_received (p.value.isAbsent_received.trans hpresent), hop, hop'] at h
  obtain ⟨_, ⟨rfl⟩, hlike⟩ := h.exists_ok
  have hholds := hlike.holds_eq hkey trivial trivial (some p.value.toBson)
  exact Comparator.isTimeless_of_holds_eq hequal hvalue hinstant hholds

/-- An equality that compiles alike after it is sent is one with a value that holds no instant. -/
theorem isTimeless_of_equality (hstring : p.valueType ≠ .string) (hnumber : p.valueType ≠ .number)
    (hvalue : p.value.isSendable = true) (hinstant : p.value.instant? = none)
    (hplain : (Statement.property p).IsPlain)
    (h : CompilesLike (p.clause path) (p.received.clause path)) : p.value.isTimeless = true := by
  by_cases htimeless : p.value.isTimeless = true
  · exact htimeless
  have hpresent := Value.isAbsent_eq_false_of_not_isTimeless htimeless
  have hobject := hplain.2 hstring hnumber
  rw [clause_eq_equals hstring hnumber hpresent hinstant, clause_eq_equals (p := p.received) hstring
    hnumber (p.value.isAbsent_received.trans hpresent) p.value.instant?_received] at h
  obtain ⟨_, ⟨rfl⟩, hlike⟩ := h.exists_ok
  have hread := p.value.isOperatorDocument_toBson.trans hobject
  have hread' := p.value.received.isOperatorDocument_toBson.trans
    (p.value.isOperatorObject_received.trans hobject)
  have hholds := hlike.holds_eq hplain.1 hread hread' (some p.value.toBson)
  exact Comparator.isTimeless_of_holds_eq (.inl rfl) hvalue hinstant hholds

/-- A comparison that compiles alike after it is sent keeps its meaning. -/
theorem keepsMeaning_of_compilesLike (hvalue : p.value.isSendable = true)
    (hplain : (Statement.property p).IsPlain) (hfits : p.PatternFits)
    (h : CompilesLike (p.clause path) (p.received.clause path)) : p.KeepsMeaning := by
  unfold KeepsMeaning
  cases hinstant : p.value.instant? with
  | some t =>
    have htime := Value.eq_time_of_instant? hinstant
    rw [clause_of_time htime] at h
    obtain ⟨tree, hclause, hlike⟩ := h.exists_ok
    obtain ⟨d, hcondition, rfl⟩ := map_eq_ok.1 hclause
    exact asksForText_of_readsLike htime hplain.1 hcondition hlike
  | none =>
    cases htype : p.valueType with
    | string =>
      intro hsymbol
      exact text_received_of_compilesLike htype hinstant hplain.1 hfits hsymbol h
    | number =>
      intro hsymbol
      exact isTimeless_of_number htype hvalue hinstant hplain.1 hsymbol h
    | date | boolean | object | array =>
      exact isTimeless_of_equality (by simp [htype]) (by simp [htype]) hvalue hinstant hplain h

end Property

/-! ## Bounds that lose their meaning -/

namespace DateBound

variable {b : DateBound} {dates : DateRendering}

/-- A bound at an instant selects some instant. -/
theorem exists_comparator_holds (b : DateBound) (millis : Int) :
    ∃ other, b.comparator.holds (some (.dateTime other)) (.dateTime millis) = true := by
  have hcompare (other : Int) :
      Bson.compare? (.dateTime other) (.dateTime millis) = some (compare other millis) := rfl
  unfold comparator
  split
  · exact ⟨millis, by simp [Comparator.holds, fieldCompare?, hcompare]⟩
  · refine ⟨millis - 1, ?_⟩
    have hless : compare (millis - 1) millis = .lt := Std.compare_eq_lt.2 (by omega)
    simp [Comparator.holds, fieldCompare?, hcompare, hless]
  · exact ⟨millis, by simp [Comparator.holds, fieldCompare?, hcompare]⟩
  · refine ⟨millis + 1, ?_⟩
    have hgreater : compare (millis + 1) millis = .gt := Std.compare_eq_gt.2 (by omega)
    simp [Comparator.holds, fieldCompare?, hcompare, hgreater]

/-- A bound that is read alike after it is sent keeps its meaning. -/
theorem keepsMeaning_of_readsLike (hvalue : b.date.isSendable = true)
    (hkey : isOperatorName b.key = false) (h : (b.clause dates).ReadsLike (b.received.clause dates)) :
    b.KeepsMeaning := by
  unfold KeepsMeaning
  cases hinstant : b.date.instant? with
  | some t =>
    by_cases htype : b.valueType = .date
    · exact htype
    have hdate := Value.eq_time_of_instant? hinstant
    have hoperand : b.operand dates = .dateTime t.millis := by
      rw [operand_of_ne_date htype, hdate]
      rfl
    have hreceived : b.received.operand dates = .string t.exactText := by
      rw [operand_of_ne_date (b := b.received) htype, received, hdate]
      rfl
    obtain ⟨millis, hmillis⟩ := b.exists_comparator_holds t.millis
    have htext :
        b.received.comparator.holds (some (.dateTime millis)) (.string t.exactText) = false := by
      unfold comparator
      split <;> rfl
    rw [clause, clause, hoperand, hreceived] at h
    have hholds := h.holds_eq hkey trivial trivial (some (.dateTime millis))
    rw [Condition.holds, hmillis, Condition.holds, htext] at hholds
    cases hholds
  | none =>
    intro hinclusive
    by_cases htimeless : b.date.isTimeless = true
    · exact htimeless
    obtain ⟨hparts, hreceived⟩ := Value.hasParts_toBson hinstant htimeless
    have hequal : b.comparator = .eq ∨ b.comparator = .gte ∨ b.comparator = .lte := by
      unfold comparator
      rw [hinclusive]
      cases b.side with
      | before => exact .inr (.inr rfl)
      | after => exact .inr (.inl rfl)
    rw [clause, clause, operand_of_hasParts hparts, operand_of_hasParts (b := b.received) hreceived]
      at h
    have hholds := h.holds_eq hkey trivial trivial (some b.date.toBson)
    exact Comparator.isTimeless_of_holds_eq hequal hvalue hinstant hholds

end DateBound

/-- A statement that compiles alike after it is sent keeps its meaning, unless it writes something that
is spelled like an operator or its search is too large. -/
theorem Statement.keepsMeaning_of_compilesLike {s : Statement} (hvalue : s.value.isSendable = true)
    (hplain : s.IsPlain) (hfits : ∀ p, s = .property p → p.PatternFits) {dates : DateRendering}
    {path : TokenPath} (h : CompilesLike (s.clause dates path) (s.received.clause dates path)) :
    s.KeepsMeaning := by
  cases s with
  | property p => exact Property.keepsMeaning_of_compilesLike hvalue hplain (hfits p rfl) h
  | bound b =>
    obtain ⟨_, ⟨rfl⟩, hlike⟩ := h.exists_ok
    exact DateBound.keepsMeaning_of_readsLike hvalue hplain hlike

/-! ## Queries -/

namespace Expression

/-- A query that is sent as text compiles alike on both sides if all of its statements keep their
meaning, and a statement alone does so exactly if it keeps its meaning. -/
theorem sent_compilesLike (e : Expression)
    (hvalues : ∀ s : Statement, s.OccursIn e.tokens → s.value.isSendable = true)
    (hdepth : e.toJson.depth < 128) :
    ofJsonText? e.jsonText = some e.received ∧
      ((∀ s : Statement, s.OccursIn e.tokens → s.KeepsMeaning) →
        ∀ dates, CompilesLike (compile e.tokens dates) (compile e.received.tokens dates)) ∧
      ∀ s : Statement, s.OccursIn e.tokens → s.IsPlain →
        (∀ p, s = .property p → p.PatternFits) → ∀ dates path,
          (CompilesLike (s.clause dates path) (s.received.clause dates path) ↔ s.KeepsMeaning) := by
  refine ⟨ofJsonText?_eq_received hvalues hdepth, ?_, ?_⟩
  · intro hkeeps dates
    refine compile_replaceAll fun s hs path ↦ ?_
    exact (hkeeps s hs).compilesLike (hvalues s hs) dates path
  · intro s hs hplain hfits dates path
    constructor
    · exact Statement.keepsMeaning_of_compilesLike (hvalues s hs) hplain hfits
    · exact fun hkeeps ↦ hkeeps.compilesLike (hvalues s hs) dates path

/-- A query with a bound at an instant, an equality with an instant that has milliseconds, and a search
in an array with such an instant. -/
def datedQuery : Expression where
  tokens :=
    [.statement (.bound
        { side := .after, key := "due", date := .time { seconds := 1577836800, nanos := 250000000 } }),
      .connective .or,
      .group
        [.statement (.property
            { key := "at", value := .time { seconds := 1577836800, nanos := 123000000 }
              valueType := .date }),
          .statement (.property
            { key := "log", value := .array [.time { seconds := 1577836800, nanos := 5000000 }]
              options := { includes := true } })]]

theorem sent_compilesLike_datedQuery :
    (∀ s : Statement, s.OccursIn datedQuery.tokens → s.value.isSendable = true) ∧
      datedQuery.toJson.depth < 128 ∧
        ofJsonText? datedQuery.jsonText = some datedQuery.received ∧
          CompilesLike (compile datedQuery.tokens) (compile datedQuery.received.tokens) := by
  have hstatements : ∀ s : Statement, s.OccursIn datedQuery.tokens →
      s.value.isSendable = true ∧ s.KeepsMeaning := by
    rw [forall_occursIn_iff]
    refine ⟨?_, ?_⟩
    · intro s hs
      obtain rfl : s = _ := by simpa [datedQuery] using hs
      exact ⟨by decide, rfl⟩
    · intro inner hinner
      obtain rfl : inner = _ := by simpa [datedQuery] using hinner
      rw [forall_occursIn_iff]
      refine ⟨?_, by simp⟩
      intro s hs
      simp only [List.mem_cons, List.not_mem_nil, or_false, Token.statement.injEq] at hs
      rcases hs with rfl | rfl
      · exact ⟨by decide, by decide, trivial⟩
      · exact ⟨by decide, fun _ ↦ by decide⟩
  have hdepth : datedQuery.toJson.depth < 128 := by decide
  have hvalues : ∀ s : Statement, s.OccursIn datedQuery.tokens → s.value.isSendable = true :=
    fun s hs ↦ (hstatements s hs).1
  obtain ⟨hread, hcompile, -⟩ := sent_compilesLike datedQuery hvalues hdepth
  exact ⟨hvalues, hdepth, hread, hcompile (fun s hs ↦ (hstatements s hs).2) .native⟩

/-- The start of a year is compared with its text with milliseconds before it is sent, and with its exact
text after. -/
theorem sent_not_compilesLike :
    let at2020 : Value := .time { seconds := 1577836800, nanos := 0 }
    let e : Expression := { tokens := [.statement (.property { key := "at", value := at2020 })] }
    let later : Expression :=
      { tokens := [.statement (.property { key := "at", value := at2020, symbol := .gt })] }
    (at2020.isSendable = true ∧ e.toJson.depth < 128 ∧ later.toJson.depth < 128) ∧
      (∃ received tree other, ofJsonText? e.jsonText = some received ∧ compile e.tokens = .ok tree ∧
        compile received.tokens = .ok other ∧
          tree.selects [("at", .string "2020-01-01T00:00:00.000Z")] = true ∧
            other.selects [("at", .string "2020-01-01T00:00:00.000Z")] = false) ∧
      ∃ received tree error, ofJsonText? later.jsonText = some received ∧
        compile later.tokens = .ok tree ∧ compile received.tokens = .error error := by
  intro at2020 e later
  have hread {e : Expression} {p : Property} (htokens : e.tokens = [.statement (.property p)])
      (hp : p.value = at2020) (hdepth : e.toJson.depth < 128) :
      ofJsonText? e.jsonText = some e.received := by
    have hvalues : ∀ s : Statement, s.OccursIn e.tokens → s.value.isSendable = true := by
      rw [htokens, forall_occursIn_iff]
      refine ⟨?_, by simp⟩
      intro s hs
      obtain rfl : s = .property p := by simpa using hs
      rw [Statement.value, hp]
      decide
    exact ofJsonText?_eq_received hvalues hdepth
  refine ⟨⟨by decide, by decide, by decide⟩, ?_, ?_⟩
  · refine ⟨_, _, _, hread rfl rfl (by decide), rfl, rfl, ?_, ?_⟩
    · decide +kernel
    · decide +kernel
  · exact ⟨_, _, _, hread rfl rfl (by decide), rfl, rfl⟩

end Expression

end DocQuery
