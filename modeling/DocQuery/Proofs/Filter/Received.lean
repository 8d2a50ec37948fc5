import DocQuery.Proofs.Filter.Distinction
import DocQuery.Proofs.Query.Received

/-!
# Selecting After Sending

A comparison with an instant asks for the text of the instant with milliseconds, whatever its type and its
symbol say.  When it is sent, the exact text of the instant comes in its place, and this is compared as
any text: under the type, the symbol and the options of the comparison.  So it keeps its meaning only if
these ask for the text itself and the two texts are the same.  A bound reads the text as the instant again,
if it is declared to be one on dates.

Other values may hold instants.  They keep their meaning where a comparison makes nothing of the
difference: the text of an object is its JSON, and nothing is less or greater than an array or an object.

The main statement is that the statements that keep their meaning in this way compile alike before and after
they are sent.
-/

namespace DocQuery

/-! ## What keeps its meaning -/

/-- Whether a comparison with a text asks, under its type and options, for this very text. -/
def Property.AsksForText (p : Property) : Prop :=
  match p.valueType with
  | .string => p.symbol = .eq ∧ p.options.mode = .exact ∧ p.options.caseSensitive = true
  | .number => p.symbol = .eq
  | _ => True

/-- Whether a comparison keeps its meaning when it is sent.  An instant becomes a text and has to be
compared as one; of other values only what the comparison takes of them must not change. -/
def Property.KeepsMeaning (p : Property) : Prop :=
  match p.value.instant? with
  | some t => t.IsInMillis ∧ p.AsksForText
  | none =>
    match p.valueType with
    | .string => p.symbol = .eq ∨ p.symbol = .ne → p.value.received.text = p.value.text
    | .number =>
      p.symbol = .eq ∨ p.symbol = .gte ∨ p.symbol = .lte → p.value.isTimeless = true
    | _ => p.value.isTimeless = true

/-- Whether a bound keeps its meaning when it is sent: a date is read from its text if it is declared
as a date. -/
def DateBound.KeepsMeaning (b : DateBound) : Prop :=
  match b.date.instant? with
  | some _ => b.valueType = .date
  | none => b.inclusive = true → b.date.isTimeless = true

/-- Whether a statement keeps its meaning when it is sent. -/
def Statement.KeepsMeaning : Statement → Prop
  | property p => p.KeepsMeaning
  | bound b => b.KeepsMeaning

/-! ## Values with parts -/

theorem Value.eq_time_of_instant? {v : Value} {t : Instant} (h : v.instant? = some t) :
    v = .time t := by
  cases v with
  | time u => rw [Option.some.inj h]
  | _ => cases h

/-- Whether a stored value is an array or a document. -/
def Bson.HasParts : Bson → Prop
  | array _ => True
  | document _ => True
  | _ => False

/-- A value that is no instant but holds one has parts, and so has what is received of it. -/
theorem Value.hasParts_toBson {v : Value} (hinstant : v.instant? = none) (h : ¬v.isTimeless = true) :
    v.toBson.HasParts ∧ v.received.toBson.HasParts := by
  cases v with
  | array items => exact ⟨trivial, trivial⟩
  | object fields => exact ⟨trivial, trivial⟩
  | time t => cases hinstant
  | _ => exact absurd rfl h

theorem Value.isAbsent_eq_false_of_not_isTimeless {v : Value} (h : ¬v.isTimeless = true) :
    v.isAbsent = false := by
  cases v with
  | null => exact absurd rfl h
  | string s => exact absurd rfl h
  | _ => rfl

/-- A value with parts has no order but equality. -/
theorem Bson.compare?_of_hasParts {b : Bson} (h : b.HasParts) (a : Bson) :
    a.compare? b = if a.same b then some .eq else none := by
  cases b with
  | array items => cases a <;> rfl
  | document fields => cases a <;> rfl
  | _ => exact h.elim

/-- Nothing is less or greater than a value with parts. -/
theorem Comparator.holds_of_hasParts {op : Comparator} (hop : op = .gt ∨ op = .lt) {b : Bson}
    (h : b.HasParts) (field : Option Bson) : op.holds field b = false := by
  have horder (order : Ordering) (hne : order ≠ .eq) :
      (fieldCompare? field b == some order) = false := by
    cases field with
    | none => rfl
    | some a =>
      rw [fieldCompare?, Option.bind_some, Bson.compare?_of_hasParts h]
      split
      · exact beq_false_of_ne (by simpa using hne.symm)
      · rfl
  rcases hop with rfl | rfl
  · exact horder .gt (by decide)
  · exact horder .lt (by decide)

/-- Where equality is enough, a comparison with a value with parts is passed by what is the same. -/
theorem Comparator.holds_eq_same {op : Comparator} (hop : op = .eq ∨ op = .gte ∨ op = .lte)
    {b : Bson} (h : b.HasParts) (a : Bson) : op.holds (some a) b = a.same b := by
  have hcompare := Bson.compare?_of_hasParts h a
  rcases hop with rfl | rfl | rfl
  · rw [holds, fieldEquals, hcompare]
    cases a.same b <;> rfl
  · rw [holds, fieldCompare?, Option.bind_some, hcompare]
    cases a.same b <;> rfl
  · rw [holds, fieldCompare?, Option.bind_some, hcompare]
    cases a.same b <;> rfl

/-- Comparisons that nothing passes are read alike. -/
theorem MatchTree.readsLike_compare {field : String} {op : Comparator} (hop : op = .gt ∨ op = .lt)
    {a b : Bson} (ha : a.HasParts) (hb : b.HasParts) :
    (MatchTree.clause field (.compare op a)).ReadsLike (.clause field (.compare op b)) := by
  refine readsLike_clause (fun _ ↦ Bson.noConfusion) (fun _ ↦ Bson.noConfusion) fun value ↦ ?_
  rw [fieldMatches_compare, fieldMatches_compare, Comparator.holds_of_hasParts hop ha,
    Comparator.holds_of_hasParts hop hb]

theorem Value.isOperatorObject_received (v : Value) :
    v.received.isOperatorObject = v.isOperatorObject := by
  cases v with
  | object fields => cases fields <;> rfl
  | _ => rfl

/-! ## Statements that keep their meaning -/

namespace Property

variable {p : Property}

theorem received_of_isTimeless (h : p.value.isTimeless = true) : p.received = p := by
  rw [received, Value.received_of_isTimeless h]

/-- The condition of a comparison with a value that is no instant. -/
theorem condition_of_instant?_eq_none (h : p.value.instant? = none) (path : TokenPath) :
    p.condition path =
      if p.value.isAbsent then .ok .null
      else match p.valueType with
        | .string => p.textCondition path
        | .number =>
          match comparator? p.symbol with
          | some op => .ok (.compare op p.value.toBson)
          | none => .error (p.symbolError path)
        | _ => .ok (.equals p.value.toBson) := by
  unfold condition
  generalize p.value.instant? = instant at h
  subst h
  rfl

theorem clause_of_time {t : Instant} (h : p.value = .time t) (path : TokenPath) :
    p.clause path = .ok (.clause p.key (.equals (.string t.isoText))) := by
  simp [clause, condition, h, Value.isAbsent, Value.instant?, Except.map]

/-- The text of an instant is compared as any text. -/
theorem condition_received_of_time {t : Instant} (h : p.value = .time t) (path : TokenPath) :
    p.received.condition path =
      match p.valueType with
      | .string => p.received.textCondition path
      | .number =>
        match comparator? p.symbol with
        | some op => .ok (.compare op (.string t.exactText))
        | none => .error (p.received.symbolError path)
      | _ => .ok (.equals (.string t.exactText)) := by
  have hpresent : p.received.value.isAbsent = false := by
    rw [received, Value.isAbsent_received, h]
    rfl
  rw [condition_of_instant?_eq_none (by simp [received]), hpresent]
  simp only [received, h, Value.received, Value.toBson]
  rfl

/-- What is received of an instant that is compared as a text has the clause of an equality. -/
theorem AsksForText.clause_received (h : p.AsksForText) {t : Instant} (hvalue : p.value = .time t)
    (path : TokenPath) :
    p.received.clause path = .ok (.clause p.key (.equals (.string t.exactText))) ∨
      p.received.clause path = .ok (.clause p.key (.compare .eq (.string t.exactText))) := by
  rw [clause, condition_received_of_time hvalue]
  unfold AsksForText at h
  cases htype : p.valueType with
  | string =>
    rw [htype] at h
    obtain ⟨hsymbol, hmode, hcase⟩ := h
    left
    simp [textCondition, received, hvalue, hsymbol, hmode, hcase, Value.received, Value.text,
      Except.map]
  | number =>
    rw [htype] at h
    right
    simp only [h, comparator?]
    rfl
  | date | boolean | object | array => exact .inl rfl

/-- A comparison of texts takes nothing of a value but its text. -/
theorem textCondition_received
    (htext : p.symbol = .eq ∨ p.symbol = .ne → p.value.received.text = p.value.text)
    (path : TokenPath) : p.received.textCondition path = p.textCondition path := by
  have herror : p.received.symbolError path = p.symbolError path := rfl
  unfold textCondition
  rw [herror]
  simp only [received]
  cases hsymbol : p.symbol with
  | eq =>
    rw [htext (.inl hsymbol)]
    rfl
  | ne =>
    rw [htext (.inr hsymbol)]
    rfl
  | _ => rfl

theorem clause_received_of_text (htype : p.valueType = .string) (hinstant : p.value.instant? = none)
    (htext : p.symbol = .eq ∨ p.symbol = .ne → p.value.received.text = p.value.text)
    (path : TokenPath) : p.received.clause path = p.clause path := by
  have hkey : p.received.key = p.key := rfl
  have hreceived : p.received.valueType = .string := htype
  have habsent : p.received.value.isAbsent = p.value.isAbsent := p.value.isAbsent_received
  rw [clause, clause, hkey, condition_of_instant?_eq_none hinstant,
    condition_of_instant?_eq_none (p.value.instant?_received), habsent, htype, hreceived]
  dsimp only
  rw [textCondition_received htext]

/-- The clause of a comparison of numbers, if its symbol has one. -/
theorem clause_of_number (htype : p.valueType = .number) (hinstant : p.value.instant? = none)
    (hpresent : p.value.isAbsent = false) (path : TokenPath) :
    p.clause path =
      match comparator? p.symbol with
      | some op => .ok (.clause p.key (.compare op p.value.toBson))
      | none => .error (p.symbolError path) := by
  rw [clause, condition_of_instant?_eq_none hinstant, hpresent, htype]
  dsimp only
  cases comparator? p.symbol <;> rfl

theorem compilesLike_received_of_number (htype : p.valueType = .number)
    (hinstant : p.value.instant? = none)
    (htimeless : p.symbol = .eq ∨ p.symbol = .gte ∨ p.symbol = .lte → p.value.isTimeless = true)
    (path : TokenPath) : CompilesLike (p.clause path) (p.received.clause path) := by
  by_cases hvalue : p.value.isTimeless = true
  · rw [received_of_isTimeless hvalue]
    exact .of_eq .refl rfl
  obtain ⟨hparts, hreceived⟩ := Value.hasParts_toBson hinstant hvalue
  have hpresent := Value.isAbsent_eq_false_of_not_isTimeless hvalue
  rw [clause_of_number htype hinstant hpresent, clause_of_number (p := p.received) htype
    p.value.instant?_received (p.value.isAbsent_received.trans hpresent)]
  have hsame : p.received.symbol = p.symbol := rfl
  have herror : p.received.symbolError path = p.symbolError path := rfl
  rw [hsame, herror]
  cases hsymbol : p.symbol with
  | ne => exact .error _
  | gt => exact .ok (MatchTree.readsLike_compare (.inl rfl) hparts hreceived)
  | lt => exact .ok (MatchTree.readsLike_compare (.inr rfl) hparts hreceived)
  | eq => exact absurd (htimeless (.inl hsymbol)) hvalue
  | gte => exact absurd (htimeless (.inr (.inl hsymbol))) hvalue
  | lte => exact absurd (htimeless (.inr (.inr hsymbol))) hvalue

/-- A comparison that keeps its meaning compiles alike before and after it is sent. -/
theorem KeepsMeaning.compilesLike (h : p.KeepsMeaning) (path : TokenPath) :
    CompilesLike (p.clause path) (p.received.clause path) := by
  unfold KeepsMeaning at h
  cases hinstant : p.value.instant? with
  | some t =>
    rw [hinstant] at h
    obtain ⟨hmillis, htext⟩ := h
    have hvalue := Value.eq_time_of_instant? hinstant
    rw [clause_of_time hvalue, Instant.isoText_eq_exactText hmillis]
    rcases htext.clause_received hvalue path with hclause | hclause
    · rw [hclause]
      exact .ok (.refl _)
    · rw [hclause]
      refine .ok (MatchTree.readsLike_clause (fun _ ↦ Bson.noConfusion) (fun _ ↦ Bson.noConfusion)
        fun value ↦ ?_)
      rw [fieldMatches_compare]
      exact fieldMatches_of_not_isOperatorDocument value rfl
  | none =>
    rw [hinstant] at h
    cases htype : p.valueType with
    | string =>
      rw [htype] at h
      exact .of_eq .refl (clause_received_of_text htype hinstant h path).symm
    | number =>
      rw [htype] at h
      exact compilesLike_received_of_number htype hinstant h path
    | date | boolean | object | array =>
      rw [htype] at h
      rw [received_of_isTimeless h]
      exact .of_eq .refl rfl

end Property

namespace DateBound

variable {b : DateBound} {dates : DateRendering}

/-- A value with parts names no instant. -/
theorem instantOf?_of_hasParts {v : Value} (h : v.toBson.HasParts) : instantOf? v = none := by
  cases v with
  | int n =>
    rw [Value.toBson, Bson.ofInt] at h
    split at h <;> exact h.elim
  | array items => rfl
  | object fields => rfl
  | _ => exact h.elim

theorem operand_of_hasParts (h : b.date.toBson.HasParts) : b.operand dates = b.date.toBson := by
  unfold operand
  rw [instantOf?_of_hasParts h]
  split
  · rfl
  · rfl

theorem operand_of_ne_date (h : b.valueType ≠ .date) : b.operand dates = b.date.toBson := by
  unfold operand
  rw [if_pos h]

/-- The text of a date names the date. -/
theorem operand_received_of_time {t : Instant} (hdate : b.date = .time t) (htype : b.valueType = .date)
    (hvalue : b.date.isSendable = true) : b.received.operand dates = b.operand dates := by
  have hread : instantOf? b.received.date = instantOf? b.date := by
    rw [hdate] at hvalue
    obtain ⟨hlow, hhigh, hleap⟩ := of_decide_eq_true hvalue
    rw [received, hdate]
    exact Instant.ofText?_exactText ⟨hlow, hhigh⟩ (.inl hleap)
  have hreceived : b.received.valueType = .date := htype
  unfold operand
  rw [hread, htype, hreceived, hdate, if_neg (fun h ↦ h rfl), if_neg (fun h ↦ h rfl)]
  cases dates <;> rfl

theorem received_of_isTimeless (h : b.date.isTimeless = true) : b.received = b := by
  rw [received, Value.received_of_isTimeless h]

/-- A bound that keeps its meaning is read alike before and after it is sent. -/
theorem KeepsMeaning.readsLike (h : b.KeepsMeaning) (hvalue : b.date.isSendable = true) :
    (b.clause dates).ReadsLike (b.received.clause dates) := by
  unfold KeepsMeaning at h
  cases hinstant : b.date.instant? with
  | some t =>
    rw [hinstant] at h
    have hdate := Value.eq_time_of_instant? hinstant
    have hclause : b.received.clause dates = b.clause dates := by
      rw [clause, operand_received_of_time hdate h hvalue]
      rfl
    rw [hclause]
    exact .refl _
  | none =>
    rw [hinstant] at h
    by_cases htimeless : b.date.isTimeless = true
    · rw [received_of_isTimeless htimeless]
      exact .refl _
    obtain ⟨hparts, hreceived⟩ := Value.hasParts_toBson hinstant htimeless
    have hexclusive : b.inclusive = false := by simpa [htimeless] using h
    have hstrict : b.comparator = .gt ∨ b.comparator = .lt := by
      unfold comparator
      rw [hexclusive]
      cases b.side with
      | before => exact .inr rfl
      | after => exact .inl rfl
    rw [clause, clause, operand_of_hasParts hparts, operand_of_hasParts (b := b.received) hreceived]
    exact MatchTree.readsLike_compare hstrict hparts hreceived

end DateBound

/-- A statement that keeps its meaning compiles alike before and after it is sent. -/
theorem Statement.KeepsMeaning.compilesLike {s : Statement} (h : s.KeepsMeaning)
    (hvalue : s.value.isSendable = true) (dates : DateRendering) (path : TokenPath) :
    CompilesLike (s.clause dates path) (s.received.clause dates path) := by
  cases s with
  | property p => exact Property.KeepsMeaning.compilesLike h path
  | bound b => exact .ok (DateBound.KeepsMeaning.readsLike h hvalue)

end DocQuery
