import DocQuery.Proofs.Json.Text
import DocQuery.Proofs.Query.Nesting
import DocQuery.Proofs.Value.Json
import DocQuery.Query.Json

/-!
# Expressions Read Back

An expression is read back from its JSON text if its values are read back from theirs and the text does
not nest too deeply.  The text gives its tree again, as every part of it is sound.  In the tree every
alternative of a token has a kind of its own: a word is a connective, an array of tokens is a group, and
an object is a statement of the kind that it names.

Nothing is asked of keys and of the sequence of tokens, and no record that is written has a field twice.
-/

namespace DocQuery

/-! ## Records -/

/-- A record whose members are known, in their order, has just these members. -/
theorem Json.record?_object {names : List String} {members : List (String × Json)}
    (hnames : names.Nodup) (h : (members.map (·.1)).Sublist names) :
    (Json.object members).record? names = some members := by
  have hknown : (members.filter fun member ↦ names.contains member.1) = members := by
    refine List.filter_eq_self.2 fun member hmember ↦ ?_
    have hmem : member.1 ∈ names := h.subset (List.mem_map_of_mem hmember)
    simpa using hmem
  have hdistinct : (members.map (·.1)).Nodup := hnames.sublist h
  unfold Json.record?
  dsimp only
  rw [hknown, if_pos hdistinct]

/-- A word of a vocabulary that is written as a string. -/
theorem Json.wordOr?_string {α : Type} (default : α) (ofName? : String → Option α) (word : String) :
    Json.wordOr? default ofName? (some (.string word)) = ofName? word := rfl

theorem TextOptions.ofJson?_toJson (o : TextOptions) : ofJson? (some o.toJson) = some o := by
  have hrecord : o.toJson.record? fieldNames = some
      [("caseSensitive", .bool o.caseSensitive), ("startsWith", .bool o.startsWith),
        ("endsWith", .bool o.endsWith), ("includes", .bool o.includes)] :=
    Json.record?_object (by decide) (List.Sublist.refl _)
  unfold ofJson?
  simp only [hrecord]
  rfl

/-! ## Statements -/

/-- The value that a statement compares with. -/
def Statement.value : Statement → Value
  | property p => p.value
  | bound b => b.date

/-- The members of a comparison, without its kind. -/
def Property.members (p : Property) : List (String × Json) :=
  [("key", .string p.key), ("value", p.value.toJson), ("valueType", .string p.valueType.name),
    ("equalitySymbol", .string p.symbol.name), ("options", p.options.toJson)]

/-- The members of a bound, without its kind. -/
def DateBound.members (b : DateBound) : List (String × Json) :=
  [("key", .string b.key), ("date", b.date.toJson), ("valueType", .string b.valueType.name),
    ("options", .object [(b.side.inclusiveName, .bool b.inclusive)])]

theorem Property.ofJson?_members {p : Property} (h : Value.ofJson? p.value.toJson = some p.value) :
    Property.ofJson? (.object p.members) = some p := by
  have hrecord : (Json.object p.members).record?
      ["key", "value", "valueType", "equalitySymbol", "options"] = some p.members :=
    Json.record?_object (by decide) (List.Sublist.refl _)
  have hkey : Fields.get? "key" p.members = some (.string p.key) := rfl
  have hvalue : Fields.get? "value" p.members = some p.value.toJson := rfl
  have htype : Fields.get? "valueType" p.members = some (.string p.valueType.name) := rfl
  have hsymbol : Fields.get? "equalitySymbol" p.members = some (.string p.symbol.name) := rfl
  have hoptions : Fields.get? "options" p.members = some p.options.toJson := rfl
  unfold Property.ofJson?
  simp only [hrecord, hkey, hvalue, htype, hsymbol, hoptions, h, Option.bind_eq_bind,
    Option.bind_some, Json.string?, Json.wordOr?_string, ValueType.ofName?_name, Symbol.ofName?_name,
    TextOptions.ofJson?_toJson]
  rfl

theorem BoundSide.inclusive?_object (side : BoundSide) (inclusive : Bool) :
    side.inclusive? (some (.object [(side.inclusiveName, .bool inclusive)])) = some inclusive := by
  cases side <;> rfl

theorem DateBound.ofJson?_members {b : DateBound} (h : Value.ofJson? b.date.toJson = some b.date) :
    DateBound.ofJson? b.side (.object b.members) = some b := by
  have hrecord : (Json.object b.members).record? ["key", "date", "valueType", "options"] =
      some b.members :=
    Json.record?_object (by decide) (List.Sublist.refl _)
  have hkey : Fields.get? "key" b.members = some (.string b.key) := rfl
  have hdate : Fields.get? "date" b.members = some b.date.toJson := rfl
  have htype : Fields.get? "valueType" b.members = some (.string b.valueType.name) := rfl
  have hoptions : Fields.get? "options" b.members =
      some (.object [(b.side.inclusiveName, .bool b.inclusive)]) := rfl
  unfold DateBound.ofJson?
  simp only [hrecord, hkey, hdate, htype, hoptions, h, Option.bind_eq_bind, Option.bind_some,
    Json.string?, Json.wordOr?_string, ValueType.ofName?_name, BoundSide.inclusive?_object]
  rfl

/-- A kind that stands first and only once decides how the other members are read. -/
theorem Statement.ofMembers?_cons {members : List (String × Json)}
    (h : ∀ member ∈ members, member.1 ≠ "type") (tree : Json) :
    ofMembers? (("type", tree) :: members) =
      (StatementKind.ofJson? tree).bind fun kind ↦ kind.statement? (.object members) := by
  have hkind : (("type", tree) :: members).filter (fun member ↦ member.1 = "type") =
      [("type", tree)] := by
    rw [List.filter_cons_of_pos (by simp), List.filter_eq_nil_iff.2 (by simpa using h)]
  have hothers : (("type", tree) :: members).filter (fun member ↦ member.1 ≠ "type") = members := by
    rw [List.filter_cons_of_neg (by simp), List.filter_eq_self.2 (by simpa using h)]
  unfold ofMembers?
  rw [hkind, hothers]
  rfl

/-- A statement is read back from its JSON if its value is. -/
theorem Statement.ofJson?_toJson {s : Statement} (h : Value.ofJson? s.value.toJson = some s.value) :
    Token.ofJson? s.toJson = some (.statement s) := by
  cases s with
  | property p =>
    have hkeys : ∀ member ∈ p.members, member.1 ≠ "type" := by simp [Property.members]
    have hread : ofMembers? (("type", .string "property") :: p.members) = some (.property p) := by
      rw [ofMembers?_cons hkeys, StatementKind.ofJson?, Option.bind_some, StatementKind.statement?,
        Property.ofJson?_members h]
      rfl
    change (ofMembers? (("type", .string "property") :: p.members)).map Token.statement = _
    rw [hread]
    rfl
  | bound b =>
    have hkeys : ∀ member ∈ b.members, member.1 ≠ "type" := by simp [DateBound.members]
    have hkind : StatementKind.ofJson? (.string b.side.typeName) = some (.bound b.side) := by
      cases b.side <;> rfl
    have hread : ofMembers? (("type", .string b.side.typeName) :: b.members) = some (.bound b) := by
      rw [ofMembers?_cons hkeys, hkind, Option.bind_some, StatementKind.statement?,
        DateBound.ofJson?_members h]
      rfl
    change (ofMembers? (("type", .string b.side.typeName) :: b.members)).map Token.statement = _
    rw [hread]
    rfl

/-- A statement whose value JSON can express is written soundly. -/
theorem Statement.isSound_toJson {s : Statement} (h : s.value.isExpressible = true) :
    s.toJson.isSound = true := by
  have hvalue : s.value.toJson.isSound = true := Value.isSound_toJson s.value h
  cases s with
  | property p =>
    change ((p.value.toJson.isSound) && true) = true
    rw [Bool.and_true]
    exact hvalue
  | bound b =>
    change ((b.date.toJson.isSound) && true) = true
    rw [Bool.and_true]
    exact hvalue

/-! ## Tokens -/

theorem tokensToJson_eq_map (tokens : List Token) : tokensToJson tokens = tokens.map Token.toJson := by
  induction tokens with
  | nil => rfl
  | cons t rest ih => rw [tokensToJson, ih, List.map_cons]

theorem tokensOfJson?_tokensToJson {tokens : List Token}
    (h : ∀ t ∈ tokens, Token.ofJson? t.toJson = some t) :
    tokensOfJson? (tokensToJson tokens) = some tokens := by
  induction tokens with
  | nil => rfl
  | cons t rest ih =>
    obtain ⟨ht, hrest⟩ := List.forall_mem_cons.1 h
    rw [tokensToJson, tokensOfJson?, ht, ih hrest]

/-- A token is read back from its JSON if the values of its statements are. -/
theorem Token.ofJson?_toJson (t : Token)
    (h : ∀ s : Statement, s.OccursIn [t] → Value.ofJson? s.value.toJson = some s.value) :
    Token.ofJson? t.toJson = some t := by
  induction t using Token.induction with
  | connective c =>
    rw [toJson, ofJson?, Connective.ofName?_name]
    rfl
  | statement s =>
    rw [toJson]
    exact Statement.ofJson?_toJson (h s (.of_mem (List.mem_singleton_self _)))
  | group tokens ih =>
    have htokens (t : Token) (ht : t ∈ tokens) : Token.ofJson? t.toJson = some t :=
      ih t ht fun s hs ↦ h s (.of_group (List.mem_singleton_self _) (.of_singleton ht hs))
    rw [toJson, ofJson?, tokensOfJson?_tokensToJson htokens]

theorem Token.isSound_toJson (t : Token)
    (h : ∀ s : Statement, s.OccursIn [t] → s.value.isExpressible = true) :
    t.toJson.isSound = true := by
  induction t using Token.induction with
  | connective c => rfl
  | statement s =>
    rw [toJson]
    exact Statement.isSound_toJson (h s (.of_mem (List.mem_singleton_self _)))
  | group tokens ih =>
    rw [toJson, Json.isSound, Json.itemsSound_iff, tokensToJson_eq_map, List.forall_mem_map]
    intro t ht
    exact ih t ht fun s hs ↦ h s (.of_group (List.mem_singleton_self _) (.of_singleton ht hs))

theorem itemsSound_tokensToJson {tokens : List Token}
    (h : ∀ s : Statement, s.OccursIn tokens → s.value.isExpressible = true) :
    Json.itemsSound (tokensToJson tokens) = true :=
  Token.isSound_toJson (.group tokens) fun s hs ↦ h s hs.of_singleton_group

/-! ## Expressions -/

theorem SortRule.ofJson?_toJson (r : SortRule) : ofJson? r.toJson = some r := by
  have hrecord : r.toJson.record? ["key", "order"] =
      some [("key", .string r.key), ("order", .string r.order.name)] :=
    Json.record?_object (by decide) (List.Sublist.refl _)
  have horder : SortOrder.ofJson? (.string r.order.name) = some r.order := SortOrder.ofName?_name _
  have hread : Fields.get? "order" [("key", .string r.key), ("order", .string r.order.name)] =
      some (Json.string r.order.name) := rfl
  unfold ofJson?
  simp only [hrecord, hread, horder, Option.bind_eq_bind, Option.bind_some]
  rfl

theorem Take.ofInt?_count (t : Take) : Take.ofInt? t.count = some t :=
  dif_pos ⟨t.count_pos, t.count_le⟩

theorem Take.ofJson?_ofInt (t : Take) :
    Take.ofJson? (.number (Numeral.ofInt t.count)) = some t := by
  have hle := t.count_le
  have hcount : (Int64.ofInt t.count).toInt = t.count :=
    Int64.toInt_ofInt_of_le (by omega) (by omega)
  have hint := Numeral.int?_ofInt (Int64.ofInt t.count)
  rw [hcount] at hint
  rw [Take.ofJson?, hint, Option.bind_some, hcount, Take.ofInt?_count]

namespace Expression

/-- The members of an expression. -/
def members (e : Expression) : List (String × Json) :=
  [("query", .array (tokensToJson e.tokens))] ++
  (e.sort.map fun rule ↦ ("sort", rule.toJson)).toList ++
  (e.take.map fun take ↦ ("take", .number (Numeral.ofInt take.count))).toList

theorem record?_toJson (e : Expression) :
    e.toJson.record? ["query", "sort", "take"] = some e.members := by
  refine Json.record?_object (by decide) ?_
  obtain ⟨tokens, sort, take⟩ := e
  cases sort <;> cases take <;> simp

theorem get?_query_members (e : Expression) :
    Fields.get? "query" e.members = some (.array (tokensToJson e.tokens)) := rfl

theorem optional?_sort_members (e : Expression) :
    optional? SortRule.ofJson? (Fields.get? "sort" e.members) = some e.sort := by
  obtain ⟨tokens, sort, take⟩ := e
  cases sort with
  | none => cases take <;> rfl
  | some rule =>
    change (SortRule.ofJson? rule.toJson).map some = _
    rw [SortRule.ofJson?_toJson]
    rfl

theorem optional?_take_members (e : Expression) :
    optional? Take.ofJson? (Fields.get? "take" e.members) = some e.take := by
  obtain ⟨tokens, sort, take⟩ := e
  cases take with
  | none => cases sort <;> rfl
  | some take =>
    have hread : (Take.ofJson? (.number (Numeral.ofInt take.count))).map some = some (some take) := by
      rw [Take.ofJson?_ofInt]
      rfl
    cases sort <;> exact hread

/-- The tokens lie two arrays or objects deep. -/
theorem itemsDepth_add_two_le (e : Expression) :
    Json.itemsDepth (tokensToJson e.tokens) + 2 ≤ e.toJson.depth := by
  change _ ≤ max (Json.itemsDepth (tokensToJson e.tokens) + 1) _ + 1
  omega

theorem isSound_toJson (e : Expression)
    (h : ∀ s : Statement, s.OccursIn e.tokens → s.value.isExpressible = true) :
    e.toJson.isSound = true := by
  have htokens := itemsSound_tokensToJson h
  have hrule (rule : SortRule) : rule.toJson.isSound = true := rfl
  have htake (take : Take) : (Json.number (Numeral.ofInt take.count)).isSound = true := by
    have hle := take.count_le
    have hlimit : (take.count : Int).natAbs < Numeral.significandLimit := by
      unfold Numeral.significandLimit
      omega
    exact Numeral.isFinite_double_ofInt hlimit
  change Json.membersSound e.members = true
  rw [Json.membersSound_iff]
  intro name tree hmem
  simp only [members, List.mem_append, List.mem_singleton, Option.mem_toList,
    Option.map_eq_some_iff, Prod.mk.injEq] at hmem
  rcases hmem with (⟨-, rfl⟩ | ⟨rule, -, -, rfl⟩) | ⟨take, -, -, rfl⟩
  · exact htokens
  · exact hrule rule
  · exact htake take

/-- The JSON of an expression is read as the expression, if this is so for the values in it and the tokens
are sound and not nested too deeply. -/
theorem ofJson?_toJson (e : Expression)
    (hvalues : ∀ s : Statement, s.OccursIn e.tokens → Value.ofJson? s.value.toJson = some s.value)
    (hsound : Json.itemsSound (tokensToJson e.tokens) = true)
    (hdepth : e.toJson.depth ≤ Json.greatestDepth) : ofJson? e.toJson = some e := by
  have hread : tokensOfJson? (tokensToJson e.tokens) = some e.tokens :=
    tokensOfJson?_tokensToJson fun t ht ↦
      Token.ofJson?_toJson t fun s hs ↦ hvalues s (.of_singleton ht hs)
  have hnested : Json.itemsDepth (tokensToJson e.tokens) + 2 ≤ Json.greatestDepth :=
    Nat.le_trans e.itemsDepth_add_two_le hdepth
  have htokens : tokens? (Fields.get? "query" e.members) = some e.tokens := by
    rw [get?_query_members, tokens?, if_pos (by simp [hsound, hnested]), hread]
  unfold ofJson?
  simp only [record?_toJson, htokens, optional?_sort_members, optional?_take_members,
    Option.bind_eq_bind, Option.bind_some]
  rfl

/-- The text of an expression is read as the expression, if JSON can express its values and fewer than 128
arrays and objects are nested in the text. -/
theorem ofJsonText?_jsonText (e : Expression)
    (hordered : ∀ s : Statement, s.OccursIn e.tokens → s.value.isOrdered = true)
    (hexpressible : ∀ s : Statement, s.OccursIn e.tokens → s.value.isExpressible = true)
    (hdepth : e.toJson.depth < 128) : ofJsonText? e.jsonText = some e := by
  have hvalues (s : Statement) (hs : s.OccursIn e.tokens) :
      Value.ofJson? s.value.toJson = some s.value :=
    Value.ofJson?_toJson s.value (hordered s hs) (hexpressible s hs)
  have htext : Json.ofText? e.jsonText = some e.toJson :=
    Json.ofText?_text e.toJson (e.isSound_toJson hexpressible)
  unfold ofJsonText?
  rw [htext, Option.bind_some]
  exact e.ofJson?_toJson hvalues (itemsSound_tokensToJson hexpressible) (Nat.le_of_lt_succ hdepth)

/-- A query with characters that are escaped, values of every kind that JSON has, groups inside of a
group, a sort rule and a number of records. -/
def wireQuery : Expression where
  tokens :=
    [.statement (.property
        { key := "a\"\\\n\x01é"
          value := .object [("", .array [.null, .bool true, .int (-5), .float (.ofBits 0x3FB999999999999A)]),
            ("b", .object [])]
          valueType := .object, symbol := .ne, options := { endsWith := true } }),
      .connective .or,
      .group
        [.group [],
          .statement (.bound { side := .before, key := "due", date := .string "/", inclusive := true })]]
  sort := some ⟨"type", .descending⟩
  take := some ⟨10, by decide, by decide⟩

theorem ofJsonText?_jsonText_wireQuery :
    (∀ s : Statement, s.OccursIn wireQuery.tokens →
      s.value.isOrdered = true ∧ s.value.isExpressible = true) ∧
      wireQuery.toJson.depth < 128 ∧ ofJsonText? wireQuery.jsonText = some wireQuery := by
  have hvalues : ∀ s : Statement, s.OccursIn wireQuery.tokens →
      s.value.isOrdered = true ∧ s.value.isExpressible = true := by
    rw [forall_occursIn_iff]
    refine ⟨?_, ?_⟩
    · intro s hs
      obtain rfl : s = _ := by simpa [wireQuery] using hs
      exact ⟨by decide +kernel, by decide +kernel⟩
    · intro inner hinner
      obtain rfl : inner = _ := by simpa [wireQuery] using hinner
      rw [forall_occursIn_iff]
      refine ⟨?_, ?_⟩
      · intro s hs
        obtain rfl : s = _ := by simpa using hs
        exact ⟨rfl, rfl⟩
      · intro inner hinner
        obtain rfl : inner = [] := by simpa using hinner
        rw [forall_occursIn_iff]
        simp
  have hdepth : wireQuery.toJson.depth < 128 := by decide
  exact ⟨hvalues, hdepth, ofJsonText?_jsonText wireQuery (fun s hs ↦ (hvalues s hs).1)
    (fun s hs ↦ (hvalues s hs).2) hdepth⟩

end Expression

end DocQuery
