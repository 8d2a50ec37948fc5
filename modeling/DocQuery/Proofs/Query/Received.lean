import DocQuery.Proofs.Query.Json
import DocQuery.Proofs.Value.Received

/-!
# Expressions as They Are Received

An expression that is sent as text is received with its values as JSON leaves them: a comparison or a
bound that was made with an instant is received with the exact text of the instant, and the rest is as
it was.  This holds for every expression whose values can be sent and whose text does not nest too deeply.
-/

namespace DocQuery

/-- A comparison with its value as it is received. -/
def Property.received (p : Property) : Property := { p with value := p.value.received }

/-- A bound with its date as it is received. -/
def DateBound.received (b : DateBound) : DateBound := { b with date := b.date.received }

/-- A statement with its value as it is received. -/
def Statement.received : Statement → Statement
  | property p => .property p.received
  | bound b => .bound b.received

@[simp]
theorem Statement.value_received (s : Statement) : s.received.value = s.value.received := by
  cases s <;> rfl

@[simp]
theorem Statement.toJson_received (s : Statement) : s.received.toJson = s.toJson := by
  cases s <;> simp [received, Property.received, DateBound.received, toJson]

theorem Token.toJson_received (t : Token) : (t.replace Statement.received).toJson = t.toJson := by
  induction t using Token.induction with
  | connective c => rfl
  | statement s => exact s.toJson_received
  | group tokens ih =>
    rw [replace, toJson, toJson, tokensToJson_eq_map, tokensToJson_eq_map, replaceAll_eq_map,
      List.map_map]
    exact congrArg Json.array (List.map_congr_left ih)

namespace Expression

/-- An expression with its values as they are received. -/
def received (e : Expression) : Expression :=
  { e with tokens := replaceAll Statement.received e.tokens }

theorem toJson_received (e : Expression) : e.received.toJson = e.toJson := by
  have htokens := Token.toJson_received (.group e.tokens)
  rw [Token.replace, Token.toJson, Token.toJson] at htokens
  rw [toJson, toJson, received, htokens]

/-- The text of an expression is read as the expression is received, if its values can be sent and fewer
than 128 arrays and objects are nested in the text. -/
theorem ofJsonText?_eq_received {e : Expression}
    (hvalues : ∀ s : Statement, s.OccursIn e.tokens → s.value.isSendable = true)
    (hdepth : e.toJson.depth < 128) : ofJsonText? e.jsonText = some e.received := by
  have hsent (s : Statement) (hs : s.OccursIn e.received.tokens) :
      ∃ v : Value, v.isSendable = true ∧ s.value = v.received := by
    obtain ⟨original, horiginal, rfl⟩ := hs.of_replaceAll
    exact ⟨original.value, hvalues original horiginal, original.value_received⟩
  have hread (s : Statement) (hs : s.OccursIn e.received.tokens) :
      Value.ofJson? s.value.toJson = some s.value := by
    obtain ⟨v, hv, hvalue⟩ := hsent s hs
    rw [hvalue, Value.toJson_received, Value.ofJson?_toJson_received hv]
  have hexpressible (s : Statement) (hs : s.OccursIn e.received.tokens) :
      s.value.isExpressible = true := by
    obtain ⟨v, hv, hvalue⟩ := hsent s hs
    rw [hvalue]
    exact Value.isExpressible_received hv
  have htext : Json.ofText? e.jsonText = some e.received.toJson := by
    rw [jsonText, ← toJson_received]
    exact Json.ofText?_text e.received.toJson (e.received.isSound_toJson hexpressible)
  have hnested : e.received.toJson.depth ≤ Json.greatestDepth := by
    rw [toJson_received]
    exact Nat.le_of_lt_succ hdepth
  unfold ofJsonText?
  rw [htext, Option.bind_some]
  exact e.received.ofJson?_toJson hread (itemsSound_tokensToJson hexpressible) hnested

end Expression

end DocQuery
