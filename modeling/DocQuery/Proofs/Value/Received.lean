import DocQuery.Bson.OfValue
import DocQuery.Proofs.Fields.Writing
import DocQuery.Proofs.Regex.LiteralMatch
import DocQuery.Proofs.Store.Identity
import DocQuery.Proofs.Time.Reading
import DocQuery.Proofs.Value.Json
import DocQuery.Value.Text

/-!
# Values as They Are Received

JSON has no instants.  A value that is sent as JSON is received with the exact text of every instant in
the place of the instant, and with nothing else changed.  Its JSON is the same, and JSON can express it.

What a store sees of a value and what a search takes from it do change.  A value is equal to what is
received of it only where it holds no instant.  The text of an instant is its exact text only where its
fraction of a second is a number of milliseconds other than zero; two texts of one value that differ do so
in more than the case of a letter.
-/

namespace DocQuery

/-! ## Texts of an instant -/

/-- No digit is the same as the letter that ends the text of an instant. -/
theorem Text.CaseRule.not_same_digit (rule : Text.CaseRule) {c : Char} (h : c.isDigit = true) :
    rule.same 'Z' c = false := by
  obtain ⟨hlow, hhigh⟩ : 48 ≤ c.toNat ∧ c.toNat ≤ 57 := by
    simpa [Char.isDigit, UInt32.le_iff_toNat_le] using h
  have hne (d : Char) (hd : 57 < d.toNat) : d ≠ c := by
    rintro rfl
    omega
  have hlower : c.toLower = c := by
    unfold Char.toLower
    exact dif_neg fun hupper ↦ absurd hupper.1 (by simp [UInt32.le_iff_toNat_le]; omega)
  cases rule with
  | exact => exact beq_false_of_ne (hne 'Z' (by decide))
  | ascii =>
    rw [same, hlower]
    exact beq_false_of_ne (hne 'z' (by decide))
  | simple =>
    rw [same, sameFold, fold, fold, if_pos (show c.toNat < 0x80 by omega), hlower]
    exact beq_false_of_ne (hne 'z' (by decide))

namespace Instant

/-- Whether the fraction of a second is a number of milliseconds other than zero. -/
def IsInMillis (t : Instant) : Prop := t.subsecond ≠ 0 ∧ t.subsecond % 1000000 = 0

instance (t : Instant) : Decidable t.IsInMillis :=
  inferInstanceAs (Decidable (t.subsecond ≠ 0 ∧ t.subsecond % 1000000 = 0))

/-- The two texts of an instant are the same if its fraction has exactly three digits. -/
theorem isoText_eq_exactText {t : Instant} (h : t.IsInMillis) : t.isoText = t.exactText := by
  unfold isoText exactText
  dsimp only
  rw [if_neg h.1, if_pos h.2, ← String.append_assoc]

/-- The text of an instant ends with a letter. -/
theorem exists_exactText_eq (t : Instant) : ∃ front, t.exactText.toList = front ++ ['Z'] := by
  unfold exactText
  dsimp only
  rw [String.toList_append]
  exact ⟨_, rfl⟩

theorem exists_isoText_eq (t : Instant) : ∃ front, t.isoText.toList = front ++ ['Z'] := by
  unfold isoText
  rw [String.toList_append]
  exact ⟨_, rfl⟩

theorem exactText_ne_empty (t : Instant) : t.exactText ≠ "" := by
  intro hempty
  obtain ⟨front, hfront⟩ := t.exists_exactText_eq
  rw [hempty] at hfront
  simp at hfront

/-- A number with more than three digits goes on where one with three digits is over. -/
theorem not_sameText_padded {rule : Text.CaseRule} {n width m : Nat} {back behind : List Char}
    (hn : n < 10 ^ 3) (hwidth : 3 < width) (hm : m < 10 ^ width) :
    ¬SameText rule (Text.paddedDigits 3 n ++ 'Z' :: back) (Text.paddedDigits width m ++ behind) := by
  intro hsame
  have hshort := Text.length_paddedDigits (by decide) hn
  have hlong := Text.length_paddedDigits (by omega) hm
  have hlt : 3 < (Text.paddedDigits width m).length := by omega
  have hsplit : Text.paddedDigits width m ++ behind = (Text.paddedDigits width m).take 3 ++
      ((Text.paddedDigits width m)[3] :: ((Text.paddedDigits width m).drop 4 ++ behind)) := by
    rw [← List.cons_append, List.getElem_cons_drop, ← List.append_assoc, List.take_append_drop]
  rw [hsplit, SameText.append_iff (by rw [hshort, List.length_take_of_le (by omega)])] at hsame
  have hdigit : (Text.paddedDigits width m)[3].isDigit = true :=
    Text.isDigit_of_mem_paddedDigits (List.getElem_mem hlt)
  cases hsame.2 with
  | cons hfirst _ => exact absurd hfirst (by simp [rule.not_same_digit hdigit])

/-- The two texts of an instant, whatever follows them, have the same characters only if they are equal. -/
theorem isInMillis_of_sameText {rule : Text.CaseRule} {t : Instant} {back behind : List Char}
    (h : SameText rule (t.isoText.toList ++ back) (t.exactText.toList ++ behind)) : t.IsInMillis := by
  have hlt : t.subsecond < 1000000000 := Nat.mod_lt _ (by decide)
  unfold isoText exactText at h
  simp only [String.toList_append, Text.padded, String.toList_ofList, List.append_assoc] at h
  have hrest := h.of_append_left
  by_cases hzero : t.subsecond = 0
  · rw [if_pos hzero] at hrest
    cases hrest with
    | cons hfirst _ => exact absurd hfirst (by cases rule <;> decide)
  by_cases hmillis : t.subsecond % 1000000 = 0
  · exact ⟨hzero, hmillis⟩
  rw [if_neg hzero, if_neg hmillis] at hrest
  split at hrest
  · simp only [String.toList_append, String.toList_ofList, List.append_assoc] at hrest
    exact absurd hrest.of_append_left (not_sameText_padded (by omega) (by decide) (by omega))
  · simp only [String.toList_append, String.toList_ofList, List.append_assoc] at hrest
    exact absurd hrest.of_append_left (not_sameText_padded (by omega) (by decide) hlt)

theorem isInMillis_of_eq {t : Instant} (h : t.exactText = t.isoText) : t.IsInMillis := by
  have hsame : SameText .exact (t.isoText.toList ++ []) (t.exactText.toList ++ []) := by
    rw [h]
    exact .refl _ _
  exact isInMillis_of_sameText hsame

end Instant

namespace Value

/-! ## Instants as texts -/

mutual

/-- A value with the exact text of every instant in its place. -/
def received : Value → Value
  | array items => array (receivedItems items)
  | object fields => object (receivedFields fields)
  | time t => string t.exactText
  | v => v

/-- Every item as it is received. -/
def receivedItems : List Value → List Value
  | [] => []
  | item :: rest => item.received :: receivedItems rest

/-- Every field as it is received. -/
def receivedFields : List (String × Value) → List (String × Value)
  | [] => []
  | (name, item) :: rest => (name, item.received) :: receivedFields rest

end

theorem receivedItems_eq_map (items : List Value) : receivedItems items = items.map received := by
  induction items with
  | nil => rfl
  | cons item rest ih => rw [receivedItems, ih, List.map_cons]

theorem receivedFields_eq_map (fields : List (String × Value)) :
    receivedFields fields = fields.map fun field ↦ (field.1, field.2.received) := by
  induction fields with
  | nil => rfl
  | cons field rest ih => rw [receivedFields, ih, List.map_cons]

theorem names_receivedFields (fields : List (String × Value)) :
    Fields.names (receivedFields fields) = Fields.names fields := by
  rw [receivedFields_eq_map, Fields.names, List.map_map]
  rfl

/-- Nothing of the JSON of a value changes. -/
@[simp]
theorem toJson_received (v : Value) : v.received.toJson = v.toJson := by
  induction v using Value.induction with
  | array items ih =>
    rw [received, toJson, toJson, itemsToJson_eq_map, itemsToJson_eq_map, receivedItems_eq_map,
      List.map_map]
    exact congrArg Json.array (List.map_congr_left ih)
  | object fields ih =>
    rw [received, toJson, toJson, fieldsToJson_eq_map, fieldsToJson_eq_map, receivedFields_eq_map,
      List.map_map]
    refine congrArg Json.object (List.map_congr_left fun field hfield ↦ ?_)
    exact congrArg (Prod.mk field.1) (ih field.1 field.2 hfield)
  | _ => rfl

/-! ## Values that can be sent -/

/-- Whether a value can be sent: every instant is in a year from 0 to 9999 and no leap second, every
double is finite and named by its numeral, and the names of every object increase. -/
def isSendable (v : Value) : Bool :=
  v.every fun
    | float x => x.isFinite && (Numeral.ofDouble x).double = x
    | object fields => Fields.Increasing fields
    | time t => 0 ≤ t.date.year ∧ t.date.year ≤ 9999 ∧ t.nanos < 1000000000
    | _ => true

/-- A test is passed by what is received if another one is passed by what is sent. -/
theorem every_received {test other : Value → Bool}
    (h : ∀ v, test v = true → other v.received = true) (v : Value) (hv : v.every test = true) :
    v.received.every other = true := by
  induction v using Value.induction with
  | array items ih =>
    obtain ⟨htest, hitems⟩ := (every_array_iff _ _).1 hv
    refine (every_array_iff _ _).2 ⟨h _ htest, ?_⟩
    rw [receivedItems_eq_map, List.forall_mem_map]
    exact fun item hitem ↦ ih item hitem (hitems item hitem)
  | object fields ih =>
    obtain ⟨htest, hfields⟩ := (every_object_iff _ _).1 hv
    refine (every_object_iff _ _).2 ⟨h _ htest, ?_⟩
    rw [receivedFields_eq_map]
    intro name item hmem
    obtain ⟨field, hfield, heq⟩ := List.mem_map.1 hmem
    obtain ⟨rfl, rfl⟩ := Prod.mk.inj heq
    exact ih field.1 field.2 hfield (hfields field.1 field.2 hfield)
  | _ => exact h _ hv

theorem isOrdered_received {v : Value} (h : v.isSendable = true) : v.received.isOrdered = true := by
  refine every_received (fun v hv ↦ ?_) v h
  cases v with
  | object fields =>
    refine decide_eq_true ?_
    rw [Fields.Increasing, names_receivedFields]
    exact of_decide_eq_true hv
  | _ => rfl

theorem isExpressible_received {v : Value} (h : v.isSendable = true) :
    v.received.isExpressible = true := by
  refine every_received (fun v hv ↦ ?_) v h
  cases v with
  | float x => exact hv
  | _ => rfl

/-- A value that can be sent is read from its JSON as it is received. -/
theorem ofJson?_toJson_received {v : Value} (h : v.isSendable = true) :
    ofJson? v.toJson = some v.received := by
  rw [← toJson_received]
  exact ofJson?_toJson v.received (isOrdered_received h) (isExpressible_received h)

/-! ## Values without instants -/

/-- Whether a value holds no instant. -/
def isTimeless (v : Value) : Bool :=
  v.every fun
    | time _ => false
    | _ => true

theorem received_of_isTimeless {v : Value} (h : v.isTimeless = true) : v.received = v := by
  induction v using Value.induction with
  | array items ih =>
    have hitems := ((every_array_iff _ _).1 h).2
    have hsame : ∀ item ∈ items, item.received = item := fun item hitem ↦
      ih item hitem (hitems item hitem)
    rw [received, receivedItems_eq_map, List.map_congr_left hsame, List.map_id']
  | object fields ih =>
    have hfields := ((every_object_iff _ _).1 h).2
    have hsame : ∀ field ∈ fields, (field.1, field.2.received) = field := fun field hfield ↦
      congrArg (Prod.mk field.1) (ih field.1 field.2 hfield (hfields field.1 field.2 hfield))
    rw [received, receivedFields_eq_map, List.map_congr_left hsame, List.map_id']
  | time t => cases h
  | _ => rfl

/-- No instant is received. -/
@[simp]
theorem instant?_received (v : Value) : v.received.instant? = none := by
  cases v <;> rfl

/-! ## Stored values -/

theorem itemsToBson_eq_map (items : List Value) : itemsToBson items = items.map toBson := by
  induction items with
  | nil => rfl
  | cons item rest ih => rw [itemsToBson, ih, List.map_cons]

theorem fieldsToBson_eq_map (fields : List (String × Value)) :
    fieldsToBson fields = fields.map fun field ↦ (field.1, field.2.toBson) := by
  induction fields with
  | nil => rfl
  | cons field rest ih => rw [fieldsToBson, ih, List.map_cons]

end Value

namespace Bson

variable {α : Type} {f g : α → Bson}

theorem sameItems_map_iff {items : List α} :
    sameItems (items.map f) (items.map g) = true ↔ ∀ item ∈ items, (f item).same (g item) = true := by
  induction items with
  | nil => simp [sameItems]
  | cons item rest ih =>
    rw [List.map_cons, List.map_cons, sameItems, Bool.and_eq_true, ih, List.forall_mem_cons]

theorem sameFields_iff {fields : List (String × Bson)} {other : Document} :
    sameFields fields other = true ↔
      ∀ name a, (name, a) ∈ fields → ∃ b, Fields.get? name other = some b ∧ a.same b = true := by
  induction fields with
  | nil => simp [sameFields]
  | cons field rest ih =>
    obtain ⟨name, a⟩ := field
    rw [sameFields, Bool.and_eq_true, ih, Fields.forall_mem_cons]
    refine and_congr_left fun _ ↦ ?_
    cases Fields.get? name other <;> simp

theorem same_document_map_iff {fields : List (String × α)} (h : Fields.Distinct fields) :
    (document (fields.map fun field ↦ (field.1, f field.2))).same
        (document (fields.map fun field ↦ (field.1, g field.2))) = true ↔
      ∀ name item, (name, item) ∈ fields → (f item).same (g item) = true := by
  have hnames : Fields.Distinct (fields.map fun field ↦ (field.1, g field.2)) := by
    rw [Fields.Distinct, Fields.names, List.map_map]
    exact h
  have hget (name : String) (item : α) (hitem : (name, item) ∈ fields) :
      Fields.get? name (fields.map fun field ↦ (field.1, g field.2)) = some (g item) :=
    Fields.get?_of_mem hnames (List.mem_map.2 ⟨(name, item), hitem, rfl⟩)
  rw [same, List.length_map, List.length_map, beq_self_eq_true, Bool.true_and, sameFields_iff]
  constructor
  · intro hsame name item hitem
    obtain ⟨b, hb, hab⟩ := hsame name (f item) (List.mem_map.2 ⟨_, hitem, rfl⟩)
    rw [hget name item hitem] at hb
    exact Option.some.inj hb ▸ hab
  · intro hsame name a hmem
    obtain ⟨field, hfield, heq⟩ := List.mem_map.1 hmem
    obtain ⟨rfl, rfl⟩ := Prod.mk.inj heq
    exact ⟨g field.2, hget field.1 field.2 hfield, hsame field.1 field.2 hfield⟩

theorem same_ofInt (n : Int64) : (ofInt n).same (ofInt n) = true := by
  unfold ofInt
  split <;> exact beq_self_eq_true _

theorem same_double {x : Double} (h : x.isNaN = false) : (double x).same (double x) = true := by
  obtain ⟨rank, hrank⟩ := Double.exists_rank h
  rw [same, Double.same, Double.compare?, hrank]
  simp

end Bson

namespace Value

/-- A value that can be sent is equal to itself for a store. -/
theorem same_toBson {v : Value} (h : v.isSendable = true) : v.toBson.same v.toBson = true := by
  induction v using Value.induction with
  | null => rfl
  | bool b => exact beq_self_eq_true b
  | int n => exact Bson.same_ofInt n
  | float x => exact Bson.same_double (Double.isNaN_of_isFinite (Bool.and_eq_true_iff.1 h).1)
  | string s => exact beq_self_eq_true s
  | time t => exact beq_self_eq_true t.millis
  | array items ih =>
    have hitems := ((every_array_iff _ _).1 h).2
    rw [toBson, itemsToBson_eq_map, Bson.same, Bson.sameItems_map_iff]
    exact fun item hitem ↦ ih item hitem (hitems item hitem)
  | object fields ih =>
    obtain ⟨hincreasing, hfields⟩ := (every_object_iff _ _).1 h
    rw [toBson, fieldsToBson_eq_map,
      Bson.same_document_map_iff (Fields.Increasing.distinct (of_decide_eq_true hincreasing))]
    exact fun name item hitem ↦ ih name item hitem (hfields name item hitem)

/-- A value is equal to what is received of it only if it holds no instant. -/
theorem isTimeless_of_same {v : Value} (h : v.isSendable = true)
    (hsame : v.toBson.same v.received.toBson = true) : v.isTimeless = true := by
  induction v using Value.induction with
  | array items ih =>
    have hitems := ((every_array_iff _ _).1 h).2
    rw [received, toBson, toBson, itemsToBson_eq_map, itemsToBson_eq_map, receivedItems_eq_map,
      List.map_map, Bson.same, Bson.sameItems_map_iff] at hsame
    refine (every_array_iff _ _).2 ⟨rfl, fun item hitem ↦ ?_⟩
    exact ih item hitem (hitems item hitem) (hsame item hitem)
  | object fields ih =>
    obtain ⟨hincreasing, hfields⟩ := (every_object_iff _ _).1 h
    have hdistinct := Fields.Increasing.distinct (of_decide_eq_true hincreasing)
    rw [received, toBson, toBson, fieldsToBson_eq_map, fieldsToBson_eq_map, receivedFields_eq_map,
      List.map_map] at hsame
    have hsame := (Bson.same_document_map_iff hdistinct (g := fun item ↦ item.received.toBson)).1 hsame
    refine (every_object_iff _ _).2 ⟨rfl, fun name item hitem ↦ ?_⟩
    exact ih name item hitem (hfields name item hitem) (hsame name item hitem)
  | time t => cases hsame
  | _ => rfl

/-! ## Texts -/

theorem isAbsent_received (v : Value) : v.received.isAbsent = v.isAbsent := by
  cases v with
  | time t =>
    have hne := t.exactText_ne_empty
    exact beq_false_of_ne (by simpa using hne)
  | _ => rfl

/-- The text of an object is its JSON. -/
theorem text_received_object (fields : List (String × Value)) :
    (object fields).received.text = (object fields).text := by
  have hjson := toJson_received (object fields)
  rw [received, toJson, toJson] at hjson
  rw [received, text, text, hjson]

/-- The texts of a value and of what is received of it, whatever follows them, have the same characters
only if they are equal. -/
theorem text_received_of_sameText {rule : Text.CaseRule} {v : Value} {back behind : List Char}
    (h : SameText rule (v.text.toList ++ back) (v.received.text.toList ++ behind)) :
    v.received.text = v.text ∧ SameText rule back behind := by
  induction v using Value.induction generalizing back behind with
  | array items ih =>
    rw [received, text, text] at h ⊢
    induction items with
    | nil => exact ⟨rfl, h⟩
    | cons item rest ihrest =>
      obtain ⟨hitem, hitems⟩ := List.forall_mem_cons.1 ih
      cases rest with
      | nil => exact hitem h
      | cons next more =>
        simp only [receivedItems, itemsText, String.toList_append, List.append_assoc] at h
        obtain ⟨htext, hbehind⟩ := hitem h
        obtain ⟨hmore, hdone⟩ := ihrest hitems (SameText.of_append_left hbehind)
        refine ⟨?_, hdone⟩
        simp only [receivedItems, itemsText] at hmore ⊢
        rw [htext, hmore]
  | time t =>
    have hmillis := Instant.isInMillis_of_sameText h
    have htext := Instant.isoText_eq_exactText hmillis
    rw [received, text, text, ← htext] at h ⊢
    exact ⟨rfl, h.of_append_left⟩
  | object fields _ =>
    rw [text_received_object] at h ⊢
    exact ⟨rfl, h.of_append_left⟩
  | _ => exact ⟨rfl, h.of_append_left⟩

end Value

end DocQuery
