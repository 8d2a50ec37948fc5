import DocQuery.Proofs.Fields.Sorting
import DocQuery.Proofs.Value.Json

/-!
# Two Ways to Decode a Value

A value is decoded from a JSON text directly, or from the data that the text means by itself.  The direct
decoder tries the kinds of values in their order at every node and takes the first that reads it.  The data
have settled before what kind each number is and which of several members of one name counts.

Both give the same value or none, and none exactly where a part of the text has no value.  A numeral between
the greatest integer with sign and the greatest one without is where the two read a number by different
rules: as a numeral, whose significand is scaled by a power of ten, and as an integer, which is rounded.
The significand is this integer, and the power is one.

No instant is decoded.  A text is read as a text before the decoder comes to the kind of instants, whatever
texts that kind would accept.
-/

namespace DocQuery

/-! ## Numbers -/

namespace Numeral

variable {n : Numeral}

theorem isInteger_of_int? {k : Int64} (h : n.int? = some k) :
    n.isInteger = true ∧ n.whole < significandLimit := by
  have hlimit : significandLimit = 2 ^ 64 := rfl
  unfold int? at h
  rw [Option.ite_none_right_eq_some] at h
  simp only [Bool.and_eq_true, decide_eq_true_eq] at h
  obtain ⟨⟨⟨⟨hinteger, -⟩, hlow⟩, hhigh⟩, -⟩ := h
  refine ⟨hinteger, ?_⟩
  by_cases hnegative : n.negative = true
  · rw [if_pos hnegative] at hlow
    omega
  · rw [if_neg hnegative] at hhigh
    omega

theorem isFinite_double_of_int? {k : Int64} (h : n.int? = some k) : n.double.isFinite = true :=
  have hsome := isInteger_of_int? h
  (double_of_isInteger hsome.1 hsome.2).2

end Numeral

namespace JsonNumber

/-- A number is an integer without sign if it fits one, and else an integer with sign or a double. -/
theorem ofNumeral_cases (n : Numeral) :
    (n.isInteger = true ∧ n.negative = false ∧ n.whole < Numeral.significandLimit ∧
        ofNumeral n = natural (UInt64.ofNat n.whole)) ∨
      ofNumeral n = n.int?.elim (real n.double) negative := by
  unfold ofNumeral
  split
  · rename_i hnatural
    simp only [Bool.and_eq_true, Bool.not_eq_true', decide_eq_true_eq] at hnatural
    obtain ⟨⟨hinteger, hnegative⟩, hwhole⟩ := hnatural
    exact .inl ⟨hinteger, hnegative, hwhole, rfl⟩
  · right
    cases n.int? <;> rfl

/-- The integer of a number is that of its numeral. -/
theorem int?_ofNumeral (n : Numeral) : (ofNumeral n).int? = n.int? := by
  rcases ofNumeral_cases n with ⟨hinteger, hnegative, hwhole, hnumber⟩ | hnumber
  · have hnat : (UInt64.ofNat n.whole).toNat = n.whole := UInt64.toNat_ofNat_of_lt' hwhole
    have hword : (UInt64.ofNat n.whole).toInt64 = Int64.ofInt n.whole := by
      apply Int64.toBitVec_inj.1
      show BitVec.ofNat 64 n.whole = BitVec.ofInt 64 n.whole
      exact (BitVec.ofInt_natCast 64 n.whole).symm
    rw [hnumber]
    unfold int? Numeral.int?
    dsimp only
    rw [hnat, hword, hnegative, hinteger]
    simp only [Bool.false_eq_true, if_false, Bool.false_and, Bool.not_false, Bool.true_and,
      Bool.and_eq_true, decide_eq_true_eq]
    exact if_congr (by omega) rfl rfl
  · rw [hnumber]
    cases n.int? <;> rfl

/-- A number that is no integer of sixty-four bits with sign has the double of its numeral. -/
theorem double_ofNumeral {n : Numeral} (h : n.int? = none) : (ofNumeral n).double = n.double := by
  rcases ofNumeral_cases n with ⟨hinteger, hnegative, hwhole, hnumber⟩ | hnumber
  · have hnat : (UInt64.ofNat n.whole).toNat = n.whole := UInt64.toNat_ofNat_of_lt' hwhole
    have hpositive : decide ((n.whole : Int) < 0) = false := decide_eq_false (by omega)
    calc (ofNumeral n).double
        = Double.ofRatio (decide ((n.whole : Int) < 0)) n.whole 1 := by
          rw [hnumber, double, hnat]
          rfl
      _ = Double.ofRatio n.negative n.whole 1 := by rw [hpositive, hnegative]
      _ = n.double := (Numeral.double_of_isInteger hinteger hwhole).1.symm
  · rw [hnumber, h]
    rfl

end JsonNumber

namespace Value

/-! ## The kinds in their order -/

/-- A kind of values that a decoder can try. -/
inductive Alternative where
  | null
  | bool
  | int
  | float
  | string
  | array
  | object
  | time

namespace Alternative

/-- The kinds in the order in which they are tried. -/
def inOrder : List Alternative := [null, bool, int, float, string, array, object, time]

/-- The value that a tree is read as when one kind is tried.  A number is no longer a numeral by then, and
parts are decoded in the same way as the whole; `instantOf?` says which texts are read as instants. -/
def read? (instantOf? : String → Option Instant) : Alternative → Json → Option Value
  | null, .null => some .null
  | bool, .bool b => some (.bool b)
  | int, .number n =>
    if n.double.isFinite then (JsonNumber.ofNumeral n).int?.map .int else none
  | float, .number n =>
    if n.double.isFinite then some (.float (JsonNumber.ofNumeral n).double) else none
  | string, .string s => some (.string s)
  | array, .array items => (itemsOfJson? items).map .array
  | object, .object members => (fieldsOfJson? members).map ofFields
  | time, .string s => (instantOf? s).map .time
  | _, _ => none

end Alternative

theorem ofJson?_number (n : Numeral) :
    ofJson? (.number n) =
      if n.double.isFinite then
        some ((JsonNumber.ofNumeral n).int?.elim (float (JsonNumber.ofNumeral n).double) int)
      else none := by
  rw [ofJson?, JsonNumber.int?_ofNumeral]
  cases hint : n.int? with
  | some k => exact (if_pos (Numeral.isFinite_double_of_int? hint)).symm
  | none =>
    rw [JsonNumber.double_ofNumeral hint]
    rfl

/-- A value is decoded as the first kind that reads it. -/
theorem ofJson?_eq_findSome? (instantOf? : String → Option Instant) (tree : Json) :
    ofJson? tree = Alternative.inOrder.findSome? fun kind ↦ kind.read? instantOf? tree := by
  cases tree with
  | number n =>
    rw [ofJson?_number]
    simp only [Alternative.inOrder, List.findSome?_cons, Alternative.read?]
    by_cases hfinite : n.double.isFinite = true
    · rw [if_pos hfinite, if_pos hfinite, if_pos hfinite]
      cases (JsonNumber.ofNumeral n).int? <;> rfl
    · rw [if_neg hfinite, if_neg hfinite, if_neg hfinite]
      rfl
  | array items =>
    rw [ofJson?]
    simp only [Alternative.inOrder, List.findSome?_cons, Alternative.read?]
    cases itemsOfJson? items <;> rfl
  | object members =>
    rw [ofJson?]
    simp only [Alternative.inOrder, List.findSome?_cons, Alternative.read?]
    cases fieldsOfJson? members <;> rfl
  | _ => rfl

/-! ## Agreement -/

theorem fieldsOfData_eq_map (fields : List (String × JsonData)) :
    fieldsOfData fields = fields.map fun field ↦ (field.1, ofData field.2) := by
  induction fields with
  | nil => rfl
  | cons field rest ih => rw [fieldsOfData, ih, List.map_cons]

/-- Of several members of one name the last counts, before the members are converted or after. -/
theorem ofFields_putAll (fields : List (String × JsonData)) :
    ofFields (fieldsOfData (Fields.putAll [] fields)) = ofFields (fieldsOfData fields) := by
  rw [fieldsOfData_eq_map, fieldsOfData_eq_map, ofFields, ofFields, Fields.map_putAll]
  exact congrArg object (Fields.sorted_putAll _)

theorem itemsOfJson?_eq_map {items : List Json}
    (h : ∀ item ∈ items, ofJson? item = item.data?.map ofData) :
    itemsOfJson? items = (Json.itemsData? items).map itemsOfData := by
  induction items with
  | nil => rfl
  | cons item rest ih =>
    obtain ⟨hitem, hrest⟩ := List.forall_mem_cons.1 h
    rw [itemsOfJson?, Json.itemsData?, hitem, ih hrest]
    cases item.data? with
    | none => rfl
    | some data => cases Json.itemsData? rest <;> rfl

theorem fieldsOfJson?_eq_map {members : List (String × Json)}
    (h : ∀ name item, (name, item) ∈ members → ofJson? item = item.data?.map ofData) :
    fieldsOfJson? members = (Json.membersData? members).map fieldsOfData := by
  induction members with
  | nil => rfl
  | cons member rest ih =>
    obtain ⟨name, item⟩ := member
    obtain ⟨hitem, hrest⟩ := Fields.forall_mem_cons.1 h
    rw [fieldsOfJson?, Json.membersData?, hitem, ih hrest]
    cases item.data? with
    | none => rfl
    | some data => cases Json.membersData? rest <;> rfl

/-- A tree is decoded directly as its data are converted. -/
theorem ofJson?_eq_map_ofData (tree : Json) : ofJson? tree = tree.data?.map ofData := by
  induction tree using Json.induction with
  | number n =>
    rw [ofJson?_number, Json.data?]
    split
    · rw [Option.map_some, ofData]
      cases (JsonNumber.ofNumeral n).int? <;> rfl
    · rfl
  | array items ih =>
    rw [ofJson?, Json.data?, itemsOfJson?_eq_map ih, Option.map_map, Option.map_map]
    rfl
  | object members ih =>
    rw [ofJson?, Json.data?, fieldsOfJson?_eq_map ih, Option.map_map, Option.map_map]
    refine congrArg (fun convert ↦ Option.map convert _) (funext fun fields ↦ ?_)
    exact (ofFields_putAll fields).symm
  | _ => rfl

/-! ## What is decoded -/

theorem isSome_itemsOfJson? {items : List Json}
    (h : ∀ item ∈ items, (ofJson? item).isSome = item.isSound) :
    (itemsOfJson? items).isSome = Json.itemsSound items := by
  induction items with
  | nil => rfl
  | cons item rest ih =>
    obtain ⟨hitem, hrest⟩ := List.forall_mem_cons.1 h
    rw [itemsOfJson?, Json.itemsSound_cons, ← hitem, ← ih hrest]
    cases ofJson? item <;> cases itemsOfJson? rest <;> rfl

theorem isSome_fieldsOfJson? {members : List (String × Json)}
    (h : ∀ name item, (name, item) ∈ members → (ofJson? item).isSome = item.isSound) :
    (fieldsOfJson? members).isSome = Json.membersSound members := by
  induction members with
  | nil => rfl
  | cons member rest ih =>
    obtain ⟨name, item⟩ := member
    obtain ⟨hitem, hrest⟩ := Fields.forall_mem_cons.1 h
    rw [fieldsOfJson?, Json.membersSound_cons, ← hitem, ← ih hrest]
    cases ofJson? item <;> cases fieldsOfJson? rest <;> rfl

/-- A tree is decoded exactly if it is sound. -/
theorem isSome_ofJson? (tree : Json) : (ofJson? tree).isSome = tree.isSound := by
  induction tree using Json.induction with
  | number n =>
    rw [ofJson?_number, Json.isSound]
    cases n.double.isFinite <;> rfl
  | array items ih => rw [ofJson?, Option.isSome_map, isSome_itemsOfJson? ih, Json.isSound]
  | object members ih => rw [ofJson?, Option.isSome_map, isSome_fieldsOfJson? ih, Json.isSound]
  | _ => rfl

/-- Whether a value holds neither an instant nor a double that is not finite. -/
def isPlain (v : Value) : Bool :=
  v.every fun
    | float x => x.isFinite
    | time _ => false
    | _ => true

theorem exists_of_itemsOfJson? {items : List Json} {values : List Value}
    (h : itemsOfJson? items = some values) :
    ∀ v ∈ values, ∃ item ∈ items, ofJson? item = some v := by
  induction items generalizing values with
  | nil =>
    cases h
    exact fun v hv ↦ absurd hv List.not_mem_nil
  | cons item rest ih =>
    rw [itemsOfJson?] at h
    split at h
    · rename_i first others hfirst hothers
      cases h
      refine List.forall_mem_cons.2 ⟨⟨item, List.mem_cons_self .., hfirst⟩, fun v hv ↦ ?_⟩
      obtain ⟨other, hother, hread⟩ := ih hothers v hv
      exact ⟨other, List.mem_cons_of_mem _ hother, hread⟩
    · cases h

theorem exists_of_fieldsOfJson? {members : List (String × Json)} {fields : List (String × Value)}
    (h : fieldsOfJson? members = some fields) :
    ∀ name v, (name, v) ∈ fields → ∃ item, (name, item) ∈ members ∧ ofJson? item = some v := by
  induction members generalizing fields with
  | nil =>
    cases h
    exact fun name v hv ↦ absurd hv List.not_mem_nil
  | cons member rest ih =>
    obtain ⟨key, item⟩ := member
    rw [fieldsOfJson?] at h
    split at h
    · rename_i first others hfirst hothers
      cases h
      refine Fields.forall_mem_cons.2 ⟨⟨item, List.mem_cons_self .., hfirst⟩, fun name v hv ↦ ?_⟩
      obtain ⟨other, hother, hread⟩ := ih hothers name v hv
      exact ⟨other, List.mem_cons_of_mem _ hother, hread⟩
    · cases h

/-- Neither instants nor doubles that are not finite are decoded. -/
theorem isPlain_of_ofJson? {tree : Json} {v : Value} (h : ofJson? tree = some v) :
    v.isPlain = true := by
  induction tree using Json.induction generalizing v with
  | number n =>
    rw [ofJson?] at h
    split at h
    · cases h
      rfl
    · split at h
      · rename_i hfinite
        cases h
        exact hfinite
      · cases h
  | array items ih =>
    obtain ⟨values, hvalues, rfl⟩ := Option.map_eq_some_iff.1 h
    refine (every_array_iff _ _).2 ⟨rfl, fun v hv ↦ ?_⟩
    obtain ⟨item, hitem, hread⟩ := exists_of_itemsOfJson? hvalues v hv
    exact ih item hitem hread
  | object members ih =>
    obtain ⟨fields, hfields, rfl⟩ := Option.map_eq_some_iff.1 h
    refine (every_object_iff _ _).2 ⟨rfl, fun name v hv ↦ ?_⟩
    obtain ⟨item, hitem, hread⟩ :=
      exists_of_fieldsOfJson? hfields name v (Fields.sorted_subset fields hv)
    exact ih name item hitem hread
  | unreadable => cases h
  | _ =>
    cases h
    rfl

/-- A text is decoded directly as its data are converted.  Both succeed exactly if the text is JSON that
nests few enough arrays and objects and is sound, and what is decoded holds neither an instant nor a double
that is not finite.  The direct decoder takes the first kind that reads a tree, whatever texts are read as
instants. -/
theorem decoders_agree (source : String) :
    ofJsonText? source = (JsonData.ofText? source).map ofData ∧
      ((ofJsonText? source).isSome = true ↔
        ∃ tree, Json.ofText? source = some tree ∧ tree.depth ≤ Json.greatestDepth ∧
          tree.isSound = true) ∧
      (ofJsonText? source).all isPlain = true ∧
      ∀ (instantOf? : String → Option Instant) (tree : Json),
        ofJson? tree = Alternative.inOrder.findSome? fun kind ↦ kind.read? instantOf? tree := by
  unfold ofJsonText? JsonData.ofText?
  cases Json.ofText? source with
  | none => exact ⟨rfl, by simp, rfl, ofJson?_eq_findSome?⟩
  | some tree =>
    simp only [Option.bind_eq_bind, Option.bind_some, Option.some.injEq, exists_eq_left']
    by_cases hdepth : tree.depth ≤ Json.greatestDepth
    · rw [if_pos hdepth, if_pos hdepth, isSome_ofJson?]
      refine ⟨ofJson?_eq_map_ofData tree, (and_iff_right hdepth).symm, ?_, ofJson?_eq_findSome?⟩
      exact (Option.all_eq_true _ _).2 fun v hv ↦ isPlain_of_ofJson? hv
    · rw [if_neg hdepth, if_neg hdepth]
      exact ⟨rfl, iff_of_false Bool.false_ne_true fun h ↦ hdepth h.1, rfl, ofJson?_eq_findSome?⟩

end Value

end DocQuery
