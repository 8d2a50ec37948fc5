import DocQuery.Proofs.Store.Identity

/-!
# Sorting

A field comes before another if its kind does or, among numbers, texts, truth values and instants, if
its value is less; numbers of all widths are compared as doubles.  Missing and null fields come first,
and no two documents, no two arrays and no two values of the kinds that come last are told apart.  Fields
that hold a NaN have no place.

A sort document lists fields and their directions.  The main statement is that documents without a NaN
in these fields are sorted: the result has the same documents, none comes after one that it precedes,
and documents that the sort does not tell apart keep their order.
-/

namespace DocQuery

open Std (TransCmp OrientedCmp)

/-! ## The order of fields -/

/-- The place of a number in the order of doubles; there is none for a NaN and for other values. -/
def Bson.rank? (b : Bson) : Option Int := b.number?.bind Double.rank?

/-- A field comes strictly before another: it is of an earlier kind, or of the same kind with a lesser
value. -/
inductive FieldPrecedes : Option Bson → Option Bson → Prop
  | kind {a b : Option Bson} (h : kindRank a < kindRank b) : FieldPrecedes a b
  | number {a b : Bson} {r s : Int} (ha : a.rank? = some r) (hb : b.rank? = some s) (h : r < s) :
      FieldPrecedes (some a) (some b)
  | text {s t : String} (h : s < t) : FieldPrecedes (some (.string s)) (some (.string t))
  | truth : FieldPrecedes (some (.bool false)) (some (.bool true))
  | instant {m n : Int} (h : m < n) : FieldPrecedes (some (.dateTime m)) (some (.dateTime n))

/-- Whether a field has a place in the order: it holds no NaN. -/
def IsPlaced (field : Option Bson) : Prop := ∀ x, field = some (.double x) → x.isNaN = false

/-- Whether a field is of one of the kinds whose values are not told apart. -/
def IsUnordered (field : Option Bson) : Prop := kindRank field ∈ [0, 3, 4, 7]

/-- Two fields of one kind. -/
inductive SameKind : Option Bson → Option Bson → Prop
  | number {a b : Bson} {r s : Int} (ha : a.rank? = some r) (hb : b.rank? = some s) :
      SameKind (some a) (some b)
  | text (s t : String) : SameKind (some (.string s)) (some (.string t))
  | truth (x y : Bool) : SameKind (some (.bool x)) (some (.bool y))
  | instant (m n : Int) : SameKind (some (.dateTime m)) (some (.dateTime n))
  | unordered {a b : Option Bson} (ha : IsUnordered a) (hb : IsUnordered b) : SameKind a b

theorem Bson.kindRank_of_rank? {b : Bson} {r : Int} (h : b.rank? = some r) :
    kindRank (some b) = 1 := by
  cases b <;> first | rfl | cases h

section
variable {field : Option Bson}

theorem exists_text (h : kindRank field = 2) : ∃ s, field = some (.string s) := by
  cases field with
  | none => cases h
  | some b => cases b <;> first | exact ⟨_, rfl⟩ | cases h

theorem exists_truth (h : kindRank field = 5) : ∃ x, field = some (.bool x) := by
  cases field with
  | none => cases h
  | some b => cases b <;> first | exact ⟨_, rfl⟩ | cases h

theorem exists_instant (h : kindRank field = 6) : ∃ m, field = some (.dateTime m) := by
  cases field with
  | none => cases h
  | some b => cases b <;> first | exact ⟨_, rfl⟩ | cases h

/-- A number that has a place has a rank. -/
theorem IsPlaced.exists_rank? (h : IsPlaced field) (hkind : kindRank field = 1) :
    ∃ b r, field = some b ∧ b.rank? = some r := by
  have hrank (b : Bson) (x : Double) (hnumber : b.number? = some x) (hx : x.isNaN = false) :
      ∃ c r, some b = some c ∧ c.rank? = some r := by
    obtain ⟨r, hr⟩ := Double.exists_rank hx
    exact ⟨b, r, rfl, by rw [Bson.rank?, hnumber, Option.bind_some, hr]⟩
  cases field with
  | none => cases hkind
  | some b =>
    cases b with
    | int32 n => exact hrank _ _ rfl (Double.isNaN_ofInt n.toInt)
    | int64 n => exact hrank _ _ rfl (Double.isNaN_ofInt n.toInt)
    | double x => exact hrank _ _ rfl (h x rfl)
    | _ => cases hkind

theorem kindRank_cases (field : Option Bson) :
    kindRank field = 1 ∨ kindRank field = 2 ∨ kindRank field = 5 ∨ kindRank field = 6 ∨
      IsUnordered field := by
  cases field with
  | none => simp [IsUnordered, kindRank]
  | some b => cases b <;> simp [IsUnordered, kindRank]

end

/-- Two fields with places are of one kind if the ranks of their kinds are the same. -/
theorem IsPlaced.sameKind {a b : Option Bson} (ha : IsPlaced a) (hb : IsPlaced b)
    (h : kindRank a = kindRank b) : SameKind a b := by
  rcases kindRank_cases a with hnumber | htext | htruth | hinstant | hunordered
  · obtain ⟨a, r, rfl, hr⟩ := ha.exists_rank? hnumber
    obtain ⟨b, s, rfl, hs⟩ := hb.exists_rank? (h.symm.trans hnumber)
    exact .number hr hs
  · obtain ⟨s, rfl⟩ := exists_text htext
    obtain ⟨t, rfl⟩ := exists_text (h.symm.trans htext)
    exact .text s t
  · obtain ⟨x, rfl⟩ := exists_truth htruth
    obtain ⟨y, rfl⟩ := exists_truth (h.symm.trans htruth)
    exact .truth x y
  · obtain ⟨m, rfl⟩ := exists_instant hinstant
    obtain ⟨n, rfl⟩ := exists_instant (h.symm.trans hinstant)
    exact .instant m n
  · exact .unordered hunordered (h ▸ hunordered : kindRank b ∈ [0, 3, 4, 7])

/-! ## Places -/

/-- The number that decides between fields of one kind. -/
def placeNumber : Option Bson → Int
  | some (.bool x) => x.toNat
  | some (.dateTime millis) => millis
  | some b => b.rank?.getD 0
  | none => 0

/-- The text that decides between fields of one kind. -/
def placeText : Option Bson → String
  | some (.string s) => s
  | _ => ""

/-- The order of the places of two fields. -/
def placeOrder : Option Bson → Option Bson → Ordering :=
  compareLex (compareOn kindRank) (compareLex (compareOn placeNumber) (compareOn placeText))

instance : TransCmp placeOrder := inferInstanceAs (TransCmp (compareLex _ _))

theorem placeOrder_eq (a b : Option Bson) :
    placeOrder a b = (compare (kindRank a) (kindRank b)).then
      ((compare (placeNumber a) (placeNumber b)).then (compare (placeText a) (placeText b))) := rfl

theorem place_of_rank? {b : Bson} {r : Int} (h : b.rank? = some r) :
    placeNumber (some b) = r ∧ placeText (some b) = "" := by
  cases b <;> first
    | exact ⟨congrArg (Option.getD · 0) h, rfl⟩
    | cases h

theorem IsUnordered.place {field : Option Bson} (h : IsUnordered field) :
    placeNumber field = 0 ∧ placeText field = "" := by
  cases field with
  | none => exact ⟨rfl, rfl⟩
  | some b =>
    cases b with
    | bool | int32 | int64 | double | string | dateTime => simp [IsUnordered, kindRank] at h
    | _ => exact ⟨rfl, rfl⟩

/-- Values of kinds that are not told apart are compared as if they were the same. -/
theorem IsUnordered.compare?_getD {a : Bson} (h : IsUnordered (some a)) (b : Bson) :
    (a.compare? b).getD .eq = .eq := by
  cases a with
  | bool | int32 | int64 | double | string | dateTime => simp [IsUnordered, kindRank] at h
  | _ =>
    simp only [Bson.compare?, Bson.number?]
    split <;> rfl

/-- Fields are sorted by their places. -/
theorem fieldOrder_eq_placeOrder {a b : Option Bson} (ha : IsPlaced a) (hb : IsPlaced b) :
    fieldOrder a b = placeOrder a b := by
  rw [placeOrder_eq]
  unfold fieldOrder
  by_cases hkind : kindRank a = kindRank b
  · rw [if_neg (by simp [hkind]), hkind, Std.compare_self, Ordering.eq_then]
    cases ha.sameKind hb hkind with
    | @number a b r s hr hs =>
      obtain ⟨x, hx, hxr⟩ := Option.bind_eq_some_iff.1 hr
      obtain ⟨y, hy, hys⟩ := Option.bind_eq_some_iff.1 hs
      obtain ⟨hnumber, htext⟩ := place_of_rank? hr
      obtain ⟨hnumber', htext'⟩ := place_of_rank? hs
      rw [hnumber, htext, hnumber', htext', Std.compare_self, Ordering.then_eq]
      simp only [Bson.compare?_of_number? hx hy hxr hys, Option.getD_some]
    | text s t => rfl
    | truth x y => cases x <;> cases y <;> rfl
    | instant m n => exact (Ordering.then_eq ..).symm
    | unordered ha hb =>
      rw [ha.place.1, ha.place.2, hb.place.1, hb.place.2]
      cases a with
      | none => rfl
      | some a =>
        cases b with
        | none => rfl
        | some b => exact ha.compare?_getD b
  · rw [if_pos hkind]
    have hne : compare (kindRank a) (kindRank b) ≠ .eq := mt Std.compare_eq_iff_eq.1 hkind
    cases horder : compare (kindRank a) (kindRank b) with
    | eq => exact absurd horder hne
    | lt => rfl
    | gt => rfl

theorem compare_text_eq_lt {s t : String} : compare s t = .lt ↔ s < t := compareOfLessAndEq_eq_lt

/-- A field precedes another if its place comes first. -/
theorem placeOrder_eq_lt_iff {a b : Option Bson} (ha : IsPlaced a) (hb : IsPlaced b) :
    placeOrder a b = .lt ↔ FieldPrecedes a b := by
  rw [placeOrder_eq]
  constructor
  · intro h
    by_cases hkind : kindRank a = kindRank b
    · rw [hkind, Std.compare_self, Ordering.eq_then] at h
      cases ha.sameKind hb hkind with
      | @number a b r s hr hs =>
        obtain ⟨hnumber, htext⟩ := place_of_rank? hr
        obtain ⟨hnumber', htext'⟩ := place_of_rank? hs
        rw [hnumber, htext, hnumber', htext', Std.compare_self, Ordering.then_eq] at h
        exact .number hr hs (Std.compare_eq_lt.1 h)
      | text s t => exact .text (compare_text_eq_lt.1 h)
      | truth x y =>
        cases x <;> cases y <;> first | exact .truth | exact absurd h (by decide)
      | instant m n => exact .instant (Std.compare_eq_lt.1 ((Ordering.then_eq ..).symm.trans h))
      | unordered ha hb =>
        rw [ha.place.1, ha.place.2, hb.place.1, hb.place.2] at h
        exact absurd h (by decide)
    · rw [Ordering.then_eq_lt] at h
      exact .kind (Std.compare_eq_lt.1 (h.resolve_right fun heq ↦ hkind (Std.compare_eq_iff_eq.1 heq.1)))
  · intro h
    cases h with
    | kind h => rw [Std.compare_eq_lt.2 h, Ordering.lt_then]
    | @number a b r s hr hs h =>
      obtain ⟨hnumber, -⟩ := place_of_rank? hr
      obtain ⟨hnumber', -⟩ := place_of_rank? hs
      rw [Bson.kindRank_of_rank? hr, Bson.kindRank_of_rank? hs, hnumber, hnumber', Std.compare_self,
        Ordering.eq_then, Std.compare_eq_lt.2 h, Ordering.lt_then]
    | text h => exact compare_text_eq_lt.2 h
    | truth => rfl
    | @instant m n h =>
      have hmillis : compare m n = .lt := Std.compare_eq_lt.2 h
      exact congrArg (Ordering.then · _) hmillis

/-! ## The order of documents -/

/-- Whether a number is negative, as the direction of a sort that goes backwards. -/
def Bson.isNegative (direction : Bson) : Bool := direction.rank?.any (· < 0)

/-- Whether every field of a document is the direction of a sort: a number that is neither zero nor a
NaN. -/
def IsSortDocument (spec : Document) : Prop :=
  ∀ field ∈ spec, ∃ r, field.2.rank? = some r ∧ r ≠ 0

/-- The sort key of a field of a sort document. -/
def sortKey (field : String × Bson) : DocumentSortKey where
  field := field.1
  isDescending := field.2.isNegative

/-- A field comes strictly before another in a direction. -/
def FieldPrecedesIn (direction : Bson) (a b : Option Bson) : Prop :=
  if direction.isNegative then FieldPrecedes b a else FieldPrecedes a b

/-- A document comes strictly before another: the first field of the sort document that tells them apart
does. -/
def DocumentPrecedes : Document → Document → Document → Prop
  | [], _, _ => False
  | (name, direction) :: rest, a, b =>
    FieldPrecedesIn direction (Fields.get? name a) (Fields.get? name b) ∨
      ¬FieldPrecedesIn direction (Fields.get? name b) (Fields.get? name a) ∧
        DocumentPrecedes rest a b

/-- Whether a document has a place in a sort: no field that it is sorted by holds a NaN. -/
def HasPlace (spec doc : Document) : Prop := ∀ field ∈ spec, IsPlaced (Fields.get? field.1 doc)

/-- The order of the places of two fields in a direction. -/
def directedOrder (isDescending : Bool) (a b : Option Bson) : Ordering :=
  if isDescending then placeOrder b a else placeOrder a b

instance (isDescending : Bool) : TransCmp (directedOrder isDescending) := by
  cases isDescending with
  | false => exact inferInstanceAs (TransCmp placeOrder)
  | true => exact inferInstanceAs (TransCmp fun a b ↦ placeOrder b a)

/-- The order of the places of two documents in a sort. -/
def documentPlaceOrder : Document → Document → Document → Ordering
  | [] => fun _ _ ↦ .eq
  | (name, direction) :: rest =>
    compareLex (fun a b ↦ directedOrder direction.isNegative (Fields.get? name a) (Fields.get? name b))
      (documentPlaceOrder rest)

instance (spec : Document) : TransCmp (documentPlaceOrder spec) := by
  induction spec with
  | nil => exact { eq_swap := rfl, isLE_trans := fun _ _ ↦ rfl }
  | cons field rest ih =>
    let order : Option Bson → Option Bson → Ordering := directedOrder field.2.isNegative
    have horder : TransCmp order := inferInstanceAs (TransCmp (directedOrder _))
    have hfirst : TransCmp fun a b : Document ↦
        order (Fields.get? field.1 a) (Fields.get? field.1 b) :=
      { eq_swap := horder.eq_swap, isLE_trans := horder.isLE_trans }
    exact inferInstanceAs (TransCmp (compareLex _ _))

theorem directedOrder_eq_lt_iff (direction : Bson) {a b : Option Bson} (ha : IsPlaced a)
    (hb : IsPlaced b) :
    directedOrder direction.isNegative a b = .lt ↔ FieldPrecedesIn direction a b := by
  unfold directedOrder FieldPrecedesIn
  split
  · exact placeOrder_eq_lt_iff hb ha
  · exact placeOrder_eq_lt_iff ha hb

section
variable {spec a b c : Document}

/-- A document precedes another if its place comes first. -/
theorem documentPlaceOrder_eq_lt_iff (ha : HasPlace spec a) (hb : HasPlace spec b) :
    documentPlaceOrder spec a b = .lt ↔ DocumentPrecedes spec a b := by
  induction spec with
  | nil => simp [documentPlaceOrder, DocumentPrecedes]
  | cons field rest ih =>
    obtain ⟨name, direction⟩ := field
    obtain ⟨ha, harest⟩ := List.forall_mem_cons.1 ha
    obtain ⟨hb, hbrest⟩ := List.forall_mem_cons.1 hb
    let order := directedOrder direction.isNegative (Fields.get? name a) (Fields.get? name b)
    have hlt : order = .lt ↔ _ := directedOrder_eq_lt_iff direction ha hb
    have hgt : order = .gt ↔ _ :=
      OrientedCmp.gt_iff_lt.trans (directedOrder_eq_lt_iff direction hb ha)
    change order.then (documentPlaceOrder rest a b) = .lt ↔ _
    rw [Ordering.then_eq_lt, ih harest hbrest, DocumentPrecedes, ← hlt, ← hgt]
    cases order <;> simp

/-- Documents are sorted by their places. -/
theorem documentOrder_eq_documentPlaceOrder (ha : HasPlace spec a) (hb : HasPlace spec b) :
    documentOrder (spec.map sortKey) a b = documentPlaceOrder spec a b := by
  induction spec with
  | nil => rfl
  | cons field rest ih =>
    obtain ⟨name, direction⟩ := field
    obtain ⟨ha, harest⟩ := List.forall_mem_cons.1 ha
    obtain ⟨hb, hbrest⟩ := List.forall_mem_cons.1 hb
    simp only [List.map_cons, documentOrder, ih harest hbrest, sortKey,
      fieldOrder_eq_placeOrder ha hb]
    change Ordering.then _ _ = Ordering.then _ _
    have hswap : (placeOrder (Fields.get? name a) (Fields.get? name b)).swap =
        placeOrder (Fields.get? name b) (Fields.get? name a) := OrientedCmp.eq_swap.symm
    rw [hswap]
    rfl

theorem DocumentPrecedes.asymm (h : DocumentPrecedes spec a b) (ha : HasPlace spec a)
    (hb : HasPlace spec b) : ¬DocumentPrecedes spec b a := by
  rw [← documentPlaceOrder_eq_lt_iff ha hb] at h
  rw [← documentPlaceOrder_eq_lt_iff hb ha]
  exact OrientedCmp.not_lt_of_lt h

/-- A document that does not precede another precedes none that the other does not. -/
theorem DocumentPrecedes.neg_trans (hab : ¬DocumentPrecedes spec a b)
    (hbc : ¬DocumentPrecedes spec b c) (ha : HasPlace spec a) (hb : HasPlace spec b)
    (hc : HasPlace spec c) : ¬DocumentPrecedes spec a c := by
  rw [← documentPlaceOrder_eq_lt_iff ha hb, ← Ordering.isGE_iff_ne_lt] at hab
  rw [← documentPlaceOrder_eq_lt_iff hb hc, ← Ordering.isGE_iff_ne_lt] at hbc
  rw [← documentPlaceOrder_eq_lt_iff ha hc, ← Ordering.isGE_iff_ne_lt]
  exact TransCmp.isGE_trans hab hbc

end

/-! ## Sort keys -/

theorem ofField_eq_ok {name : String} {direction : Bson} {r : Int} (hr : direction.rank? = some r)
    (hzero : r ≠ 0) : DocumentSortKey.ofField name direction = .ok (sortKey (name, direction)) := by
  obtain ⟨x, hx, hxr⟩ := Option.bind_eq_some_iff.1 hr
  have hcompare : (direction.number?.bind fun x ↦ x.compare? .zero) = some (compare r 0) := by
    rw [hx, Option.bind_some, Double.compare?, hxr]
    rfl
  have hnegative : direction.isNegative = decide (r < 0) := by
    rw [Bson.isNegative, hr]
    rfl
  unfold DocumentSortKey.ofField sortKey
  rw [hcompare]
  rcases Int.lt_or_gt_of_ne hzero with hlt | hgt
  · rw [Int.compare_eq_lt.2 hlt, hnegative, decide_eq_true hlt]
  · rw [Int.compare_eq_gt.2 hgt, hnegative, decide_eq_false (Int.lt_asymm hgt)]

/-- Every sort document is accepted. -/
theorem sortKeys_eq_ok {spec : Document} (h : IsSortDocument spec) :
    sortKeys spec = .ok (spec.map sortKey) := by
  unfold sortKeys
  induction spec with
  | nil => rfl
  | cons field rest ih =>
    obtain ⟨⟨r, hr, hzero⟩, hrest⟩ := List.forall_mem_cons.1 h
    rw [List.mapM_cons, ofField_eq_ok hr hzero, ih hrest]
    rfl

/-! ## Insertion -/

theorem insertFromEnd_perm (keys : List DocumentSortKey) (doc : Document) (sorted : List Document) :
    (insertFromEnd keys doc sorted).Perm (doc :: sorted) := by
  induction sorted with
  | nil => exact .refl _
  | cons last rest ih =>
    rw [insertFromEnd]
    split
    · exact (ih.cons last).trans (.swap doc last rest)
    · exact .refl _

/-- What was sorted before an insertion keeps its order. -/
theorem sublist_insertFromEnd (keys : List DocumentSortKey) (doc : Document)
    (sorted : List Document) : sorted.Sublist (insertFromEnd keys doc sorted) := by
  induction sorted with
  | nil => exact List.nil_sublist _
  | cons last rest ih =>
    rw [insertFromEnd]
    split
    · exact ih.cons_cons last
    · exact List.sublist_cons_self ..

/-- A document is inserted behind those that it does not precede. -/
theorem cons_sublist_insertFromEnd {keys : List DocumentSortKey} {doc : Document}
    {part sorted : List Document} (h : part.Sublist sorted)
    (hpart : ∀ x ∈ part, documentOrder keys doc x ≠ .lt) :
    (doc :: part).Sublist (insertFromEnd keys doc sorted) := by
  induction h with
  | slnil => exact List.Sublist.refl _
  | @cons part rest last h ih =>
    rw [insertFromEnd]
    split
    · exact (ih hpart).cons last
    · exact (h.cons last).cons_cons doc
  | @cons_cons part rest last h ih =>
    rw [insertFromEnd, if_neg (hpart last (List.mem_cons_self ..))]
    exact (h.cons_cons last).cons_cons doc

/-- Documents given from the last one on, none of which precedes one that is given after it. -/
def SortedFromEnd (spec : Document) (sorted : List Document) : Prop :=
  sorted.Pairwise fun a b ↦ ¬DocumentPrecedes spec a b

section
variable {spec : Document} {docs : List Document}

theorem documentOrder_eq_lt_iff {a b : Document} (ha : HasPlace spec a) (hb : HasPlace spec b) :
    documentOrder (spec.map sortKey) a b = .lt ↔ DocumentPrecedes spec a b := by
  rw [← documentPlaceOrder_eq_lt_iff ha hb, ← documentOrder_eq_documentPlaceOrder ha hb]

/-- An insertion keeps documents sorted. -/
theorem SortedFromEnd.insert {doc : Document} {sorted : List Document}
    (h : SortedFromEnd spec sorted) (hdoc : HasPlace spec doc)
    (hplaces : ∀ x ∈ sorted, HasPlace spec x) :
    SortedFromEnd spec (insertFromEnd (spec.map sortKey) doc sorted) := by
  induction sorted with
  | nil => exact List.pairwise_singleton ..
  | cons last rest ih =>
    obtain ⟨hlast, hrest⟩ := List.pairwise_cons.1 h
    obtain ⟨hplace, hplaces⟩ := List.forall_mem_cons.1 hplaces
    rw [insertFromEnd]
    split
    · rename_i hbefore
      rw [documentOrder_eq_lt_iff hdoc hplace] at hbefore
      refine List.pairwise_cons.2 ⟨?_, ih hrest hplaces⟩
      intro x hx
      rcases List.mem_cons.1 ((insertFromEnd_perm ..).mem_iff.1 hx) with rfl | hx
      · exact hbefore.asymm hdoc hplace
      · exact hlast x hx
    · rename_i hbehind
      rw [documentOrder_eq_lt_iff hdoc hplace] at hbehind
      refine List.pairwise_cons.2 ⟨?_, h⟩
      intro x hx
      rcases List.mem_cons.1 hx with rfl | hx
      · exact hbehind
      · exact DocumentPrecedes.neg_trans hbehind (hlast x hx) hdoc hplace (hplaces x hx)

/-! ## Sorting -/

/-- A list of documents sorted as a sort document says: the same documents, none after one that it
precedes, and every part that stands in order already, such as equal documents, in the order it had. -/
structure IsSorting (spec : Document) (docs sorted : List Document) : Prop where
  perm : sorted.Perm docs
  ordered : sorted.Pairwise fun a b ↦ ¬DocumentPrecedes spec b a
  stable : ∀ part : List Document, part.Sublist docs →
    (part.Pairwise fun a b ↦ ¬DocumentPrecedes spec b a) → part.Sublist sorted

/-- The documents inserted one after the other, the last one of them first. -/
def insertAll (keys : List DocumentSortKey) (docs : List Document) : List Document :=
  docs.foldr (insertFromEnd keys) []

theorem sortByKeys_eq (keys : List DocumentSortKey) (docs : List Document) :
    sortByKeys keys docs = (insertAll keys docs.reverse).reverse := by
  rw [sortByKeys, List.foldl_eq_foldr_reverse]
  rfl

theorem insertAll_perm (keys : List DocumentSortKey) (docs : List Document) :
    (insertAll keys docs).Perm docs := by
  induction docs with
  | nil => exact .refl _
  | cons doc rest ih => exact (insertFromEnd_perm ..).trans (ih.cons doc)

theorem sortedFromEnd_insertAll (hplaces : ∀ x ∈ docs, HasPlace spec x) :
    SortedFromEnd spec (insertAll (spec.map sortKey) docs) := by
  induction docs with
  | nil => exact .nil
  | cons doc rest ih =>
    obtain ⟨hdoc, hrest⟩ := List.forall_mem_cons.1 hplaces
    refine (ih hrest).insert hdoc ?_
    exact fun x hx ↦ hrest x ((insertAll_perm ..).mem_iff.1 hx)

theorem sublist_insertAll (hplaces : ∀ x ∈ docs, HasPlace spec x) {part : List Document}
    (h : part.Sublist docs) (hpart : SortedFromEnd spec part) :
    part.Sublist (insertAll (spec.map sortKey) docs) := by
  induction h with
  | slnil => exact List.Sublist.refl _
  | @cons part rest doc h ih =>
    obtain ⟨-, hrest⟩ := List.forall_mem_cons.1 hplaces
    exact (ih hrest hpart).trans (sublist_insertFromEnd ..)
  | @cons_cons part rest doc h ih =>
    obtain ⟨hdoc, hrest⟩ := List.forall_mem_cons.1 hplaces
    obtain ⟨hfirst, hpart⟩ := List.pairwise_cons.1 hpart
    refine cons_sublist_insertFromEnd (ih hrest hpart) fun x hx ↦ ?_
    rw [ne_eq, documentOrder_eq_lt_iff hdoc (hrest x (h.subset hx))]
    exact hfirst x hx

/-- Documents that have places are sorted as a sort document says. -/
theorem sortDocuments_eq_ok (hspec : IsSortDocument spec) (hplaces : ∀ x ∈ docs, HasPlace spec x) :
    ∃ sorted, sortDocuments docs spec = .ok sorted ∧ IsSorting spec docs sorted := by
  have hreversed : ∀ x ∈ docs.reverse, HasPlace spec x := by simpa using hplaces
  refine ⟨sortByKeys (spec.map sortKey) docs, ?_, ?_, ?_, ?_⟩
  · rw [sortDocuments, sortKeys_eq_ok hspec]
    rfl
  · rw [sortByKeys_eq]
    exact (List.reverse_perm _).trans ((insertAll_perm ..).trans (List.reverse_perm _))
  · rw [sortByKeys_eq, List.pairwise_reverse]
    exact sortedFromEnd_insertAll hreversed
  · intro part hpart hordered
    rw [sortByKeys_eq, ← List.reverse_sublist, List.reverse_reverse]
    refine sublist_insertAll hreversed (List.reverse_sublist.2 hpart) ?_
    exact List.pairwise_reverse.2 hordered

end

/-! ## Two documents in a sort -/

section
variable {spec a b : Document} {docs sorted : List Document}

/-- A document that precedes another comes first in a sort. -/
theorem IsSorting.sublist_of_precedes (h : IsSorting spec docs sorted) (ha : a ∈ docs) (hb : b ∈ docs)
    (hplaces : ∀ x ∈ docs, HasPlace spec x) (hprecedes : DocumentPrecedes spec a b) :
    [a, b].Sublist sorted := by
  obtain ⟨front, back, rfl⟩ := List.append_of_mem (h.perm.mem_iff.2 hb)
  rcases List.mem_append.1 (h.perm.mem_iff.2 ha) with hfront | hback
  · exact (List.singleton_sublist.2 hfront).append (List.singleton_sublist.2 (List.mem_cons_self ..))
  · exfalso
    rcases List.mem_cons.1 hback with rfl | hback
    · exact hprecedes.asymm (hplaces _ ha) (hplaces _ ha) hprecedes
    · obtain ⟨-, hordered, -⟩ := List.pairwise_append.1 h.ordered
      exact (List.pairwise_cons.1 hordered).1 a hback hprecedes

/-- Two documents that stand in order already are left so. -/
theorem IsSorting.sublist_of_not_precedes (h : IsSorting spec docs sorted) (hdocs : [a, b].Sublist docs)
    (hprecedes : ¬DocumentPrecedes spec b a) : [a, b].Sublist sorted :=
  h.stable _ hdocs (List.pairwise_pair.2 hprecedes)

end

end DocQuery
