import DocQuery.Proofs.Filter.Distinction
import DocQuery.Proofs.Time.TextOrder

/-!
# Bounds on Dates

A bound of the declared type `date` whose value names an instant asks for the dates on one side of it,
with or without the instant itself, down to the millisecond.  It says so to a store of native dates and
to one that keeps texts: the text of an instant is less than another exactly if its milliseconds are.

The texts have to be of the years 0 to 9999, because others begin with a sign, and of no leap seconds,
whose texts show the second `60` while their milliseconds run into the next second.
-/

namespace DocQuery

namespace DateBound

/-- Whether a bound is one of the type `date` whose value names an instant. -/
structure IsAt (b : DateBound) (bound : Instant) : Prop where
  valueType : b.valueType = .date
  instantOf : instantOf? b.date = some bound

/-- Whether a number of milliseconds lies on the side of a bound that it selects. -/
def admits (b : DateBound) (bound millis : Int) : Bool :=
  match b.side, b.inclusive with
  | .before, false => millis < bound
  | .before, true => millis ≤ bound
  | .after, false => bound < millis
  | .after, true => bound ≤ millis

variable {b : DateBound} {bound t : Instant} {field : Option Bson} {doc : Document}

theorem IsAt.operand_native (h : b.IsAt bound) : b.operand .native = .dateTime bound.millis := by
  unfold operand
  rw [if_neg (not_not_intro h.valueType), h.instantOf]
  rfl

theorem IsAt.operand_isoText (h : b.IsAt bound) : b.operand .isoText = .string bound.isoText := by
  unfold operand
  rw [if_neg (not_not_intro h.valueType), h.instantOf]

/-- The comparison of a bound admits what lies on its side. -/
theorem holds_comparator {operand : Bson} {n m : Int}
    (h : fieldCompare? field operand = some (compare m n)) :
    b.comparator.holds field operand = b.admits n m := by
  unfold comparator admits
  rw [Bool.eq_iff_iff]
  cases b.side <;> cases b.inclusive <;>
    simp only [Comparator.holds, h, Bool.or_eq_true, beq_iff_eq, Option.some.injEq,
      Int.compare_eq_lt, Int.compare_eq_eq, Int.compare_eq_gt, decide_eq_true_eq] <;>
    omega

theorem IsAt.fieldCompare?_native (h : b.IsAt bound) (millis : Int) :
    fieldCompare? (some (.dateTime millis)) (b.operand .native) =
      some (compare millis bound.millis) := by
  rw [h.operand_native]
  rfl

/-- A bound asks a native date for its side. -/
theorem IsAt.matches_native (h : b.IsAt bound) (hkey : isOperatorName b.key = false) {millis : Int}
    (hdoc : Fields.get? b.key doc = some (.dateTime millis)) :
    Document.matches doc (b.clause .native).toDocument = .ok (b.admits bound.millis millis) := by
  rw [clause, MatchTree.toDocument, matches_single doc hkey, fieldMatches_compare, hdoc,
    holds_comparator (h.fieldCompare?_native millis)]

/-- Two renderings of a bound are read alike where their comparisons agree, also under the name of an
operator. -/
theorem matches_clause_congr {other : Document} {dates rendering : DateRendering}
    (h : b.comparator.holds (Fields.get? b.key doc) (b.operand dates) =
      b.comparator.holds (Fields.get? b.key other) (b.operand rendering)) :
    Document.matches doc (b.clause dates).toDocument =
      Document.matches other (b.clause rendering).toDocument := by
  have hcondition (value : Bson) (items : List Bson) :
      (Condition.compare b.comparator value).toBson ≠ .array items := nofun
  rw [clause, clause, MatchTree.toDocument, MatchTree.toDocument, matches_singleton,
    matches_singleton, conditionPasses_of_not_array (hcondition _),
    conditionPasses_of_not_array (hcondition _), fieldMatches_compare, fieldMatches_compare, h]

/-- In the years 0 to 9999 and beside leap seconds, a bound that is rendered as a text selects the text
of an instant exactly if the native bound selects the native date.  Both ask on which side of the bound
the instant is. -/
theorem selects_text_iff_native (hb : b.IsAt bound)
    (hboundYear : 0 ≤ bound.date.year ∧ bound.date.year ≤ 9999) (hboundNanos : bound.nanos < 1000000000)
    (hyear : 0 ≤ t.date.year ∧ t.date.year ≤ 9999) (hnanos : t.nanos < 1000000000)
    {textual native : Document} (htextual : Fields.get? b.key textual = some (.string t.isoText))
    (hnative : Fields.get? b.key native = some t.toBson) :
    Document.matches textual (b.clause .isoText).toDocument =
        Document.matches native (b.clause .native).toDocument ∧
      (isOperatorName b.key = false →
        Document.matches native (b.clause .native).toDocument =
          .ok (b.admits bound.millis t.millis)) := by
  refine ⟨matches_clause_congr ?_, fun hkey ↦ hb.matches_native hkey hnative⟩
  have htext : fieldCompare? (some (.string t.isoText)) (b.operand .isoText) =
      some (compare t.millis bound.millis) := by
    rw [hb.operand_isoText, ← Instant.compare_isoText hyear hboundYear hnanos hboundNanos]
    rfl
  rw [htextual, hnative, holds_comparator htext]
  exact (holds_comparator (hb.fieldCompare?_native t.millis)).symm

/-- A time before 1970, down to a fraction of a millisecond, and an inclusive bound at its millisecond
that is named with an offset. -/
theorem selects_text_iff_native_before1970 :
    let t : Instant := { seconds := -1, nanos := 999900000 }
    let b : DateBound :=
      { side := .before, key := "at", date := .string "1970-01-01T01:59:59.999+02:00", inclusive := true }
    Document.matches [("at", .string t.isoText)] (b.clause .isoText).toDocument =
        Document.matches [("at", t.toBson)] (b.clause .native).toDocument ∧
      Document.matches [("at", t.toBson)] (b.clause .native).toDocument = .ok true := by
  intro t b
  let bound : Instant := { seconds := -1, nanos := 999000000 }
  have hb : b.IsAt bound := ⟨rfl, by decide +kernel⟩
  have hside : b.admits bound.millis t.millis = true := by decide
  have htextual : Fields.get? b.key [("at", Bson.string t.isoText)] = some (.string t.isoText) := rfl
  have hnative : Fields.get? b.key [("at", t.toBson)] = some t.toBson := rfl
  obtain ⟨hsame, hadmits⟩ := selects_text_iff_native hb (by decide) (by decide) (by decide) (by decide)
    htextual hnative
  exact ⟨hsame, hside ▸ hadmits (by decide)⟩

end DateBound

end DocQuery
