import DocQuery.Proofs.Filter.DateBound
import DocQuery.Proofs.Number.Integer
import DocQuery.Proofs.Time.Truncation

/-!
# Spellings of a Date

The value of a bound names an instant directly, by its number of milliseconds as an integer or a double, or
by its ISO text.  A whole number of milliseconds of the years 0 to 9999 is below `2 ^ 53`, so it is exact
as a double, and its ISO text loses nothing.  All spellings of such an instant make the same clause.
-/

namespace DocQuery

namespace Instant

variable {ms : Int} {t : Instant}

/-! ## Whole milliseconds -/

/-- The years 0 to 9999 are within the reach of instants. -/
theorem exists_ofMillis? (hyear : 0 ≤ (Date.ofDays (ms / 86400000)).year ∧
    (Date.ofDays (ms / 86400000)).year ≤ 9999) : ∃ t, ofMillis? ms = some t := by
  have hdays := Date.days_bounds hyear
  have hreach : leastMillis ≤ ms ∧ ms ≤ greatestMillis := by
    unfold leastMillis greatestMillis
    omega
  unfold ofMillis?
  rw [if_pos hreach]
  exact ⟨_, rfl⟩

theorem eq_of_ofMillis? (h : ofMillis? ms = some t) :
    t.seconds = ms / 1000 ∧ t.nanos = (ms % 1000).toNat * 1000000 := by
  unfold ofMillis? at h
  split at h
  · obtain rfl := Option.some.inj h
    exact ⟨rfl, rfl⟩
  · exact absurd h (by simp)

theorem date_of_ofMillis? (h : ofMillis? ms = some t) : t.date = Date.ofDays (ms / 86400000) := by
  have hday : t.seconds / 86400 = ms / 86400000 := by
    rw [(eq_of_ofMillis? h).1]
    omega
  exact congrArg Date.ofDays hday

/-- A number of milliseconds is no leap second. -/
theorem isOnClock_of_ofMillis? (h : ofMillis? ms = some t) : t.IsOnClock := by
  have hnanos := (eq_of_ofMillis? h).2
  refine .inl ?_
  omega

theorem truncated_of_ofMillis? (h : ofMillis? ms = some t) : t.truncated = t := by
  have hnanos := (eq_of_ofMillis? h).2
  refine ext rfl ?_
  change t.nanos / 1000000 * 1000000 = t.nanos
  omega

/-! ## Spellings -/

/-- The values that name an instant of whole milliseconds. -/
def spellings (t : Instant) : List Value :=
  [.time t, .int (Int64.ofInt t.millis), .float (Double.ofInt t.millis), .string t.isoText]

/-- The value of the store that a bound at an instant compares with. -/
def rendered (t : Instant) : DateRendering → Bson
  | .native => t.toBson
  | .isoText => .string t.isoText

end Instant

namespace DateBound

variable {b : DateBound} {bound t : Instant} {ms : Int}

theorem IsAt.operand_eq (h : b.IsAt bound) (dates : DateRendering) :
    b.operand dates = bound.rendered dates := by
  cases dates with
  | native => exact h.operand_native
  | isoText => exact h.operand_isoText

/-- Every spelling of an instant names it. -/
theorem instantOf?_of_mem_spellings (h : Instant.ofMillis? ms = some t)
    (hyear : 0 ≤ t.date.year ∧ t.date.year ≤ 9999) {v : Value} (hv : v ∈ t.spellings) :
    instantOf? v = some t := by
  have hmillis := Instant.millis_of_ofMillis? h
  have hexact : ms.natAbs ≤ 2 ^ 53 := by
    have hbounds := Instant.seconds_bounds hyear
    have hseconds := (Instant.eq_of_ofMillis? h).1
    omega
  simp only [Instant.spellings, List.mem_cons, List.not_mem_nil, or_false] at hv
  rcases hv with rfl | rfl | rfl | rfl
  · rfl
  · have hint : (Int64.ofInt t.millis).toInt = ms := by
      rw [hmillis]
      exact Int64.toInt_ofInt_of_le (by omega) (by omega)
    rw [instantOf?, hint, h]
  · rw [instantOf?, hmillis, Double.isFinite_ofInt hexact, if_pos rfl, Double.saturate_ofInt hexact, h]
  · rw [instantOf?, (Instant.isOnClock_of_ofMillis? h).ofText?_isoText hyear,
      Instant.truncated_of_ofMillis? h]

/-- For a number of milliseconds of the years 0 to 9999, a bound makes the same clause of every spelling of
its instant. -/
theorem exists_clause_of_spellings (hyear : 0 ≤ (Date.ofDays (ms / 86400000)).year ∧
    (Date.ofDays (ms / 86400000)).year ≤ 9999) :
    ∃ t, Instant.ofMillis? ms = some t ∧ t.millis = ms ∧
      ∀ v ∈ t.spellings, ∀ (b : DateBound) (dates : DateRendering), b.valueType = .date →
        { b with date := v }.clause dates = .clause b.key (.compare b.comparator (t.rendered dates)) := by
  obtain ⟨t, h⟩ := Instant.exists_ofMillis? hyear
  refine ⟨t, h, Instant.millis_of_ofMillis? h, fun v hv b dates htype ↦ ?_⟩
  have hat : { b with date := v }.IsAt t :=
    ⟨htype, instantOf?_of_mem_spellings h ((Instant.date_of_ofMillis? h).symm ▸ hyear) hv⟩
  rw [clause, hat.operand_eq]
  rfl

/-- The last millisecond before 1970 in all its spellings, under an inclusive bound. -/
theorem clause_of_spellings_before1970 :
    let t : Instant := { seconds := -1, nanos := 999000000 }
    let bound (v : Value) : DateBound := { side := .before, key := "at", date := v, inclusive := true }
    t.spellings = [.time t, .int (-1), .float (Double.ofInt (-1)), .string "1969-12-31T23:59:59.999Z"] ∧
      ∀ v ∈ t.spellings,
        (bound v).clause .native = .clause "at" (.compare .lte (.dateTime (-1))) ∧
          (bound v).clause .isoText =
            .clause "at" (.compare .lte (.string "1969-12-31T23:59:59.999Z")) := by
  intro t bound
  have htext : t.isoText = "1969-12-31T23:59:59.999Z" := by decide +kernel
  obtain ⟨u, h, hmillis, hclause⟩ := @exists_clause_of_spellings (-1) (by decide)
  obtain rfl : u = t := Instant.ext (Instant.eq_of_ofMillis? h).1 (Instant.eq_of_ofMillis? h).2
  refine ⟨?_, fun v hv ↦ ⟨?_, ?_⟩⟩
  · rw [Instant.spellings, htext, hmillis]
    rfl
  · refine (hclause v hv (bound .null) .native rfl).trans ?_
    rw [Instant.rendered, Instant.toBson, hmillis]
    rfl
  · refine (hclause v hv (bound .null) .isoText rfl).trans ?_
    rw [Instant.rendered, htext]
    rfl

end DateBound

end DocQuery
