import DocQuery.Proofs.Time.Reading

/-!
# Instants Down to the Millisecond

The ISO text of an instant leaves out what lies below a millisecond.  Read back, it names the instant with
its nanoseconds truncated, and this one has the same text again.

A leap second is no exception where there can be one: at the end of a minute a clock shows it as `:60`, and
that is read as a leap second.  Anywhere else more than a full second of nanoseconds shows as the next
second, and this next second is what the text names.
-/

namespace DocQuery.Instant

open Text

/-- Instants are the same if their seconds and nanoseconds are. -/
@[ext]
theorem ext {t u : Instant} (hseconds : t.seconds = u.seconds) (hnanos : t.nanos = u.nanos) : t = u := by
  cases t
  cases u
  cases hseconds
  cases hnanos
  rfl

/-- An instant without what lies below a millisecond. -/
def truncated (t : Instant) : Instant where
  seconds := t.seconds
  nanos := t.nanos / 1000000 * 1000000
  nanos_lt := by
    have hnanos := t.nanos_lt
    omega

/-- The next second, in which the nanoseconds beyond a full one are left. -/
def nextSecond (t : Instant) : Instant where
  seconds := t.seconds + 1
  nanos := t.subsecond
  nanos_lt := by
    unfold subsecond
    omega

variable {t : Instant}

/-! ## What a text shows -/

/-- The ISO text does not show what is truncated. -/
theorem isoText_truncated (t : Instant) : t.truncated.isoText = t.isoText := by
  have hsecond : t.truncated.second = t.second := by
    unfold second secondOfDay truncated
    dsimp only
    omega
  have hfraction : t.truncated.subsecond / 1000000 = t.subsecond / 1000000 := by
    unfold subsecond truncated
    dsimp only
    omega
  unfold isoText secondText
  rw [hsecond, hfraction]
  rfl

theorem not_isOnClock_iff : ¬t.IsOnClock ↔ 1000000000 ≤ t.nanos ∧ t.seconds % 60 ≠ 59 := by
  rw [IsOnClock, not_or, Nat.not_lt]

/-- Away from the end of a minute the next second is on the same day. -/
theorem date_nextSecond (h : ¬t.IsOnClock) : t.nextSecond.date = t.date := by
  have hminute := (not_isOnClock_iff.1 h).2
  have hday : (t.seconds + 1) / 86400 = t.seconds / 86400 := by omega
  exact congrArg Date.ofDays hday

/-- Away from the end of a minute the ISO text shows more than a second of nanoseconds as the next
second. -/
theorem isoText_nextSecond (h : ¬t.IsOnClock) : t.nextSecond.isoText = t.isoText := by
  obtain ⟨hnanos, hminuteEnd⟩ := not_isOnClock_iff.1 h
  have hlt := t.nanos_lt
  have hsecondOfDay : t.nextSecond.secondOfDay = t.secondOfDay + 1 ∧ t.secondOfDay % 60 ≠ 59 := by
    unfold secondOfDay nextSecond
    dsimp only
    omega
  have hhour : t.nextSecond.hour = t.hour := by
    unfold hour
    omega
  have hminute : t.nextSecond.minute = t.minute := by
    unfold minute
    omega
  have hsecond : t.nextSecond.second = t.second := by
    have hnone : t.nextSecond.nanos / 1000000000 = 0 := Nat.div_eq_of_lt (Nat.mod_lt _ (by decide))
    unfold second
    omega
  have hsubsecond : t.nextSecond.subsecond = t.subsecond := Nat.mod_mod ..
  unfold isoText secondText
  rw [date_nextSecond h, hhour, hminute, hsecond, hsubsecond]

/-! ## Reading a text back -/

/-- The ISO text of an instant on the clock names its truncation. -/
theorem IsOnClock.ofText?_isoText (hclock : t.IsOnClock)
    (hyear : 0 ≤ t.date.year ∧ t.date.year ≤ 9999) : ofText? t.isoText = some t.truncated := by
  have hlt : t.subsecond / 1000000 < 10 ^ 3 := by
    unfold subsecond
    omega
  have hnanos : t.subsecond / 1000000 * 10 ^ (9 - 3) < 1000000000 := by omega
  have hread := ofText?_of_fraction hyear hclock hnanos (reads_fraction_padded (by decide) hlt (by decide))
  have htruncated : t.withSubsecond _ hnanos = t.truncated := by
    refine ext rfl ?_
    change t.nanos / 1000000000 * 1000000000 + t.nanos % 1000000000 / 1000000 * 1000000 =
      t.nanos / 1000000 * 1000000
    omega
  have htext : t.isoText = t.secondText ++ ("." ++ padded 3 (t.subsecond / 1000000)) ++ "Z" := by
    rw [isoText, ← String.append_assoc]
  rw [htext, hread, htruncated]

/-- The ISO text of an instant of the years 0 to 9999 names an instant of the same text.  It is the truncation
of the first one if this is no leap second or one at the end of a minute, and only then; otherwise it is the
truncation of the next second. -/
theorem exists_ofText?_isoText (hyear : 0 ≤ t.date.year ∧ t.date.year ≤ 9999) :
    ∃ u, ofText? t.isoText = some u ∧ u.isoText = t.isoText ∧ (u = t.truncated ↔ t.IsOnClock) ∧
      (¬t.IsOnClock → u = t.nextSecond.truncated) := by
  by_cases hclock : t.IsOnClock
  · refine ⟨t.truncated, hclock.ofText?_isoText hyear, t.isoText_truncated, ?_, ?_⟩
    · exact iff_of_true rfl hclock
    · exact fun h ↦ absurd hclock h
  · have hnext : t.nextSecond.IsOnClock := .inl (Nat.mod_lt _ (by decide))
    refine ⟨t.nextSecond.truncated, ?_, ?_, ?_, fun _ ↦ rfl⟩
    · rw [← isoText_nextSecond hclock]
      exact hnext.ofText?_isoText ((date_nextSecond hclock).symm ▸ hyear)
    · rw [isoText_truncated, isoText_nextSecond hclock]
    · refine iff_of_false (fun heq ↦ ?_) hclock
      have hseconds : t.seconds + 1 = t.seconds := congrArg seconds heq
      omega

/-- The end of the leap second before 1970. -/
theorem ofText?_isoText_leapSecond :
    let t : Instant := { seconds := -1, nanos := 1999999999 }
    t.isoText = "1969-12-31T23:59:60.999Z" ∧
      ofText? t.isoText = some { seconds := -1, nanos := 1999000000 } := by
  intro t
  obtain ⟨u, hread, -, htruncated, -⟩ := exists_ofText?_isoText (t := t) (by decide)
  have hu : u = t.truncated := htruncated.2 (.inr rfl)
  refine ⟨by decide +kernel, ?_⟩
  rw [hread, hu]
  decide

/-- A leap second after the first second of a minute has the text of the second behind it, and is not read
back. -/
theorem isoText_offClock_not_readBack :
    let t : Instant := { seconds := 0, nanos := 1500000000 }
    t.isoText = "1970-01-01T00:00:01.500Z" ∧
      ofText? t.isoText = some { seconds := 1, nanos := 500000000 } ∧
        ofText? t.isoText ≠ some t.truncated := by
  decide +kernel

end DocQuery.Instant
