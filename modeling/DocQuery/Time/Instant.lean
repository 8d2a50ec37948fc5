import DocQuery.Time.Calendar

/-!
# Instants

An instant is a number of whole seconds since the start of 1970 in UTC and a number of nanoseconds.
A leap second is the second before it with a full second of nanoseconds added, so the nanoseconds
stay below two seconds.
-/

namespace DocQuery

/-- A point in time. -/
structure Instant where
  /-- Whole seconds since 1970-01-01T00:00:00Z. -/
  seconds : Int
  /-- Nanoseconds of the second; from one second on they belong to a leap second. -/
  nanos : Nat
  /-- A leap second is at most one second long. -/
  nanos_lt : nanos < 2000000000 := by decide
deriving DecidableEq

namespace Instant

/-- The milliseconds since 1970-01-01T00:00:00Z, rounded down. -/
def millis (t : Instant) : Int := t.seconds * 1000 + (t.nanos / 1000000 : Nat)

/-- The first millisecond that instants reach. -/
def leastMillis : Int := -8334601228800000

/-- The last millisecond that instants reach. -/
def greatestMillis : Int := 8210266876799999

/-- The instant of a number of milliseconds, if instants reach it. -/
def ofMillis? (ms : Int) : Option Instant :=
  if leastMillis ≤ ms ∧ ms ≤ greatestMillis then
    some
      { seconds := ms / 1000
        nanos := (ms % 1000).toNat * 1000000
        nanos_lt := by
          have := Int.emod_lt_of_pos ms (by decide : (0 : Int) < 1000)
          omega }
  else none

/-- The instant of a number of milliseconds has this number of milliseconds. -/
theorem millis_of_ofMillis? {ms : Int} {t : Instant} (h : ofMillis? ms = some t) :
    t.millis = ms := by
  unfold ofMillis? at h
  split at h
  · obtain rfl := Option.some.inj h
    have hnonneg := Int.emod_nonneg ms (by decide : (1000 : Int) ≠ 0)
    simp only [millis]
    omega
  · exact absurd h (by simp)

/-- The date of an instant in UTC. -/
def date (t : Instant) : Date := Date.ofDays (t.seconds / 86400)

/-- The second of the day, in UTC. -/
def secondOfDay (t : Instant) : Nat := (t.seconds % 86400).toNat

/-- The hour of the day. -/
def hour (t : Instant) : Nat := t.secondOfDay / 3600

/-- The minute of the hour. -/
def minute (t : Instant) : Nat := t.secondOfDay / 60 % 60

/-- The second of the minute, which is sixty in a leap second. -/
def second (t : Instant) : Nat := t.secondOfDay % 60 + t.nanos / 1000000000

/-- The nanoseconds since the start of the second or leap second. -/
def subsecond (t : Instant) : Nat := t.nanos % 1000000000

end Instant

/-- A reading of calendar and clock at a place that is `offset` seconds ahead of UTC. -/
structure LocalTime where
  date : Date
  hour : Nat := 0
  minute : Nat := 0
  second : Nat := 0
  nanos : Nat := 0
  offset : Int := 0

/-- The instant of a local time, if there is one: the fields must be in their ranges, with `60`
for a leap second after any minute, and both the local date and the instant must be within reach.
-/
def LocalTime.instant? (t : LocalTime) : Option Instant :=
  let second := min t.second 59
  let localSeconds := t.date.toDays * 86400 + (t.hour * 3600 + t.minute * 60 + second : Nat)
  let seconds := localSeconds - t.offset
  let nanos := if t.second = 60 then t.nanos + 1000000000 else t.nanos
  if t.date.isValid ∧ t.hour < 24 ∧ t.minute < 60 ∧ t.second ≤ 60 ∧
      Instant.leastMillis ≤ seconds * 1000 ∧ seconds * 1000 ≤ Instant.greatestMillis then
    if h : nanos < 2000000000 then some ⟨seconds, nanos, h⟩ else none
  else none

end DocQuery
