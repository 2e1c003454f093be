import Patronage.Calendar.Date
/-!
# Moments

A moment is what a wall clock shows, to the microsecond, together with the clock's offset from UTC
if that is known.  The offset is fixed: it belongs to the clock and not to the date, as it would in a
zone whose clocks are set forward and back.  Two moments with known offsets are compared by the
instant they denote; a moment without an offset is comparable only with another such moment.  The
wall clock stays within the years 1 to 9999, and arithmetic that would leave them is refused.  Main
statements:

* `Moment.instant_toUtc` — moving to UTC keeps the instant;
* `Moment.utcMicros_of_add` — adding a span moves the instant by it;
* `Moment.wall_startOfDay_le`, `Moment.lt_wall_startOfDay_add` — the start of a day is the last
  midnight.
-/

namespace Patronage

namespace Calendar

/-- Microseconds in a second. -/
def microsPerSecond : Int := 1000000

/-- Microseconds in a minute. -/
def microsPerMinute : Int := 60 * microsPerSecond

/-- Microseconds in a day. -/
def microsPerDay : Int := 86400 * microsPerSecond

/-- The first wall clock reading, 0001-01-01T00:00:00, in microseconds since 1970. -/
def firstWall : Int := -62135596800000000

/-- The last wall clock reading, 9999-12-31T23:59:59.999999, in microseconds since 1970. -/
def lastWall : Int := 253402300799999999

/-- The longest span in days. -/
def maxSpanDays : Int := 999999999

/-- Why a computation on moments has no answer. -/
inductive TimeError
  /-- The result lies outside the years 1 to 9999, or a span is too long. -/
  | outOfRange
  /-- A moment with a known offset met one without. -/
  | mixedOffsets
  /-- A count of seconds denotes a year other than 1 to 9999. -/
  | noSuchYear
  /-- A count of seconds denotes a year whose number does not fit a calendar field. -/
  | unrepresentable
deriving DecidableEq, Repr

/-- A distance of a wall clock from UTC, in microseconds to the east. -/
structure Offset where
  micros : Int
  inRange : -microsPerDay < micros ∧ micros < microsPerDay
deriving DecidableEq

namespace Offset

/-- No distance from UTC. -/
def utc : Offset := ⟨0, by decide⟩

/-- The distance of a number of minutes to the east, if it is less than a day. -/
def ofMinutes? (minutes : Int) : Option Offset :=
  if h : -microsPerDay < minutes * microsPerMinute ∧ minutes * microsPerMinute < microsPerDay then
    some ⟨minutes * microsPerMinute, h⟩
  else none

end Offset

/-- Whether a distance of time is short enough to be a span. -/
def spanFits (micros : Int) : Bool :=
  -maxSpanDays ≤ micros / microsPerDay && micros / microsPerDay ≤ maxSpanDays

end Calendar

open Calendar

/-- A wall clock reading with the offset of the clock, which is never set, if known. -/
structure Moment where
  /-- The reading, in microseconds since 1970-01-01T00:00:00 on the same clock. -/
  wall : Int
  /-- The clock's distance from UTC, if known. -/
  offset : Option Offset
  inRange : firstWall ≤ wall ∧ wall ≤ lastWall
deriving DecidableEq

namespace Moment

/-- Midnight of 1970-01-01 in UTC. -/
def epoch : Moment := ⟨0, some .utc, by decide⟩

instance : Inhabited Moment := ⟨epoch⟩

/-- The moment with a given reading, if that is in range. -/
def ofWall (wall : Int) (offset : Option Offset) : Except TimeError Moment :=
  if h : firstWall ≤ wall ∧ wall ≤ lastWall then .ok ⟨wall, offset, h⟩ else .error .outOfRange

/-- The reading moved to UTC; a clock without an offset is taken to show UTC. -/
def utcMicros (m : Moment) : Int :=
  m.wall - (m.offset.map Offset.micros).getD 0

/-- The instant denoted, in microseconds since 1970 in UTC, if the offset is known. -/
def instant (m : Moment) : Option Int :=
  m.offset.map fun o => m.wall - o.micros

/-- The time from `earlier` to `later` in microseconds. -/
def since (later earlier : Moment) : Except TimeError Int :=
  match later.offset, earlier.offset with
  | some _, some _ | none, none => .ok (later.utcMicros - earlier.utcMicros)
  | _, _ => .error .mixedOffsets

/-- The moment a number of microseconds later on the same clock. -/
def add (m : Moment) (micros : Int) : Except TimeError Moment :=
  if spanFits micros then ofWall (m.wall + micros) m.offset else .error .outOfRange

/-- Whether a moment can be converted to UTC at all.  For a clock without an offset the day before is
looked at too, to see whether the clock was set back, so its very first day cannot. -/
def hasUtc (m : Moment) : Bool :=
  m.offset.isSome || firstWall + microsPerDay ≤ m.wall

/-- The same instant on a clock that shows UTC; a clock without an offset is taken to show UTC. -/
def toUtc (m : Moment) : Except TimeError Moment :=
  if m.hasUtc then ofWall m.utcMicros (some .utc) else .error .noSuchYear

/-- The last midnight up to a moment, on the same clock. -/
def startOfDay (m : Moment) : Moment where
  wall := m.wall / microsPerDay * microsPerDay
  offset := m.offset
  inRange := by
    have h := m.inRange
    simp only [firstWall, lastWall, microsPerDay, microsPerSecond] at *
    omega

/-- The last midnight in UTC up to a moment. -/
def truncateToDay (m : Moment) : Except TimeError Moment :=
  m.toUtc.map startOfDay

/-- The first and the last count of seconds since 1970 whose year fits a calendar field. -/
def calendarSeconds : Int × Int := (-67768040609740800, 67768036191676799)

/-- The moment a number of seconds after 1970 in UTC.  A count that does not fit 64 bits is out of
range, one whose year is not from 1 to 9999 denotes no moment. -/
def ofEpochSeconds (seconds : Int) : Except TimeError Moment :=
  if seconds < -0x8000000000000000 ∨ 0x8000000000000000 ≤ seconds then .error .outOfRange
  else if seconds < calendarSeconds.1 ∨ calendarSeconds.2 < seconds then .error .unrepresentable
  else (ofWall (seconds * microsPerSecond) (some .utc)).mapError fun _ => .noSuchYear

/-! ### Laws -/

theorem ofWall_eq_ok {wall : Int} {offset : Option Offset} {m : Moment}
    (h : ofWall wall offset = .ok m) : m.wall = wall ∧ m.offset = offset := by
  unfold ofWall at h
  split at h
  · cases h; exact ⟨rfl, rfl⟩
  · cases h

/-- Moving to UTC keeps the instant. -/
theorem instant_toUtc {m n : Moment} (h : m.toUtc = .ok n) : n.instant = some m.utcMicros := by
  unfold toUtc at h
  split at h
  · obtain ⟨hw, ho⟩ := ofWall_eq_ok h
    simp [instant, ho, hw, Offset.utc]
  · cases h

theorem utcMicros_of_instant {m : Moment} {i : Int} (h : m.instant = some i) : m.utcMicros = i := by
  obtain ⟨o, ho, rfl⟩ := Option.map_eq_some_iff.1 h
  simp [utcMicros, ho]

/-- Adding a span moves a clock by it, with an offset or without one. -/
theorem utcMicros_of_add {m n : Moment} {d : Int} (h : m.add d = .ok n) :
    n.utcMicros = m.utcMicros + d := by
  unfold add at h
  split at h
  · obtain ⟨hw, ho⟩ := ofWall_eq_ok h
    simp only [utcMicros, hw, ho]
    omega
  · cases h

theorem offset_of_add {m n : Moment} {d : Int} (h : m.add d = .ok n) : n.offset = m.offset := by
  unfold add at h
  split at h
  · exact (ofWall_eq_ok h).2
  · cases h

theorem hasUtc_of_isSome {m : Moment} (h : m.offset.isSome) : m.hasUtc = true := by
  rw [hasUtc, h, Bool.true_or]

/-- The start of a day is no later than any moment of it. -/
theorem wall_startOfDay_le (m : Moment) : m.startOfDay.wall ≤ m.wall := by
  simp only [startOfDay, microsPerDay, microsPerSecond]
  omega

/-- Every moment of a day comes before the next midnight. -/
theorem lt_wall_startOfDay_add (m : Moment) : m.wall < m.startOfDay.wall + microsPerDay := by
  simp only [startOfDay, microsPerDay, microsPerSecond]
  omega

end Moment

end Patronage
