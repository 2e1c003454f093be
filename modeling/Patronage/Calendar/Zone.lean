import Patronage.Calendar.Moment
/-!
# Zones

The clocks of a zone may be set forward and back.  How far they are from UTC then depends on what
they show and, where they show a time twice, on which of the two is meant.  A `ZonedTime` is what
such a clock shows.  Times of one zone are compared by what its clocks show, times of two zones by
the instants; a span is added to what the clock shows.  A `Moment` is a time of a zone whose clocks
are never set.  Main statements:

* `ZonedTime.since_add` — a span that was added is the time that has passed on the clock;
* `Moment.since_zoned`, `Moment.add_zoned`, `Moment.toUtc_zoned` — on clocks that are never set, zoned
  times are calculated with as moments are.
-/

namespace Patronage

namespace Calendar

/-- How far the clocks of a zone are from UTC from some reading on. -/
structure OffsetChange where
  /-- The first reading, in microseconds since 1970-01-01T00:00:00 on the same clock. -/
  wall : Int
  /-- The offset when a reading is shown for the first time. -/
  first : Offset
  /-- The offset when a reading is shown again. -/
  again : Offset
deriving DecidableEq

/-- A zone: how far its clocks are from UTC. -/
structure Zone where
  /-- Zones of different names are different zones, even if their clocks show the same. -/
  name : String
  /-- The offset before the first change. -/
  initial : Offset
  /-- The changes in the order of their readings. -/
  changes : List OffsetChange
deriving DecidableEq

namespace Zone

/-- The zone with clocks that are never set. -/
def fixed (o : Offset) : Zone := ⟨"fixed", o, []⟩

/-- The offset of clocks that show a reading for the first time or again. -/
def offsetAt (z : Zone) (wall : Int) (again : Bool) : Offset :=
  match (z.changes.filter (·.wall ≤ wall)).getLast? with
  | none => z.initial
  | some c => if again then c.again else c.first

@[simp] theorem offsetAt_fixed (o : Offset) (wall : Int) (again : Bool) :
    (fixed o).offsetAt wall again = o := rfl

theorem fixed_inj {o o' : Offset} : fixed o = fixed o' ↔ o = o' :=
  ⟨fun h => congrArg initial h, congrArg fixed⟩

end Zone

end Calendar

open Calendar

/-- What a clock shows, with the clock's zone, if known. -/
@[ext] structure ZonedTime where
  /-- The reading, in microseconds since 1970-01-01T00:00:00 on the same clock. -/
  wall : Int
  /-- The clock shows the reading again, as it was set back after the first time. -/
  again : Bool
  zone : Option Zone
  inRange : firstWall ≤ wall ∧ wall ≤ lastWall

namespace ZonedTime

instance : DecidableEq ZonedTime := fun s t =>
  decidable_of_iff (s.wall = t.wall ∧ s.again = t.again ∧ s.zone = t.zone) ZonedTime.ext_iff.symm

/-- The first time that a clock shows a given reading, if that is in range. -/
def ofWall (wall : Int) (zone : Option Zone) : Except TimeError ZonedTime :=
  if h : firstWall ≤ wall ∧ wall ≤ lastWall then .ok ⟨wall, false, zone, h⟩ else .error .outOfRange

/-- The clock's distance from UTC, if known. -/
def offset (t : ZonedTime) : Option Offset :=
  t.zone.map fun z => z.offsetAt t.wall t.again

/-- The reading moved to UTC; a clock without a zone is taken to show UTC. -/
def utcMicros (t : ZonedTime) : Int :=
  t.wall - (t.offset.map Offset.micros).getD 0

/-- The instant denoted, in microseconds since 1970 in UTC, if the zone is known. -/
def instant (t : ZonedTime) : Option Int :=
  t.offset.map fun o => t.wall - o.micros

/-- The time from `earlier` to `later` in microseconds: by what the clocks show within a zone, else
between the instants. -/
def since (later earlier : ZonedTime) : Except TimeError Int :=
  if later.zone = earlier.zone then .ok (later.wall - earlier.wall)
  else
    match later.zone, earlier.zone with
    | some _, some _ => .ok (later.utcMicros - earlier.utcMicros)
    | _, _ => .error .mixedOffsets

/-- The time at which the clock shows a number of microseconds more. -/
def add (t : ZonedTime) (micros : Int) : Except TimeError ZonedTime :=
  if spanFits micros then ofWall (t.wall + micros) t.zone else .error .outOfRange

/-- The same instant on a clock that shows UTC; a clock without a zone is taken to show UTC. -/
def toUtc (t : ZonedTime) : Except TimeError Moment :=
  if t.zone.isSome || firstWall + microsPerDay ≤ t.wall then
    Moment.ofWall t.utcMicros (some .utc)
  else .error .noSuchYear

/-- The last midnight in UTC up to a time. -/
def truncateToDay (t : ZonedTime) : Except TimeError Moment :=
  t.toUtc.map Moment.startOfDay

/-! ### Laws -/

variable {s t : ZonedTime} {d : Int}

theorem utcMicros_of_instant {i : Int} (h : t.instant = some i) : t.utcMicros = i := by
  obtain ⟨o, ho, rfl⟩ := Option.map_eq_some_iff.1 h
  simp [utcMicros, ho]

theorem add_eq_ok (h : t.add d = .ok s) :
    s.wall = t.wall + d ∧ s.again = false ∧ s.zone = t.zone := by
  unfold add at h
  split at h
  · unfold ofWall at h
    split at h
    · cases h
      exact ⟨rfl, rfl, rfl⟩
    · cases h
  · cases h

theorem since_of_zone_eq (h : s.zone = t.zone) : s.since t = .ok (s.wall - t.wall) := if_pos h

/-- A span that was added is the time that has passed on the clock. -/
theorem since_add (h : t.add d = .ok s) : s.since t = .ok d := by
  obtain ⟨hwall, -, hzone⟩ := add_eq_ok h
  rw [since_of_zone_eq hzone, hwall, Int.add_comm, Int.add_sub_cancel]

/-- Moving to UTC keeps the instant. -/
theorem toUtc_eq_ok {m : Moment} (h : t.toUtc = .ok m) :
    m.utcMicros = t.utcMicros ∧ m.offset = some .utc := by
  unfold toUtc at h
  split at h
  · obtain ⟨hwall, hoffset⟩ := Moment.ofWall_eq_ok h
    exact ⟨by simp [Moment.utcMicros, hwall, hoffset, Offset.utc], hoffset⟩
  · cases h

end ZonedTime

/-! ### Clocks that are never set -/

namespace Moment

/-- A moment as a time of a zone whose clocks are never set. -/
def zoned (m : Moment) : ZonedTime := ⟨m.wall, false, m.offset.map Zone.fixed, m.inRange⟩

variable (m n : Moment)

@[simp] theorem wall_zoned : m.zoned.wall = m.wall := rfl

@[simp] theorem zone_zoned : m.zoned.zone = m.offset.map Zone.fixed := rfl

@[simp] theorem offset_zoned : m.zoned.offset = m.offset := by
  simp [ZonedTime.offset, Option.map_map, Function.comp_def]

@[simp] theorem utcMicros_zoned : m.zoned.utcMicros = m.utcMicros := by
  rw [ZonedTime.utcMicros, offset_zoned, wall_zoned, utcMicros]

@[simp] theorem instant_zoned : m.zoned.instant = m.instant := by
  rw [ZonedTime.instant, offset_zoned, wall_zoned, instant]

/-- Between clocks that are never set as much time passes as between the instants. -/
@[simp] theorem since_zoned : m.zoned.since n.zoned = m.since n := by
  unfold ZonedTime.since since
  rw [zone_zoned, zone_zoned]
  cases hm : m.offset with
  | none => cases hn : n.offset <;> simp [utcMicros, hm, hn]
  | some o =>
    cases hn : n.offset with
    | none => simp
    | some o' =>
      simp only [Option.map_some, Option.some.injEq, Zone.fixed_inj, utcMicros_zoned, wall_zoned]
      split
      · rename_i h
        obtain rfl := h
        simp only [utcMicros, hm, hn, Except.ok.injEq]
        omega
      · rfl

@[simp] theorem add_zoned (d : Int) : m.zoned.add d = zoned <$> m.add d := by
  unfold ZonedTime.add add
  split
  · unfold ZonedTime.ofWall ofWall
    rw [wall_zoned, zone_zoned]
    split <;> rfl
  · rfl

@[simp] theorem toUtc_zoned : m.zoned.toUtc = m.toUtc := by
  unfold ZonedTime.toUtc toUtc hasUtc
  rw [zone_zoned, Option.isSome_map, utcMicros_zoned, wall_zoned]

@[simp] theorem truncateToDay_zoned : m.zoned.truncateToDay = m.truncateToDay := by
  rw [ZonedTime.truncateToDay, toUtc_zoned, truncateToDay]

end Moment

end Patronage
