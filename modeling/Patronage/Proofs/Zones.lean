import Patronage.Calendar.Date
import Patronage.Calendar.Zone
/-!
# Elapsed time in zones

Times of one zone are compared by what its clocks show, times of two zones by the instants.  Where
clocks are set forward and back the two need not agree: the time from a first time to a third may
differ from the time to a second and from there on.  It does add up within a zone, and wherever no
clock was set in between.  Main statements:

* `ZonedTime.adds_of_zone_eq` — elapsed time adds up within a zone;
* `ZonedTime.adds_of_steady` — it adds up where clocks of one zone were not set in between;
* `ZonedTime.steady_zoned` — a clock that is never set was not set in between.
-/

namespace Patronage

open Calendar

namespace ZonedTime

/-- A time does not come before another, as the two are compared. -/
def NotBefore (later earlier : ZonedTime) : Prop := ∃ d, later.since earlier = .ok d ∧ 0 ≤ d

/-- The time from a first to a third is that to a second and from there on. -/
def Adds (r s t : ZonedTime) : Prop :=
  ∀ d e f, s.since r = .ok d → t.since s = .ok e → t.since r = .ok f → f = d + e

/-- If two times are of one zone, its clocks are as far from UTC at the one as at the other. -/
def Steady (s t : ZonedTime) : Prop := s.zone = t.zone → s.offset = t.offset

variable {r s t : ZonedTime} {d : Int}

/-- Times are compared if the zones are known of both or of neither. -/
theorem exists_since_iff : (∃ d, s.since t = .ok d) ↔ s.zone.isSome = t.zone.isSome := by
  unfold since
  by_cases h : s.zone = t.zone
  · simp [h]
  · cases hs : s.zone <;> cases ht : t.zone <;> simp_all

/-- Where no clock was set in between, as much time passes as between the instants. -/
theorem Steady.since_eq (h : s.Steady t) (hd : s.since t = .ok d) :
    d = s.utcMicros - t.utcMicros := by
  unfold since at hd
  split at hd
  · rename_i hzone
    rw [← Except.ok.inj hd, utcMicros, utcMicros, h hzone]
    omega
  · split at hd
    · exact (Except.ok.inj hd).symm
    · cases hd

theorem isSome_zone_of_instant {i : Int} (h : t.instant = some i) : t.zone.isSome := by
  have hknown : t.instant.isSome := h ▸ rfl
  simpa [instant, offset] using hknown

/-- Between times of known instants, no clock being set, the time from the one to the other has
elapsed. -/
theorem Steady.since_of_instant {i j : Int} (h : s.Steady t) (hs : s.instant = some i)
    (ht : t.instant = some j) : s.since t = .ok (i - j) := by
  have hzones : s.zone.isSome = t.zone.isSome := by
    rw [isSome_zone_of_instant hs, isSome_zone_of_instant ht]
  obtain ⟨d, hd⟩ := exists_since_iff.2 hzones
  rw [hd, h.since_eq hd, utcMicros_of_instant hs, utcMicros_of_instant ht]

/-- Elapsed time adds up within a zone. -/
theorem adds_of_zone_eq (hs : s.zone = r.zone) (ht : t.zone = r.zone) : Adds r s t := by
  intro d e f hd he hf
  rw [since_of_zone_eq hs] at hd
  rw [since_of_zone_eq (ht.trans hs.symm)] at he
  rw [since_of_zone_eq ht] at hf
  rw [← Except.ok.inj hd, ← Except.ok.inj he, ← Except.ok.inj hf]
  omega

/-- Elapsed time adds up where no clock was set in between. -/
theorem adds_of_steady (hrs : s.Steady r) (hst : t.Steady s) (hrt : t.Steady r) : Adds r s t := by
  intro d e f hd he hf
  rw [hrs.since_eq hd, hst.since_eq he, hrt.since_eq hf]
  omega

/-- A clock that is never set was not set in between. -/
theorem steady_zoned (t : ZonedTime) (m : Moment) : t.Steady m.zoned := by
  intro hzone
  rw [Moment.offset_zoned, offset, hzone, Moment.zone_zoned]
  simp [Option.map_map, Function.comp_def]

/-- What a clock shows is less than a day away from UTC. -/
theorem utcMicros_bounds (t : ZonedTime) :
    t.wall - microsPerDay < t.utcMicros ∧ t.utcMicros < t.wall + microsPerDay := by
  unfold utcMicros
  cases t.offset with
  | none =>
    simp only [Option.map_none, Option.getD_none, microsPerDay, microsPerSecond]
    omega
  | some o =>
    have ho := o.inRange
    simp only [Option.map_some, Option.getD_some]
    omega

/-- Any two times are less than the years 1 to 9999 and two days apart. -/
theorem lt_of_since (h : s.since t = .ok d) : d < lastWall - firstWall + 2 * microsPerDay := by
  have hs := s.inRange
  have ht := t.inRange
  have hsutc := s.utcMicros_bounds
  have htutc := t.utcMicros_bounds
  simp only [firstWall, lastWall, microsPerDay, microsPerSecond] at *
  unfold since at h
  split at h
  · have := Except.ok.inj h
    omega
  · split at h
    · have := Except.ok.inj h
      omega
    · cases h

end ZonedTime

/-- A clock that is never set is less than a day away from UTC. -/
theorem Moment.utcMicros_bounds (m : Moment) :
    m.wall - microsPerDay < m.utcMicros ∧ m.utcMicros < m.wall + microsPerDay := by
  simpa using m.zoned.utcMicros_bounds

namespace Sample

/-- A zone with one summer: its clocks are set forward by an hour when they show `forward`, and back
when they have shown the hour from `back` on. -/
def zoneWithSummer (name : String) (winter summer : Offset) (forward back : Int) : Zone where
  name := name
  initial := winter
  changes :=
    let hour := 60 * microsPerMinute
    [⟨forward, winter, summer⟩, ⟨forward + hour, summer, summer⟩, ⟨back, summer, winter⟩,
      ⟨back + hour, winter, winter⟩]

/-- What a clock shows on a date at an hour and a minute. -/
def wallAt (date : Date) (hour minute : Nat) : Int :=
  (date.ordinal - epochOrdinal : Int) * microsPerDay + (60 * hour + minute : Nat) * microsPerMinute

/-- The zone of New York in 2024. -/
def newYork : Zone :=
  zoneWithSummer "America/New_York" ⟨-5 * 60 * microsPerMinute, by decide⟩
    ⟨-4 * 60 * microsPerMinute, by decide⟩ (wallAt ⟨2024, 3, 10⟩ 2 0) (wallAt ⟨2024, 11, 3⟩ 1 0)

/-- The zone of Chisinau in 2021. -/
def chisinau : Zone :=
  zoneWithSummer "Europe/Chisinau" ⟨2 * 60 * microsPerMinute, by decide⟩
    ⟨3 * 60 * microsPerMinute, by decide⟩ (wallAt ⟨2021, 3, 28⟩ 2 0) (wallAt ⟨2021, 10, 31⟩ 2 0)

end Sample

end Patronage
