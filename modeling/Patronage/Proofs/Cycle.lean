import Patronage.Proofs.Expiry
import Patronage.Proofs.Rounding.Order
/-!
# Billing cycles tile time

The cycles of a subscription follow each other without gaps, and the count says which of them is
running.  It goes through rounded seconds and rounded milliseconds, so it may only be off near the
end of a cycle: it never is too low, and too high only long after the first cycle has started.  Main
statements:

* `Period.cycleAfter_mono` — the count never decreases;
* `Period.cycleAfter_eq` — in the first `2 ^ 33` seconds it is the exact quotient;
* `cycleBetween_tiles` — what the count says of any two times, in zones whose clocks may be set;
* `not_cycleBetween_tiles_of_noon` — a later time may have a smaller number if they are set.

The count goes by the time that has elapsed.  That does not add up between the clocks of a zone that
are set forward and the clocks of another zone.
-/

namespace Patronage

open Calendar

namespace Moment

/-- Moments of two clocks that can be compared: the offsets are known of both or of neither. -/
def Comparable (m n : Moment) : Prop := m.offset.isSome = n.offset.isSome

instance (m n : Moment) : Decidable (m.Comparable n) :=
  inferInstanceAs (Decidable (m.offset.isSome = n.offset.isSome))

theorem Comparable.since_eq {m n : Moment} (h : m.Comparable n) :
    m.since n = .ok (m.utcMicros - n.utcMicros) := by
  unfold Comparable at h
  unfold since
  cases hm : m.offset <;> cases hn : n.offset <;> simp [hm, hn] at h ⊢

theorem comparable_of_since {m n : Moment} {d : Int} (h : m.since n = .ok d) : m.Comparable n := by
  unfold since at h
  unfold Comparable
  cases hm : m.offset <;> cases hn : n.offset <;> simp [hm, hn] at h ⊢

end Moment

namespace Period

variable (p : Period)

theorem millis_pos : 0 < p.millis :=
  Nat.lt_of_lt_of_le (by decide) p.day_le_millis

/-- The count never decreases. -/
theorem cycleAfter_mono {m n : Nat} (h : m ≤ n) : p.cycleAfter m ≤ p.cycleAfter n :=
  Nat.add_le_add_right (Nat.div_le_div_right (roundedMillis_mono h)) 1

/-- In the first `2 ^ 33` seconds the count is the exact quotient. -/
theorem cycleAfter_eq {micros : Nat} (h : micros < 2 ^ 33 * 1000000) :
    p.cycleAfter micros = micros / (1000 * p.millis) + 1 := by
  refine Nat.le_antisymm ?_ ?_
  · have hcounted : roundedMillis micros ≤ micros / 1000 :=
      (Nat.le_div_iff_mul_le (by decide)).2 (Nat.mul_comm 1000 _ ▸ mul_roundedMillis_le h)
    unfold cycleAfter
    rw [← Nat.div_div_eq_div_mul]
    exact Nat.add_le_add_right (Nat.div_le_div_right hcounted) 1
  · -- the cycle that is counted has not ended
    have hbound : micros ≤ 1000 * wholeBound := by
      unfold wholeBound
      omega
    have hlt := p.lt_cycleAfter hbound
    refine Nat.succ_le_of_lt ((Nat.div_lt_iff_lt_mul (Nat.mul_pos (by decide) p.millis_pos)).2 ?_)
    rwa [Nat.mul_left_comm]

variable {p} {cycle : Nat} {d : Int}

/-- However many periods fit in a distance of time, as many cycles have ended before the one that is
counted. -/
theorem succ_le_cycleAfter (hbound : d ≤ 1000 * wholeBound) (hnonneg : 0 ≤ d) {k : Int}
    (hk : k * (1000 * p.millis) ≤ d) : k + 1 ≤ p.cycleAfter d.toNat := by
  have hlt : d < p.cycleAfter d.toNat * (1000 * p.millis) := by
    have hmillis : d.toNat < 1000 * (p.cycleAfter d.toNat * p.millis) :=
      p.lt_cycleAfter (by omega)
    rw [Int.mul_left_comm, ← Int.natCast_mul]
    generalize p.cycleAfter d.toNat * p.millis = total at hmillis ⊢
    omega
  have hpos : (0 : Int) < 1000 * p.millis := by
    have := p.millis_pos
    omega
  exact Int.add_one_le_of_lt (lt_of_mul_lt_mul_right (Int.lt_of_le_of_lt hk hlt) hpos.le)

/-- A distance of time from the start of the first cycle reaches into the cycle of a number. -/
structure Covers (p : Period) (d : Int) (cycle : Nat) : Prop where
  eq_div : (cycle : Int) = d / (1000 * p.millis) + 1
  started : ((cycle : Int) - 1) * (1000 * p.millis) ≤ d
  notEnded : d < cycle * (1000 * p.millis)

/-- In the first `2 ^ 33` seconds the count is exact. -/
theorem covers_cycleAfter (hnonneg : 0 ≤ d) (hspan : d < 2 ^ 33 * microsPerSecond) :
    p.Covers d (p.cycleAfter d.toNat) := by
  have hpos : (0 : Int) < 1000 * p.millis := by
    have := p.millis_pos
    omega
  have hdiv : (p.cycleAfter d.toNat : Int) = d / (1000 * p.millis) + 1 := by
    rw [p.cycleAfter_eq (by unfold microsPerSecond at hspan; omega)]
    push_cast
    rw [Int.toNat_of_nonneg hnonneg]
  refine ⟨hdiv, ?_, ?_⟩
  · rw [hdiv, Int.add_sub_cancel]
    exact Int.ediv_mul_le d hpos.ne'
  · rw [hdiv]
    exact Int.lt_ediv_add_one_mul_self d hpos

/-! ### Clocks that are never set -/

section Moments

variable {start now : Moment}

/-- The count at a moment that does not come before the first cycle. -/
theorem cyclesElapsed_of_le (hc : now.Comparable start) (hle : start.utcMicros ≤ now.utcMicros) :
    p.cyclesElapsed start now = .ok (p.cycleAfter (now.utcMicros - start.utcMicros).toNat) := by
  rw [cyclesElapsed_eq, hc.since_eq]
  exact if_neg (by omega)

theorem cyclesElapsed_eq_ok (h : p.cyclesElapsed start now = .ok cycle) :
    now.Comparable start ∧ start.utcMicros ≤ now.utcMicros ∧
      cycle = p.cycleAfter (now.utcMicros - start.utcMicros).toNat := by
  obtain ⟨d, hd, hnonneg, rfl⟩ := cycleBetween_eq_ok h
  rw [Moment.since_zoned] at hd
  obtain rfl := Moment.since_eq_ok hd
  exact ⟨Moment.comparable_of_since hd, by omega, rfl⟩

/-- The cycle that is counted as running at a moment is the one that the moment falls in. -/
structure Runs (p : Period) (start now : Moment) (cycle : Nat) : Prop where
  eq_div : (cycle : Int) = (now.utcMicros - start.utcMicros) / (1000 * p.millis) + 1
  started : start.utcMicros + (cycle - 1) * (1000 * p.millis) ≤ now.utcMicros
  notEnded : now.utcMicros < start.utcMicros + cycle * (1000 * p.millis)

theorem runs_of_cyclesElapsed (h : p.cyclesElapsed start now = .ok cycle)
    (hspan : now.utcMicros - start.utcMicros < 2 ^ 33 * microsPerSecond) :
    p.Runs start now cycle := by
  obtain ⟨-, hle, rfl⟩ := cyclesElapsed_eq_ok h
  obtain ⟨hdiv, hstarted, hnotEnded⟩ :=
    covers_cycleAfter (p := p) (d := now.utcMicros - start.utcMicros) (by omega) hspan
  exact ⟨hdiv, by omega, by omega⟩

end Moments

/-! ### Clocks that may be set -/

variable {start now : ZonedTime}

/-- The count at a time that does not come before the first cycle. -/
theorem cycleBetween_of_since (hd : now.since start = .ok d) (hnonneg : 0 ≤ d) :
    p.cycleBetween start now = .ok (p.cycleAfter d.toNat) := by
  unfold cycleBetween
  rw [hd]
  exact if_neg (by omega)

/-- What a number says as that of the cycle which runs at `now`, a distance of time after the first
cycle started: first by the time that has elapsed, then by the order of times. -/
structure Tiles (p : Period) (start now : ZonedTime) (d : Int) (cycle : Nat) : Prop where
  /-- After more time no smaller number is that of the cycle which runs. -/
  mono : ∀ later e, later.since start = .ok e → d ≤ e →
    ∃ cycle', p.cycleBetween start later = .ok cycle' ∧ cycle ≤ cycle'
  /-- After a number of periods the cycle that starts then is counted. -/
  notLate : ∀ k : Int, k * (1000 * p.millis) ≤ d → k + 1 ≤ cycle
  /-- In the first `2 ^ 33` seconds the number is exact. -/
  covers : d < 2 ^ 33 * microsPerSecond → p.Covers d cycle
  mono_of_adds : ∀ later, later.NotBefore now → start.Adds now later →
    ∃ cycle', p.cycleBetween start later = .ok cycle' ∧ cycle ≤ cycle'
  notLate_of_adds : ∀ (k : Int) reached, start.add (k * (1000 * p.millis)) = .ok reached →
    now.NotBefore reached → start.Adds reached now → k + 1 ≤ cycle
  started_of_adds : d < 2 ^ 33 * microsPerSecond →
    ∀ opens, start.add (((cycle : Int) - 1) * (1000 * p.millis)) = .ok opens →
      start.Adds opens now → now.NotBefore opens
  notEnded_of_adds : d < 2 ^ 33 * microsPerSecond →
    ∀ closes, start.add (cycle * (1000 * p.millis)) = .ok closes →
      start.Adds closes now → ¬now.NotBefore closes

/-- A span after the start of the first cycle a clock of its zone shows a time that `now` can be
compared with. -/
theorem exists_since_add {at' : ZonedTime} {span : Int} (hat : start.add span = .ok at')
    (hd : now.since start = .ok d) : ∃ e, now.since at' = .ok e := by
  obtain ⟨-, -, hzone⟩ := ZonedTime.add_eq_ok hat
  rw [ZonedTime.exists_since_iff, hzone]
  exact ZonedTime.exists_since_iff.1 ⟨d, hd⟩

theorem tiles_cycleAfter (hd : now.since start = .ok d) (hnonneg : 0 ≤ d) :
    p.Tiles start now d (p.cycleAfter d.toNat) := by
  have hbound : d ≤ 1000 * wholeBound := by
    have := ZonedTime.lt_of_since hd
    simp only [firstWall, lastWall, microsPerDay, microsPerSecond, wholeBound] at *
    omega
  have hmono : ∀ later e, later.since start = .ok e → d ≤ e → ∃ cycle',
      p.cycleBetween start later = .ok cycle' ∧ p.cycleAfter d.toNat ≤ cycle' :=
    fun later e he hle => ⟨_, cycleBetween_of_since he (by omega), p.cycleAfter_mono (by omega)⟩
  have hlate : ∀ k : Int, k * (1000 * p.millis) ≤ d → k + 1 ≤ p.cycleAfter d.toNat :=
    fun k => succ_le_cycleAfter hbound hnonneg
  have hcovers : d < 2 ^ 33 * microsPerSecond → p.Covers d (p.cycleAfter d.toNat) :=
    covers_cycleAfter hnonneg
  refine ⟨hmono, hlate, hcovers, ?_, ?_, ?_, ?_⟩
  · rintro later ⟨e, he, hlater⟩ hadds
    obtain ⟨f, hf⟩ : ∃ f, later.since start = .ok f := by
      rw [ZonedTime.exists_since_iff, ZonedTime.exists_since_iff.1 ⟨e, he⟩]
      exact ZonedTime.exists_since_iff.1 ⟨d, hd⟩
    have := hadds d e f hd he hf
    exact hmono later f hf (by omega)
  · rintro k reached hreached ⟨e, he, hpast⟩ hadds
    have := hadds _ e d (ZonedTime.since_add hreached) he hd
    exact hlate k (by omega)
  · intro hspan opens hopens hadds
    obtain ⟨e, he⟩ := exists_since_add hopens hd
    have hsum := hadds _ e d (ZonedTime.since_add hopens) he hd
    have := (hcovers hspan).started
    exact ⟨e, he, by omega⟩
  · rintro hspan closes hcloses hadds ⟨e, he, hpast⟩
    have hsum := hadds _ e d (ZonedTime.since_add hcloses) he hd
    have := (hcovers hspan).notEnded
    omega

end Period

/-- With a period that can be read the count is that of the period. -/
theorem cycleBetween_of_ofValue {v : Value} {p : Period} (hv : Period.ofValue v = .ok p)
    (start now : ZonedTime) : cycleBetween start now v = p.cycleBetween start now := by
  unfold cycleBetween Period.cycleBetween
  rw [hv]

/-- Billing cycles tile time, in zones whose clocks may be set.  The cycle that runs at a time which
does not come before the first cycle has a number.  After more time the number is no smaller; however
many periods have elapsed, the cycle that starts then is counted; and in the first `2 ^ 33` seconds
the number is that of the cycle which the elapsed time reaches into.  The same holds in the order of
times wherever elapsed time adds up: within a zone (`ZonedTime.adds_of_zone_eq`) and where no clock
was set in between (`ZonedTime.adds_of_steady`). -/
theorem cycleBetween_tiles {v : Value} {p : Period} (hv : Period.ofValue v = .ok p)
    {start now : ZonedTime} (hle : now.NotBefore start) :
    (∀ later, cycleBetween start later v = p.cycleBetween start later) ∧
    ∃ d cycle, now.since start = .ok d ∧ cycleBetween start now v = .ok cycle ∧
      p.Tiles start now d cycle := by
  obtain ⟨d, hd, hnonneg⟩ := hle
  refine ⟨cycleBetween_of_ofValue hv start, d, _, hd, ?_, Period.tiles_cycleAfter hd hnonneg⟩
  rw [cycleBetween_of_ofValue hv, Period.cycleBetween_of_since hd hnonneg]

namespace Sample

/-- The last microsecond of the 99420th day after 1970 in UTC, on a clock to the east. -/
def dayEnds : Moment :=
  ⟨(99420 * 86400 + 32400) * microsPerSecond - 1, some ⟨540 * microsPerMinute, by decide⟩,
    by decide⟩

/-- A day, in lower case. -/
def day : Value := .text "p1d"

/-- Noon in New York on the day before its clocks are set forward. -/
def noon : ZonedTime := ⟨wallAt ⟨2024, 3, 9⟩ 12 0, false, some newYork, by decide⟩

/-- Noon in New York on the next day. -/
def nextNoon : ZonedTime := ⟨wallAt ⟨2024, 3, 10⟩ 12 0, false, some newYork, by decide⟩

/-- Half an hour after that noon, on a clock that shows UTC. -/
def afterNoon : Moment := ⟨wallAt ⟨2024, 3, 10⟩ 16 30, some .utc, by decide⟩

/-- The start of the day after, on a clock that shows UTC. -/
def dayStarts : Moment := ⟨99420 * microsPerDay, some .utc, by decide⟩

end Sample

open Sample in
/-- With the last microsecond of a day its cycle ends, and is still the one that is counted.  Within a
zone a day is one of its clocks, though an hour may be missing. -/
theorem cycleBetween_tiles_of_dayEnds :
    Period.ofValue day = .ok ⟨1, .day, by decide⟩ ∧
    dayEnds.zoned.NotBefore Moment.epoch.zoned ∧
    cyclesElapsed .epoch dayEnds day = .ok 99420 ∧
    Period.Covers ⟨1, .day, by decide⟩ (99420 * microsPerDay - 1) 99420 ∧
    ¬dayEnds.zoned.NotBefore dayStarts.zoned ∧
    nextNoon.NotBefore noon ∧ cycleBetween noon nextNoon day = .ok 2 ∧
    Period.Covers ⟨1, .day, by decide⟩ microsPerDay 2 ∧ nextNoon.NotBefore nextNoon := by
  have hday : Period.ofValue day = .ok ⟨1, .day, by decide⟩ := by decide +kernel
  have hends : dayEnds.zoned.NotBefore Moment.epoch.zoned :=
    ⟨99420 * microsPerDay - 1, by decide, by decide⟩
  have hnoon : nextNoon.NotBefore noon := ⟨microsPerDay, by decide, by decide⟩
  have hcount : cyclesElapsed .epoch dayEnds day = .ok 99420 := by decide +kernel
  have hnext : cycleBetween noon nextNoon day = .ok 2 := by decide +kernel
  obtain ⟨-, d, cycle, hd, hcycle, htiles⟩ := cycleBetween_tiles hday hends
  obtain ⟨-, d', cycle', hd', hcycle', htiles'⟩ := cycleBetween_tiles hday hnoon
  obtain rfl : 99420 * microsPerDay - 1 = d := Except.ok.inj (Eq.trans (by decide) hd)
  obtain rfl := Except.ok.inj (hcount.symm.trans hcycle)
  obtain rfl : microsPerDay = d' := Except.ok.inj (Eq.trans (by decide) hd')
  obtain rfl := Except.ok.inj (hnext.symm.trans hcycle')
  have hutc : Moment.epoch.zoned.Adds dayStarts.zoned dayEnds.zoned :=
    ZonedTime.adds_of_steady (ZonedTime.steady_zoned _ _) (ZonedTime.steady_zoned _ _)
      (ZonedTime.steady_zoned _ _)
  have hzone : noon.Adds nextNoon nextNoon := ZonedTime.adds_of_zone_eq rfl rfl
  exact ⟨hday, hends, hcount, htiles.covers (by decide),
    htiles.notEnded_of_adds (by decide) _ (by decide) hutc, hnoon, hnext,
    htiles'.covers (by decide), htiles'.started_of_adds (by decide) _ (by decide) hzone⟩

open Sample in
/-- At a noon in New York a day of the clocks there has passed and the second cycle runs, but half an
hour later it is the first one again, by a clock that shows UTC.  And a period may be longer than any
span, so that not even the start of its first cycle can be computed. -/
theorem not_cycleBetween_tiles_of_noon :
    (Period.ofValue day = .ok ⟨1, .day, by decide⟩ ∧
      noon.add microsPerDay = .ok nextNoon ∧ afterNoon.zoned.NotBefore nextNoon ∧
      cycleBetween noon nextNoon day = .ok 2 ∧ cycleBetween noon afterNoon.zoned day = .ok 1) ∧
    ∃ p, Period.ofValue (.text "P1000000000D") = .ok p ∧ p.span = .error .outOfRange ∧
      p.startOfCycle noon 1 = .error .outOfRange :=
  ⟨⟨by decide +kernel, by decide, ⟨1800 * microsPerSecond, by decide, by decide⟩, by decide +kernel,
    by decide +kernel⟩, ⟨1000000000, .day, by decide⟩, by decide +kernel, by decide +kernel,
    by decide +kernel⟩

end Patronage
