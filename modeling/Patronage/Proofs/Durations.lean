import Patronage.Proofs.Cycle
import Patronage.Proofs.Issuance
import Patronage.Settings.File
/-!
# Durations that leave the calendar

A duration is accepted for its form, however long it is.  In use it is added to a date, and that
fails exactly if the sum comes after the last date there is, or if the duration alone is longer than
any span.  Main statements:

* `Period.exists_span_iff` — which periods are spans;
* `Catalog.expiration_cases` — which payments have an expiration;
* `Emulator.leavesCalendar_receiptItem_iff` — when the payment of a billing cycle has no date;
* `Settings.usable_iff` — which of the settings accepted can be used from 1970 to 2100.
-/

namespace Patronage

open Calendar Schema

section

variable {ε α β : Type} {r : Except ε α}

theorem bind_of_eq_ok {a : α} (h : r = .ok a) (f : α → Except ε β) : r >>= f = f a := by
  rw [h]
  rfl

theorem bind_of_eq_error {e : ε} (h : r = .error e) (f : α → Except ε β) :
    r >>= f = .error e := by
  rw [h]
  rfl

end

/-! ### Spans -/

namespace Period

variable (p : Period)

/-- The days of a period. -/
def days : Nat := p.count * p.unit.days

theorem micros_eq : (1000 * p.millis : Int) = p.days * microsPerDay := by
  rw [millis, days, ← Nat.mul_assoc]
  simp only [dayMillis, microsPerDay, microsPerSecond]
  push_cast
  ring

theorem day_le_micros : microsPerDay ≤ 1000 * p.millis := by
  have h := p.day_le_millis
  simp only [dayMillis, microsPerDay, microsPerSecond] at *
  omega

theorem spanFits_iff : spanFits (1000 * p.millis) ↔ p.days ≤ maxSpanDays := by
  have hday : microsPerDay ≠ 0 := by decide
  rw [spanFits, p.micros_eq, Int.mul_ediv_cancel _ hday, Bool.and_eq_true, decide_eq_true_eq,
    decide_eq_true_eq]
  unfold maxSpanDays
  omega

variable {p}

theorem span_of_le (h : p.days ≤ maxSpanDays) : p.span = .ok (1000 * p.millis) := by
  unfold span
  rw [Int.mul_comm]
  exact if_pos (p.spanFits_iff.2 h)

theorem span_of_lt (h : maxSpanDays < p.days) : p.span = .error .outOfRange := by
  unfold span
  rw [Int.mul_comm]
  exact if_neg fun hfits => absurd (p.spanFits_iff.1 hfits) (by omega)

/-- A period is a span exactly if it is no longer than the longest. -/
theorem exists_span_iff : (∃ d, p.span = .ok d) ↔ p.days ≤ maxSpanDays := by
  refine ⟨fun ⟨d, hd⟩ => ?_, fun h => ⟨_, span_of_le h⟩⟩
  by_contra hlt
  rw [span_of_lt (by omega)] at hd
  cases hd

end Period

/-! ### Dates after a date -/

namespace Moment

variable {m : Moment} {d : Int}

theorem ofWall_of_le {wall : Int} (h : firstWall ≤ wall ∧ wall ≤ lastWall) (o : Option Offset) :
    ofWall wall o = .ok ⟨wall, o, h⟩ :=
  dif_pos h

theorem ofWall_of_lt {wall : Int} (h : lastWall < wall) (o : Option Offset) :
    ofWall wall o = .error .outOfRange :=
  dif_neg (by omega)

/-- A span that ends on the calendar can be added. -/
theorem add_of_le (hd : 0 ≤ d) (h : m.wall + d ≤ lastWall) :
    ∃ n, m.add d = .ok n ∧ n.wall = m.wall + d ∧ n.offset = m.offset := by
  have hm := m.inRange
  have hrange : firstWall ≤ m.wall + d ∧ m.wall + d ≤ lastWall := ⟨by omega, h⟩
  have hfits : spanFits d := by
    rw [spanFits, Bool.and_eq_true, decide_eq_true_eq, decide_eq_true_eq]
    simp only [maxSpanDays, firstWall, lastWall, microsPerDay, microsPerSecond] at *
    omega
  exact ⟨⟨m.wall + d, m.offset, hrange⟩, (if_pos hfits).trans (ofWall_of_le hrange _), rfl, rfl⟩

/-- A span that ends after the last date cannot. -/
theorem add_of_lt (h : lastWall < m.wall + d) : m.add d = .error .outOfRange := by
  unfold add
  split
  · exact ofWall_of_lt h _
  · rfl

/-- The moment a period later on the same clock. -/
def after (m : Moment) (p : Period) : Except TimeError Moment := do
  let d ← p.span
  m.add d

/-- A period can be added exactly if it ends on the calendar. -/
theorem after_cases (m : Moment) (p : Period) :
    (∃ n, m.after p = .ok n ∧ n.wall = m.wall + 1000 * p.millis ∧ n.offset = m.offset) ∨
      (m.after p = .error .outOfRange ∧ lastWall < m.wall + 1000 * p.millis) := by
  unfold after
  obtain hlong | hshort := Int.lt_or_le maxSpanDays p.days
  · refine .inr ⟨?_, ?_⟩
    · exact bind_of_eq_error (Period.span_of_lt hlong) _
    · have hm := m.inRange.1
      rw [p.micros_eq]
      simp only [maxSpanDays, firstWall, lastWall, microsPerDay, microsPerSecond] at *
      omega
  · rw [bind_of_eq_ok (Period.span_of_le hshort)]
    obtain hlate | hle := Int.lt_or_le lastWall (m.wall + 1000 * p.millis)
    · exact .inr ⟨add_of_lt hlate, hlate⟩
    · exact .inl (add_of_le (Int.mul_nonneg (by decide) (Int.natCast_nonneg _)) hle)

/-- Two periods can be added one after the other exactly if both together end on the calendar. -/
theorem after_after_cases (m : Moment) (p q : Period) :
    (∃ n, (m.after p >>= (·.after q)) = .ok n ∧
        n.wall = m.wall + (1000 * p.millis + 1000 * q.millis) ∧ n.offset = m.offset) ∨
      ((m.after p >>= (·.after q)) = .error .outOfRange ∧
        lastWall < m.wall + (1000 * p.millis + 1000 * q.millis)) := by
  have hq := q.day_le_micros
  obtain ⟨n, hn, hwall, hoffset⟩ | ⟨hn, hlate⟩ := m.after_cases p
  · rw [bind_of_eq_ok hn, ← Int.add_assoc, ← hwall, ← hoffset]
    exact n.after_cases q
  · refine .inr ⟨bind_of_eq_error hn _, ?_⟩
    simp only [microsPerDay, microsPerSecond] at hq
    omega

theorem hasUtc_of_le (h : firstWall + microsPerDay ≤ m.wall) : m.hasUtc = true := by
  rw [hasUtc, decide_eq_true h, Bool.or_true]

/-- The start of the last day. -/
def lastMidnight : Int := lastWall / microsPerDay * microsPerDay

/-- The next midnight in UTC. -/
def nextMidnight (m : Moment) : Except TimeError Moment := do
  let day ← m.truncateToDay
  day.add microsPerDay

/-- The day in UTC of a moment that UTC shows on the calendar. -/
theorem truncateToDay_of_le (hutc : m.hasUtc)
    (h : firstWall ≤ m.utcMicros ∧ m.utcMicros ≤ lastWall) :
    m.truncateToDay = .ok (startOfDay ⟨m.utcMicros, some .utc, h⟩) := by
  rw [truncateToDay, toUtc, if_pos hutc, ofWall_of_le h]
  rfl

/-- Before the last day in UTC there is a next midnight. -/
theorem nextMidnight_of_lt (hutc : m.hasUtc) (hlow : firstWall ≤ m.utcMicros)
    (h : m.utcMicros < lastMidnight) : ∃ n, m.nextMidnight = .ok n := by
  have hhigh : m.utcMicros ≤ lastWall := by
    simp only [lastMidnight, lastWall, microsPerDay, microsPerSecond] at *
    omega
  rw [nextMidnight, bind_of_eq_ok (truncateToDay_of_le hutc ⟨hlow, hhigh⟩)]
  have hle : (startOfDay ⟨m.utcMicros, some .utc, hlow, hhigh⟩).wall + microsPerDay ≤
      lastWall := by
    simp only [startOfDay, lastMidnight, lastWall, microsPerDay, microsPerSecond] at *
    omega
  obtain ⟨n, hn, -⟩ := add_of_le (by decide) hle
  exact ⟨n, hn⟩

/-- On the last day in UTC and after it there is none. -/
theorem nextMidnight_of_le (hutc : m.hasUtc) (hlow : firstWall ≤ m.utcMicros)
    (h : lastMidnight ≤ m.utcMicros) : m.nextMidnight = .error .outOfRange := by
  by_cases hhigh : m.utcMicros ≤ lastWall
  · rw [nextMidnight, bind_of_eq_ok (truncateToDay_of_le hutc ⟨hlow, hhigh⟩)]
    refine add_of_lt ?_
    simp only [startOfDay, lastMidnight, lastWall, microsPerDay, microsPerSecond] at *
    omega
  · have hday : m.truncateToDay = .error .outOfRange := by
      rw [truncateToDay, toUtc, if_pos hutc, ofWall_of_lt (by omega)]
      rfl
    exact bind_of_eq_error hday _

end Moment

/-! ### Expirations -/

namespace Catalog

variable {c : Catalog} {item : ReceiptItem}

/-- The days that a payment may be old. -/
def toleranceDays (c : Catalog) : Nat :=
  c.settings.badgeExpiration.period.days + c.settings.badgeGracePeriod.period.days

theorem tolerance_eq : c.tolerance = c.toleranceDays * microsPerDay := by
  rw [tolerance, toleranceDays, Int.mul_add, Period.micros_eq, Period.micros_eq, ← Int.add_mul]
  push_cast
  rfl

/-- A payment grows as old as it may be on the calendar of its clock, and before the last day in
UTC. -/
structure Expires (c : Catalog) (paidAt : Moment) : Prop where
  onClock : paidAt.wall + c.tolerance ≤ lastWall
  inUtc : paidAt.utcMicros + c.tolerance < Moment.lastMidnight

/-- An expiration is the midnight after two periods. -/
theorem expiration_eq (c : Catalog) (item : ReceiptItem) :
    c.expiration item = (item.paidAt.after c.settings.badgeExpiration.period >>=
      (·.after c.settings.badgeGracePeriod.period)) >>= Moment.nextMidnight := by
  simp only [expiration_eq_bind, Moment.after, bind_assoc]
  rfl

/-- An expiration can be computed exactly if it is on the calendar. -/
theorem expiration_cases (c : Catalog) (item : ReceiptItem) :
    (c.Expires item.paidAt ∧ ∃ m, c.expiration item = .ok m) ∨
      (¬c.Expires item.paidAt ∧ c.expiration item = .error .outOfRange) := by
  have hlow := item.paidAt.inRange.1
  have htolerance : c.tolerance = 1000 * c.settings.badgeExpiration.period.millis +
      1000 * c.settings.badgeGracePeriod.period.millis := by
    rw [tolerance, Int.mul_add]
  have hbadge := c.settings.badgeExpiration.period.day_le_micros
  have hgrace := c.settings.badgeGracePeriod.period.day_le_micros
  rw [expiration_eq]
  -- the sum may leave the calendar, or end on its last day, which has no midnight after it
  obtain ⟨last, hlast, hwall, hoffset⟩ | ⟨hlast, hlate⟩ :=
    item.paidAt.after_after_cases c.settings.badgeExpiration.period
      c.settings.badgeGracePeriod.period
  case inr =>
    refine .inr ⟨fun h => ?_, bind_of_eq_error hlast _⟩
    have := h.onClock
    omega
  rw [bind_of_eq_ok hlast]
  rw [← htolerance] at hwall
  have hutc : last.utcMicros = item.paidAt.utcMicros + c.tolerance := by
    rw [Moment.utcMicros, Moment.utcMicros, hwall, hoffset]
    omega
  have hclock := last.utcMicros_bounds
  have hutcLow : firstWall ≤ last.utcMicros := by omega
  have hhasUtc : last.hasUtc := last.hasUtc_of_le (by omega)
  obtain hbefore | hbehind := Int.lt_or_le last.utcMicros Moment.lastMidnight
  · exact .inl ⟨⟨hwall ▸ last.inRange.2, hutc ▸ hbefore⟩,
      Moment.nextMidnight_of_lt hhasUtc hutcLow hbefore⟩
  · refine .inr ⟨fun h => ?_, Moment.nextMidnight_of_le hhasUtc hutcLow hbehind⟩
    have := h.inUtc
    omega

end Catalog

/-! ### From 1970 to 2100 -/

namespace Moment

/-- The days from 1970 to the end of 2100. -/
def eraDays : Int := (Date.ordinal ⟨2101, 1, 1⟩ : Int) - epochOrdinal

theorem eraDays_eq : eraDays = 47847 := by decide

/-- A moment of the years 1970 to 2100 in UTC. -/
structure InEra (m : Moment) : Prop where
  start : 0 ≤ m.utcMicros
  notEnded : m.utcMicros < eraDays * microsPerDay

/-- The last microsecond of 2100 in UTC. -/
def endOfEra : Moment := ⟨eraDays * microsPerDay - 1, some .utc, by decide⟩

theorem inEra_endOfEra : endOfEra.InEra := ⟨by decide, by decide⟩

end Moment

/-- A date or a duration has left the calendar. -/
def Fault.LeavesCalendar (f : Fault) : Prop :=
  f = .time .outOfRange ∨ f = .cycle (.time .outOfRange)

namespace Catalog

variable {c : Catalog}

/-- The days between the end of 2100 and the last day. -/
def eraTolerance : Nat := (Moment.lastMidnight / microsPerDay - Moment.eraDays).toNat

theorem eraTolerance_eq : eraTolerance = 2885049 := by decide

theorem expires_of_inEra {m : Moment} (hm : m.InEra) (h : c.toleranceDays ≤ eraTolerance) :
    c.Expires m := by
  have hclock := m.utcMicros_bounds
  obtain ⟨-, hend⟩ := hm
  rw [Moment.eraDays_eq] at hend
  rw [eraTolerance_eq] at h
  constructor <;> rw [tolerance_eq] <;>
    simp only [Moment.lastMidnight, lastWall, microsPerDay, microsPerSecond] at * <;> omega

theorem not_expires_endOfEra (h : eraTolerance < c.toleranceDays) :
    ¬c.Expires Moment.endOfEra := by
  rintro ⟨-, hutc⟩
  have hend : Moment.endOfEra.utcMicros = 47847 * microsPerDay - 1 := by decide
  rw [eraTolerance_eq] at h
  rw [tolerance_eq, hend] at hutc
  simp only [Moment.lastMidnight, lastWall, microsPerDay, microsPerSecond] at hutc
  omega

/-- Every payment from 1970 to 2100 has an expiration exactly if both durations together are no
longer than what is left of the calendar then. -/
theorem forall_inEra_iff : (∀ item : ReceiptItem, item.paidAt.InEra →
    c.expiration item ≠ .error .outOfRange) ↔ c.toleranceDays ≤ eraTolerance := by
  constructor
  · intro h
    by_contra hlt
    obtain ⟨hexpires, -⟩ | ⟨-, herror⟩ :=
      c.expiration_cases ⟨"", .endOfEra, 0, Int.le_refl 0⟩
    · exact not_expires_endOfEra (Nat.lt_of_not_le hlt) hexpires
    · exact h _ Moment.inEra_endOfEra herror
  · intro h item hera herror
    obtain ⟨-, m, hm⟩ | ⟨hnot, -⟩ := c.expiration_cases item
    · cases herror.symm.trans hm
    · exact hnot (expires_of_inEra hera h)

end Catalog

namespace Emulator

variable {e : Emulator} {m : Mint} {id : String} {s : Subscription}

/-- The cycle that is running in those years started on the calendar. -/
theorem exists_cycleStart {period : Period} {now : Moment} {cycle : Nat}
    (hcreated : s.createdAt.InEra) (hnow : now.InEra)
    (hcycle : period.cyclesElapsed s.createdAt now = .ok cycle)
    (h : period.days ≤ maxSpanDays) : ∃ start, cycleStart s period cycle = .ok start := by
  have hspan : now.utcMicros - s.createdAt.utcMicros < 2 ^ 33 * microsPerSecond := by
    have hstart := hcreated.start
    have hend := hnow.notEnded
    rw [Moment.eraDays_eq] at hend
    simp only [microsPerDay, microsPerSecond] at *
    omega
  have hstarted := (Period.runs_of_cyclesElapsed hcycle hspan).started
  have hpos : (1 : Int) ≤ cycle := by
    obtain ⟨-, -, rfl⟩ := Period.cyclesElapsed_eq_ok hcycle
    exact_mod_cast Nat.le_add_left 1 _
  have hnonneg : 0 ≤ ((cycle : Int) - 1) * (1000 * period.millis) :=
    Int.mul_nonneg (by omega) (Int.mul_nonneg (by decide) (Int.natCast_nonneg _))
  have hclock := s.createdAt.utcMicros_bounds
  have hend := hnow.notEnded
  rw [Moment.eraDays_eq] at hend
  have hle : s.createdAt.wall + ((cycle : Int) - 1) * (1000 * period.millis) ≤ lastWall := by
    simp only [lastWall, microsPerDay, microsPerSecond] at *
    omega
  obtain ⟨start, hstart, -⟩ := Moment.add_of_le hnonneg hle
  exact ⟨start, (bind_of_eq_ok (Period.span_of_le h) _).trans hstart⟩

/-- In those years a payment leaves the calendar exactly if the billing period is longer than any
span. -/
theorem leavesCalendar_receiptItem_iff (hs : e.activeSubscription id = .ok s)
    (hc : m.now.Comparable s.createdAt) (hcreated : s.createdAt.InEra) (hnow : m.now.InEra)
    (hle : s.createdAt.utcMicros ≤ m.now.utcMicros) :
    (∃ f, (e.receiptItem m id).answer = .error f ∧ f.LeavesCalendar) ↔
      maxSpanDays < e.billingPeriod.period.days := by
  have hcycle := Period.cyclesElapsed_of_le (p := e.billingPeriod.period) hc hle
  rw [receiptItem_answer hs hcycle, report]
  constructor
  · rintro ⟨f, hf, hleaves⟩
    by_contra hshort
    obtain ⟨start, hstart⟩ := exists_cycleStart hcreated hnow hcycle (by omega)
    rw [hstart] at hf
    change (ReceiptItem.of _ start s.level).mapError _ = _ at hf
    -- a payment that starts on the calendar may only have a level that no payment has
    cases hof : ReceiptItem.of (e.billCycle m s _).1 start s.level with
    | ok item =>
      rw [hof] at hf
      cases hf
    | error issues =>
      rw [hof] at hf
      obtain rfl := Except.error.inj hf
      obtain h | h := hleaves <;> cases h
  · intro hlong
    refine ⟨.time .outOfRange, ?_, .inl rfl⟩
    unfold cycleStart
    rw [bind_of_eq_error (Period.span_of_lt hlong)]
    rfl

/-- Moments of two clocks of which only one has an offset are not compared. -/
theorem cyclesElapsed_of_not_comparable {period : Period} {now start : Moment}
    (h : ¬now.Comparable start) :
    period.cyclesElapsed start now = .error (.time .mixedOffsets) := by
  unfold Moment.Comparable at h
  rw [Period.cyclesElapsed_eq]
  unfold Moment.since
  cases hn : now.offset <;> cases hs : start.offset <;> simp [hn, hs] at h ⊢

/-- With a billing period that is a span, no payment leaves the calendar in those years. -/
theorem not_leavesCalendar_of_receiptItem (hshort : e.billingPeriod.period.days ≤ maxSpanDays)
    (hnow : m.now.InEra) (hcreated : ∀ sub, e.activeSubscription id = .ok sub →
      sub.createdAt.InEra ∧ sub.createdAt.utcMicros ≤ m.now.utcMicros)
    {f : Fault} (hf : (e.receiptItem m id).answer = .error f) : ¬f.LeavesCalendar := by
  intro hleaves
  cases hs : e.activeSubscription id with
  | error f' =>
    simp only [receiptItem, hs] at hf
    obtain rfl : f' = f := Except.error.inj hf
    have hclassified := e.classified_activeSubscription id f' hs
    obtain rfl | rfl := hleaves <;> exact hclassified
  | ok s =>
    obtain ⟨hera, hle⟩ := hcreated s hs
    by_cases hc : m.now.Comparable s.createdAt
    · have hlong := (leavesCalendar_receiptItem_iff hs hc hera hnow hle).1 ⟨f, hf, hleaves⟩
      omega
    · simp only [receiptItem, hs, cyclesElapsed_of_not_comparable hc] at hf
      obtain rfl := Except.error.inj hf
      obtain h | h := hleaves <;> cases h

end Emulator

/-! ### Settings -/

namespace WrittenPeriod

theorem ofText?_text (w : WrittenPeriod) : ofText? w.text = some w := by
  unfold ofText?
  split
  · rename_i p hp
    obtain rfl := Except.ok.inj (w.parses.symm.trans hp)
    rfl
  · rename_i e he
    cases w.parses.symm.trans he

/-- A written period is accepted for its text. -/
theorem check_text (why : String → Rejection) (w : WrittenPeriod) :
    check why (.text w.text) = .ok w := by
  unfold check
  rw [bind_of_eq_ok (show Schema.text (.text w.text) = .ok w.text from rfl), ofText?_text]
  rfl

end WrittenPeriod

theorem Schema.optional_of_field {α : Type} {fields : List (Value × Value)} {name : String}
    {v : Value} {check : Value → Checked α} {a : α} (hv : Value.field? fields name = some v)
    (ha : check v = .ok a) (fallback : α) : optional fields name fallback check = .ok a := by
  rw [optional, hv]
  simp only [ha]
  rfl

namespace Settings

/-- A document that gives nothing but durations. -/
def document (badge grace billing : WrittenPeriod) : Value :=
  .map [(.text "badge_expiration", .text badge.text),
    (.text "badge_grace_period", .text grace.text),
    (.text "emulator", .map [(.text "billing_period", .text billing.text)])]

/-- The settings that this document gives. -/
def ofDurations (badge grace billing : WrittenPeriod) : Settings :=
  ⟨badge, grace, .empty, ⟨"emulator", billing⟩, noLevels.property⟩

/-- Every written period is accepted for every duration. -/
theorem read_document (path : String) (badge grace billing : WrittenPeriod) :
    read path (.document (document badge grace billing)) =
      .ok (ofDurations badge grace billing) := by
  have hemulator : EmulatorSettings.ofValue (.map [(.text "billing_period", .text billing.text)]) =
      .ok ⟨"emulator", billing⟩ := by
    change EmulatorSettings.ofFields _ = _
    rw [EmulatorSettings.ofFields,
      optional_of_field (v := .text billing.text) (by rfl) (WrittenPeriod.check_text _ billing)]
    rfl
  change (ofFields _).mapError LoadError.invalid = _
  rw [ofFields,
    optional_of_field (v := .text badge.text) (by rfl) (WrittenPeriod.check_text _ badge),
    optional_of_field (v := .text grace.text) (by rfl) (WrittenPeriod.check_text _ grace),
    optional_of_field (by rfl) hemulator]
  rfl

/-- The durations of the settings. -/
def durations (s : Settings) : List Period :=
  [s.badgeExpiration.period, s.badgeGracePeriod.period, s.emulator.billingPeriod.period]

/-- The durations of the settings can be used: each of them is a span, and no payment and no
subscription from 1970 to 2100 leads off the calendar. -/
structure Usable (s : Settings) : Prop where
  span : ∀ p ∈ s.durations, ∃ d, p.span = .ok d
  expiration : ∀ item : ReceiptItem, item.paidAt.InEra →
    (⟨s⟩ : Catalog).expiration item ≠ .error .outOfRange
  receiptItem : ∀ (e : Emulator) (m : Mint) (id : String),
    e.billingPeriod = s.emulator.billingPeriod → m.now.InEra →
    (∀ sub, e.activeSubscription id = .ok sub →
      sub.createdAt.InEra ∧ sub.createdAt.utcMicros ≤ m.now.utcMicros) →
    ∀ f, (e.receiptItem m id).answer = .error f → ¬f.LeavesCalendar

/-- Whatever durations settings have, a document that gives them is accepted.  The settings can be
used exactly if both durations of a receipt are together no longer than the calendar is after 2100,
and the billing period is no longer than the longest span. -/
theorem usable_iff (path : String) (s : Settings) :
    (∃ source accepted, read path source = .ok accepted ∧
      accepted.badgeExpiration = s.badgeExpiration ∧
      accepted.badgeGracePeriod = s.badgeGracePeriod ∧
      accepted.emulator.billingPeriod = s.emulator.billingPeriod) ∧
    (s.Usable ↔
      s.badgeExpiration.period.days + s.badgeGracePeriod.period.days ≤ Catalog.eraTolerance ∧
        s.emulator.billingPeriod.period.days ≤ maxSpanDays) := by
  refine ⟨⟨_, _, read_document path _ _ _, rfl, rfl, rfl⟩,
    fun h => ⟨?_, ?_⟩, fun ⟨htolerance, hbilling⟩ => ⟨?_, ?_, ?_⟩⟩
  · exact Catalog.forall_inEra_iff.1 h.expiration
  · exact Period.exists_span_iff.1 (h.span _ (by simp [durations]))
  · have hlong : (Catalog.eraTolerance : Int) ≤ maxSpanDays := by decide
    intro p hp
    refine Period.exists_span_iff.2 ?_
    simp only [durations, List.mem_cons, List.not_mem_nil, or_false] at hp
    obtain rfl | rfl | rfl := hp <;> omega
  · exact Catalog.forall_inEra_iff.2 htolerance
  · intro e m id he hnow hcreated f hf hleaves
    exact Emulator.not_leavesCalendar_of_receiptItem (he ▸ hbilling) hnow hcreated hf hleaves

end Settings

namespace Sample

/-- Longer than any span. -/
def ages : WrittenPeriod := ⟨"P1000000000D", ⟨1000000000, .day, by decide⟩, by rfl⟩

/-- With fifteen days more, all that is left of the calendar after 2100. -/
def longest : WrittenPeriod := ⟨"P2885034D", ⟨2885034, .day, by decide⟩, by rfl⟩

def sixteenDays : WrittenPeriod := ⟨"P16D", ⟨16, .day, by decide⟩, by rfl⟩

/-- A settings file that gives one duration. -/
def agesFile : Source := .text "badge_expiration: P1000000000D\n".toList

/-- A payment at noon on the first of March 2024 in UTC. -/
def paidIn2024 : ReceiptItem :=
  ⟨"item", ⟨1709294400000000, some .utc, by decide⟩, 200, by decide⟩

end Sample

open Sample in
/-- Durations that reach from the last microsecond of 2100 to the last day can be used, and a day
more cannot. -/
theorem Settings.usable_iff_of_longest :
    (ofDurations longest .fifteenDays .oneMonth).Usable ∧
      ¬(ofDurations longest sixteenDays .oneMonth).Usable := by
  obtain ⟨-, hlongest⟩ := Settings.usable_iff "subscriptions.yaml"
    (ofDurations longest .fifteenDays .oneMonth)
  obtain ⟨-, hlonger⟩ := Settings.usable_iff "subscriptions.yaml"
    (ofDurations longest sixteenDays .oneMonth)
  exact ⟨hlongest.2 (by decide), fun h => absurd (hlonger.1 h).1 (by decide)⟩

open Sample in
/-- A settings file is accepted whose duration is no span, so that payments have no expiration. -/
theorem Settings.not_usable_of_ages :
    ∃ s, Settings.read "subscriptions.yaml" agesFile = .ok s ∧
      s.badgeExpiration.period.span = .error .outOfRange ∧ paidIn2024.paidAt.InEra ∧
      (⟨s⟩ : Catalog).expiration paidIn2024 = .error .outOfRange ∧ ¬s.Usable := by
  have hread : (Settings.read "subscriptions.yaml" agesFile).toOption =
      some (Settings.ofDurations ages .fifteenDays .oneMonth) := by
    decide +kernel
  have hspan : ages.period.span = .error .outOfRange := Period.span_of_lt (by decide)
  refine ⟨_, eq_ok_of_toOption hread, hspan, ⟨by decide, by decide⟩,
    (Catalog.expiration_eq_bind _ _).trans (bind_of_eq_error hspan _), fun h => ?_⟩
  obtain ⟨d, hd⟩ := h.span ages.period (List.mem_cons_self ..)
  cases hspan.symm.trans hd

end Patronage
