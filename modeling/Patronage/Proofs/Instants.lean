import Patronage.Proofs.Expiry
import Patronage.Proofs.Likeness.Session
/-!
# Only instants matter

Moments keep the offset of the clock that they were read off.  What happens around a manager does
not depend on these offsets: if every moment is read off another clock at the same instant, then
answers, faults, identifiers, keys, payments and credentials are the same, and moments that are
answered or stored denote the same instants.  Credentials have to expire as the catalog has it, and
no moment that is computed may be off the calendar.  Main statements:

* `ZonedTime.alike_of_instant` — what is computed for two subscriptions that were made at one instant;
* `Session.like_run_of_instants` — runs at the same instants;
* `Session.not_like_run_of_instants_evening` — not so where clocks are set forward.

What this does not say: that the moments answered are the same, since each keeps its offset.
-/

namespace Patronage

open Calendar

/-- Everything is the same, but moments only denote the same instants. -/
def Likeness.instants : Likeness where
  user := Eq
  hmac := Eq
  exact := False
  user_iff := by
    rintro u _ v _ rfl rfl
    rfl
  hmac_iff := by
    rintro t _ x _ rfl rfl
    rfl
  tag_eq := by
    rintro u _ rfl
    rfl

/-- On clocks of known offsets that is to denote the same instant. -/
theorem Moment.like_instants_iff {m m' : Moment} (h : m.offset.isSome) :
    m.Like .instants m' ↔ m'.offset.isSome ∧ m.utcMicros = m'.utcMicros where
  mp hl := ⟨hl.aware ▸ h, hl.utcMicros⟩
  mpr h' := ⟨h'.2, h.trans h'.1.symm, False.elim⟩

/-! ### Clocks that may be set -/

namespace Period

variable {p : Period} {created now paidAt : ZonedTime} {cycle : Nat} {i j : Int}

/-- Only instants count for the number of a cycle, if no clock is set in between. -/
theorem cycleBetween_of_instant (hcreated : created.instant = some i) (hnow : now.instant = some j)
    (hsteady : now.Steady created) : p.cycleBetween created now =
      if j - i < 0 then .error .reversed else .ok (p.cycleAfter (j - i).toNat) := by
  rw [cycleBetween, hsteady.since_of_instant hnow hcreated]

/-- Only the instant of the first cycle counts for that of another, if no clock is set in between. -/
theorem instant_of_startOfCycle (h : p.startOfCycle created cycle = .ok paidAt)
    (hsteady : paidAt.Steady created) :
    paidAt.instant = created.instant.map (· + ((cycle : Int) - 1) * (1000 * p.millis)) := by
  obtain ⟨hwall, hzone⟩ := startOfCycle_eq_ok h
  rw [ZonedTime.instant, ZonedTime.instant, hsteady hzone, hwall, Option.map_map]
  refine congrArg (Option.map · created.offset) (funext fun o => ?_)
  dsimp only [Function.comp_apply]
  omega

end Period

/-- What is computed for subscriptions that were made at two times is the same, wherever no clock is
set in between: which cycle runs at an instant, at which instant a payment was due, and when a
credential for it expires. -/
structure ZonedTime.Alike (p : Period) (c : Catalog) (created created' : ZonedTime) : Prop where
  cycle : ∀ now now', now.instant.isSome → now.instant = now'.instant →
    now.Steady created → now'.Steady created' →
      p.cycleBetween created now = p.cycleBetween created' now'
  paidAt : ∀ cycle paidAt paidAt', p.startOfCycle created cycle = .ok paidAt →
    p.startOfCycle created' cycle = .ok paidAt' → paidAt.Steady created → paidAt'.Steady created' →
      paidAt.instant = paidAt'.instant
  expires : ∀ cycle paidAt paidAt' last last' expires expires',
    p.startOfCycle created cycle = .ok paidAt → p.startOfCycle created' cycle = .ok paidAt' →
    c.goodUntil paidAt = .ok last → c.goodUntil paidAt' = .ok last' →
    last.Steady created → last'.Steady created' →
    c.expirationOf paidAt = .ok expires → c.expirationOf paidAt' = .ok expires' →
      expires = expires'

/-- Only the instant at which a subscription was made counts. -/
theorem ZonedTime.alike_of_instant (p : Period) (c : Catalog) {created created' : ZonedTime}
    (haware : created.instant.isSome) (h : created.instant = created'.instant) :
    Alike p c created created' := by
  obtain ⟨i, hi⟩ := Option.isSome_iff_exists.1 haware
  have hi' := h ▸ hi
  refine ⟨?_, ?_, ?_⟩
  · intro now now' hknown hnow hsteady hsteady'
    obtain ⟨j, hj⟩ := Option.isSome_iff_exists.1 hknown
    rw [Period.cycleBetween_of_instant hi hj hsteady,
      Period.cycleBetween_of_instant hi' (hnow ▸ hj) hsteady']
  · intro cycle paidAt paidAt' hpaid hpaid' hsteady hsteady'
    rw [Period.instant_of_startOfCycle hpaid hsteady, h,
      Period.instant_of_startOfCycle hpaid' hsteady']
  · intro cycle paidAt paidAt' last last' expires expires' hpaid hpaid' hlast hlast' hsteady hsteady'
      hexpires hexpires'
    have hage := Catalog.utcMicros_of_goodUntil hpaid hlast hsteady
    have hage' := Catalog.utcMicros_of_goodUntil hpaid' hlast' hsteady'
    rw [utcMicros_of_instant hi] at hage
    rw [utcMicros_of_instant hi', ← hage] at hage'
    exact (Catalog.isMidnight_of_goodUntil hexpires hlast).eq
      (hage' ▸ Catalog.isMidnight_of_goodUntil hexpires' hlast')

/-! ### Runs -/

/-- Runs at the same instants: with clocks of other offsets the same happens.  The offset of a clock
is fixed here; for clocks of any zones, what is computed for a subscription depends on no more than
the instants, wherever no clock is set in between. -/
theorem Session.like_run_of_instants {w : World} (hw : w.Fresh) {clock : Moment}
    (hclock : w.clock.Like .instants clock) {acts acts' : List Act}
    (h : List.Forall₂ (Act.Like .instants) acts acts') (hkeeps : ∀ a ∈ acts, a.KeepsTo w.catalog)
    (hr : ((start w).run acts).Reaches) (hr' : ((start { w with clock := clock }).run acts').Reaches) :
    ((start w).run acts).Like .instants ((start { w with clock := clock }).run acts') ∧
      ∀ (p : Period) (created created' : ZonedTime), created.instant.isSome →
        created.instant = created'.instant → ZonedTime.Alike p w.catalog created created' :=
  ⟨like_run (hw.like_start hclock) h (.inr ⟨hkeeps, hr, hr'⟩),
    fun p _ _ => ZonedTime.alike_of_instant p w.catalog⟩

namespace Sample

/-- The epoch on a clock two hours to the east of UTC. -/
def epochInEast : Moment := ⟨7200 * microsPerSecond, later.offset, by decide⟩

/-- An hour before the forty-first day starts in UTC; `later` is the same instant in the east. -/
def laterInUtc : Moment := ⟨(39 * 86400 + 23 * 3600) * microsPerSecond, some .utc, by decide⟩

/-- The instant of a noon in New York on a clock that shows UTC. -/
def springInUtc : Moment := ⟨wallAt ⟨2024, 4, 1⟩ 16 0, some .utc, by decide⟩

/-- The subscriber on a clock to the east. -/
def inEast : Credentials := { credentials with now := epochInEast }

theorem eq_of_mem_payAt {c : Credentials} {now : Moment} {i : Rules × Luck} {k : Nat}
    (h : .advance k i ∈ payAt c now) : i = asShipped := by
  obtain h | h := List.mem_append.1 h
  · exact eq_of_mem_oneByOne h
  · simp only [List.mem_cons, List.mem_replicate, reduceCtorEq, false_or] at h
    exact (Move.advance.inj h.2).2

theorem keepsTo_payAt {c : Credentials} {now : Moment} {a : Act}
    (h : a ∈ (payAt c now).map .move) : a.KeepsTo World.shipped.catalog := by
  obtain ⟨m, hm, rfl⟩ := List.mem_map.1 h
  cases m with
  | arrive r => trivial
  | advance k i =>
    obtain rfl := eq_of_mem_payAt hm
    rfl
  | setClock now => trivial

end Sample

open Sample in
/-- A credential asked for late in the day in UTC and early the next day in the east is the same.  And
a subscription that was made at noon in New York is in the same cycle as one of that instant in UTC. -/
theorem Session.like_run_of_instants_payAt :
    let s := (start .shipped).run ((payAt credentials laterInUtc).map .move)
    let s' := (start { World.shipped with clock := epochInEast }).run
      ((payAt inEast later).map .move)
    World.shipped.Fresh ∧ World.shipped.clock.Like .instants epochInEast ∧
    List.Forall₂ (Act.Like .instants) ((payAt credentials laterInUtc).map .move)
      ((payAt inEast later).map .move) ∧
    (∀ a ∈ (payAt credentials laterInUtc).map Act.move, a.KeepsTo World.shipped.catalog) ∧
    s.Reaches ∧ s'.Reaches ∧ s.Like .instants s' ∧
    s.system.receipt? 3 = some (bytes, secondReceipt) ∧
    (s'.system.receipt? 3).map (·.2.credential) = some secondReceipt.credential ∧
    Settings.shipped.emulator.billingPeriod.period.cycleBetween springNoon mayNight.zoned =
      Settings.shipped.emulator.billingPeriod.period.cycleBetween springInUtc.zoned
        mayNight.zoned := by
  have hepoch : World.shipped.clock.Like .instants epochInEast :=
    (Moment.like_instants_iff rfl).2 (by decide)
  have hlater : laterInUtc.Like .instants later := (Moment.like_instants_iff rfl).2 (by decide)
  have hacts : List.Forall₂ (Act.Like .instants) ((payAt credentials laterInUtc).map .move)
      ((payAt inEast later).map .move) :=
    Act.like_moves (like_payAt ⟨rfl, rfl, hepoch⟩ hlater)
  have hkeeps : ∀ a ∈ (payAt credentials laterInUtc).map Act.move,
      a.KeepsTo World.shipped.catalog := fun _ => keepsTo_payAt
  have hr : ((start .shipped).run ((payAt credentials laterInUtc).map .move)).Reaches := by
    decide +kernel
  have hr' : ((start { World.shipped with clock := epochInEast }).run
      ((payAt inEast later).map .move)).Reaches := by decide +kernel
  obtain ⟨hlike, hzones⟩ := like_run_of_instants World.fresh_shipped hepoch hacts hkeeps hr hr'
  have hspring := hzones Settings.shipped.emulator.billingPeriod.period springNoon springInUtc.zoned
    (by decide) (by decide)
  exact ⟨World.fresh_shipped, hepoch, hacts, hkeeps, hr, hr', hlike, by decide +kernel,
    by decide +kernel, hspring.cycle _ mayNight.zoned (by decide) rfl nofun
      (ZonedTime.steady_zoned _ springInUtc)⟩

namespace Sample

/-- The record that a subscriber reads once it is known. -/
def firstRecord (c : Credentials) : Except Fault Subscriber :=
  let known := (World.perform asShipped.1 (Manager.updateSubscriber c) .shipped).2
  (World.perform asShipped.1 (Manager.getSubscriber c) known).1

end Sample

open Sample in
/-- With clocks that are set forward the instant of a payment does not settle when a credential for it
expires.  And the record that a subscriber reads is not the same at the same instant on another clock
that is never set: it keeps what that clock showed. -/
theorem Session.not_like_run_of_instants_evening :
    (evening.instant = night.zoned.instant ∧
      (⟨.shipped⟩ : Catalog).expirationOf evening ≠
        (⟨.shipped⟩ : Catalog).expirationOf night.zoned) ∧
    Moment.epoch.instant = epochInEast.instant ∧
      ∃ r r', firstRecord credentials = .ok r ∧ firstRecord inEast = .ok r' ∧
        r.createdAt.instant = r'.createdAt.instant ∧ r ≠ r' := by
  refine ⟨⟨by decide, ?_⟩, by decide, _, _, rfl, rfl, by decide +kernel, by decide +kernel⟩
  rw [expirationOf_evening, expirationOf_night]
  decide

end Patronage
