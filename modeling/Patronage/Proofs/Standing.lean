import Patronage.Proofs.Single
import Patronage.Proofs.Trial
/-!
# What everything stored stands on

A stored customer is one of a processor in use, since only such a processor makes customers, and no
subscription was made at a later time than it is, as long as the clock is not set back.  Main
statements:

* `System.housed_play` — every stored customer is one of a processor in use;
* `System.dated_play` — no subscription was made after the present moment.
-/

namespace Patronage

open Manager

/-! ### Processors in use -/

/-- The call gives nobody a customer of a processor that is not in use. -/
def Call.Houses (registry : Registry) : Call → Prop
  | .setCustomer _ c _ => (registry.find? c.provider).isSome
  | _ => True

theorem Call.Houses.of_kind {registry : Registry} {c : Call}
    (h : c.Registers ∨ c.Cancels ∨ c.Moves ∨ c.Opens ∨ c.Redeems) : c.Houses registry := by
  cases c with
  | setCustomer => simp [Registers, Cancels, Moves, Opens, Redeems] at h
  | _ => trivial

/-- The processors in use are those of a registry, and every stored customer is one of them. -/
structure Course.Housed (registry : Registry) (s : Course) : Prop where
  registered : ∀ p, (s.world.registry.find? p).isSome = (registry.find? p).isSome
  customers : ∀ user r c, s.world.store.find? user = some r → r.customer = some c →
    (registry.find? c.provider).isSome

namespace Course

variable {registry : Registry} {s s' : Course}

theorem Housed.alike (h : s.Housed registry) (ha : s.Alike s') : s'.Housed registry := by
  refine ⟨fun p => ?_, fun user r c hr hc => ?_⟩
  · rw [ha.world.registry]
    exact h.registered p
  · rw [ha.world.store] at hr
    exact h.customers user r c hr hc

/-- An update gives a customer of these processors, or none that was not there. -/
theorem Housed.of_update {α : Type} (h : s.Housed registry) {user : Bytes}
    {change : Subscriber → Subscriber} {report : Subscriber → Subscriber → α × Log.Entry}
    {store : Store} (hstore : store = (s.world.store.update user change report).state)
    (hchange : ∀ r c, (change r).customer = some c →
      r.customer = some c ∨ (registry.find? c.provider).isSome) :
    ∀ v r' c, store.find? v = some r' → r'.customer = some c →
      (registry.find? c.provider).isSome := by
  intro v r' c hr' hc
  rw [hstore] at hr'
  rcases Store.find?_of_update hr' with ⟨r, hr, ⟨-, rfl⟩ | ⟨-, rfl⟩⟩
  · obtain hold | hnew := hchange r c hc
    · exact h.customers v r c hr hold
    · exact hnew
  · exact h.customers v r' c hr hc

theorem Housed.after (h : s.Housed registry) (rules : Rules) {c : Call}
    (hc : c.Houses registry) : (s.after rules c).Housed registry := by
  refine ⟨fun p => (World.isSome_find?_answer rules s.world c p).trans (h.registered p), ?_⟩
  by_cases hstores : c.Stores
  · cases c with
    | create user password now =>
      intro v r customer hr hcustomer
      have hstore : (s.after rules (.create user password now)).world.store =
        (s.world.store.create user password now).state := World.store_writeAll _ _
      rw [hstore] at hr
      rcases Store.find?_of_create hr with hold | ⟨-, -, rfl⟩
      · exact h.customers v r customer hold hcustomer
      · cases hcustomer
    | accessedAt | canceledAt | subscriptionCreated | levelChanged =>
      refine h.of_update (World.store_writeAll _ _) ?_
      exact fun r customer hr => .inl hr
    | setCustomer user customer now =>
      refine h.of_update (World.store_writeAll _ _) fun r customer' hr => ?_
      unfold Subscriber.withCustomer at hr
      split at hr
      · exact .inl hr
      · obtain rfl := Option.some.inj hr
        exact .inr hc
    | _ => exact hstores.elim
  · intro user r customer hr hcustomer
    have hstore : (s.after rules c).world.store = s.world.store := World.store_answer rules hstores
    rw [hstore] at hr
    exact h.customers user r customer hr hcustomer

/-- Only a processor in use makes a customer. -/
theorem Housed.of_createCustomer (h : s.Housed registry) {rules : Rules} {luck : Luck}
    {p : Provider} {user : Bytes} {platform : Platform} {customer : Customer}
    (hok : (s.ask rules luck (.createCustomer p user platform)).1 = .ok customer) :
    (registry.find? p).isSome := by
  have hanswer : (s.world.withMint p fun e m => e.createCustomer m user platform).1 =
    .ok customer := ((ask_eq_ok_iff rules).1 hok).2
  rw [← h.registered p]
  cases he : s.world.registry.find? p with
  | some e => rfl
  | none =>
    rw [World.withMint_of_none he] at hanswer
    cases hanswer

end Course

/-- The discipline by which stored customers are those of processors in use. -/
def Discipline.housing (registry : Registry) : Discipline (Rules × Luck) :=
  .keeping .inMemory (Course.Housed registry) fun ha h => h.alike ha

namespace Discipline

open Program

variable {registry : Registry}

theorem call_housing (i : Rules × Luck) (c : Call) (s : Course) (hc : c.Houses registry)
    (hs : (housing registry).inv s) :
    (housing registry).keep s ((housing registry).service i c s).2 ∧
      (housing registry).inv ((housing registry).service i c s).2 := by
  refine ⟨trivial, ?_⟩
  obtain he | he := s.ask_eq_or i.1 i.2 c
  · exact he.symm ▸ hs
  · exact he.symm ▸ Course.Housed.after hs i.1 hc

/-- Programs that give no customer keep it. -/
theorem keeps_housing_of_uses {α : Type} {p : Program α} (hp : p.Uses (Call.Houses registry))
    (s : Course) : p.Keeps (housing registry) (onOk fun _ _ => True) s :=
  (keeps_of_uses call_housing hp s).mono fun _ _ _ _ _ _ => trivial

/-- A subscriber is given a customer only once the processor has made one. -/
theorem keeps_housing_attach (c : Credentials) (p : Provider) (platform : Platform)
    (r : Subscriber) {s : Course} (hs : (housing registry).inv s) :
    (attach c p platform r).Keeps (housing registry) (onOk fun _ _ => True) s := by
  unfold attach
  split
  · split
    · exact fun _ _ _ _ => trivial
    · exact keeps_error
  · have hcreate : (Program.ask (.createCustomer p c.user platform)).Keeps (housing registry)
        (onOk fun _ _ => (registry.find? p).isSome) s := by
      intro s' h' i
      obtain ⟨hkeep, hinv⟩ := call_housing i (.createCustomer p c.user platform) s' trivial h'.inv
      exact ⟨hkeep, hinv, fun _ _ _ hok => Course.Housed.of_createCustomer h'.inv hok⟩
    -- others may have done anything since, but a processor stays in use
    refine hcreate.bind hs fun customer s' _ hp => ?_
    have hhouses : (Call.setCustomer r.user ⟨customer.id, p⟩ c.now).Houses registry := hp
    exact keeps_housing_of_uses (uses_persist (uses_ask hhouses)) s'

theorem keeps_housing_addPaymentMethod (c : Credentials) (p : Provider) (platform : Platform)
    {s : Course} (hs : (housing registry).inv s) :
    (addPaymentMethod c p platform).Keeps (housing registry) (fun _ _ => True) s := by
  refine Keeps.within ?_ hs (fun _ _ _ _ _ => trivial) _
  refine (keeps_housing_of_uses (uses_getSubscriber c trivial) s).bind_any hs fun r s' hs' _ => ?_
  refine (keeps_housing_attach c p platform r hs').bind_any hs' fun r' s'' _ _ => ?_
  refine (keeps_housing_of_uses ?_ s'').mono fun _ _ _ _ => trivial
  split
  · split
    · exact uses_ask trivial
    · trivial
  · trivial

/-- Every request keeps it. -/
theorem keeps_housing (r : Request) {s : Course} (hs : (housing registry).inv s) :
    r.program.Keeps (housing registry) (fun _ _ => True) s := by
  have kind : (∀ c, r.Makes c → c.Registers ∨ c.Cancels ∨ c.Moves ∨ c.Opens ∨ c.Redeems) →
      r.program.Keeps (housing registry) (fun _ _ => True) s := fun h =>
    keeps_of_uses call_housing (r.uses_program.mono fun c hc => .of_kind (h c hc)) s
  cases r with
  | addPaymentMethod c p platform => exact keeps_housing_addPaymentMethod c p platform hs
  | updateSubscriber | getSubscriber => exact kind fun c h => .inl h
  | deleteSubscriber => exact kind fun c h => .inr (.inl h)
  | updateLevel => exact kind fun c h => by rcases h with h | h <;> simp [h]
  | readAndUpdateLevel => exact kind fun c h => by rcases h with h | h | h <;> simp [h]
  | createReceipt => exact kind fun c h => .inr (.inr (.inr (.inr h)))

end Discipline

/-- However requests take turns, the processors in use stay the same, and every stored customer is
one of them. -/
theorem System.housed_play {w : World} (hw : w.Fresh) (moves : List (Move (Rules × Luck))) :
    ((start w).play .inMemory moves).course.Housed w.registry := by
  have hstart : (start w).Disciplined (.housing w.registry) (fun _ _ _ => True) := by
    refine ⟨⟨fun _ => rfl, ?_⟩, fun t ht => absurd ht List.not_mem_nil⟩
    intro user r c hr
    rw [show (start w).course.world.store = .empty from hw.store] at hr
    cases hr
  have hplay : ((start w).play .inMemory moves).Disciplined (.housing w.registry)
      (fun _ _ _ => True) :=
    (hstart.play (fun _ => trivial) fun r _ s' hs' => Discipline.keeps_housing r hs').2
  exact hplay.inv

/-! ### The clock -/

namespace World

variable {α : Type} (w : World)

@[simp] theorem clock_writeAll (es : List Log.Entry) : (w.writeAll es).clock = w.clock := by
  induction es generalizing w with
  | nil => rfl
  | cons e es ih => exact ih (w.write e)

@[simp] theorem clock_withMint (p : Provider)
    (act : Emulator → Mint → Outcome (Emulator × TokenSource) α) :
    (w.withMint p act).2.clock = w.clock := by
  cases hp : w.registry.find? p <;> simp [withMint_of_none, withMint_of_some, hp]

@[simp] theorem clock_withProcessor (p : Provider) (act : Emulator → Outcome Emulator α) :
    (w.withProcessor p act).2.clock = w.clock := by
  cases hp : w.registry.find? p <;> simp [withProcessor_of_none, withProcessor_of_some, hp]

/-- No call sets the clock. -/
theorem clock_answer (rules : Rules) (c : Call) : (w.answer rules c).2.clock = w.clock := by
  cases c <;> simp [answer, withStore, withLedger, asking]

end World

/-- One moment is on a clock with an offset and no later than another one. -/
def Moment.NotAfter (m now : Moment) : Prop := m.offset.isSome ∧ m.utcMicros ≤ now.utcMicros

namespace Emulator

/-- No subscription was made after a moment. -/
def Dated (now : Moment) (e : Emulator) : Prop :=
  ∀ id s, e.subscriptions.get? id = some s → s.createdAt.NotAfter now

theorem Dated.mono {now later : Moment} {e : Emulator} (h : e.Dated now)
    (hlater : now.utcMicros ≤ later.utcMicros) : e.Dated later := by
  intro id s hs
  obtain ⟨hoffset, hle⟩ := h id s hs
  exact ⟨hoffset, Int.le_trans hle hlater⟩

/-- Whatever an operation does at a moment, no subscription was made after it. -/
theorem Shift.dated {m : Mint} {p : Provider} {e : Emulator} {c : Call} {s : Emulator × TokenSource}
    {d : Option String} (h : e.Shift m p c s d) (hm : m.now.offset.isSome) (he : e.Dated m.now) :
    s.1.Dated m.now := by
  intro id sub hsub
  obtain ⟨id₀, old, hold, -, hcreated⟩ | ⟨-, hcreated⟩ := h.subscription_cases hsub
  · rw [hcreated]
    exact he id₀ old hold
  · rw [hcreated]
    exact ⟨hm, Int.le_refl _⟩

end Emulator

/-- The clock has an offset, and no subscription was made after what it shows. -/
structure World.Dated (w : World) : Prop where
  clock : w.clock.offset.isSome
  subscriptions : ∀ p e, w.registry.find? p = some e → e.Dated w.clock

namespace World

variable {w w' : World}

/-- Only the processors and the clock count. -/
theorem Dated.congr (h : w.Dated) (hregistry : w'.registry = w.registry)
    (hclock : w'.clock = w.clock) : w'.Dated := by
  refine ⟨by rw [hclock]; exact h.clock, fun p e he => ?_⟩
  rw [hclock]
  rw [hregistry] at he
  exact h.subscriptions p e he

theorem Dated.answer (h : w.Dated) (rules : Rules) (c : Call) : (w.answer rules c).2.Dated := by
  have hclock := w.clock_answer rules c
  cases w.shift_answer rules c with
  | same registry => exact h.congr registry hclock
  | «at» p e e' t find shift registry =>
    refine ⟨by rw [hclock]; exact h.clock, fun q e₁ he₁ => ?_⟩
    rw [hclock]
    rw [registry, Registry.find?_set] at he₁
    split at he₁
    · obtain rfl := Option.some.inj he₁
      exact shift.dated h.clock (h.subscriptions p e find)
    · exact h.subscriptions q e₁ he₁

theorem Dated.clockAt {now : Moment} (h : w.Dated) (hoffset : now.offset.isSome)
    (hlater : w.clock.utcMicros ≤ now.utcMicros) : World.Dated { w with clock := now } :=
  ⟨hoffset, fun p e he => (h.subscriptions p e he).mono hlater⟩

theorem Fresh.dated (h : w.Fresh) (hclock : w.clock.offset.isSome) : w.Dated := by
  refine ⟨hclock, fun p e he id s hs => ?_⟩
  rw [(h.registry he).2.1] at hs
  cases hs

end World

/-- As moves follow one another, the clock always has an offset and is never set back. -/
def Move.Steady {ι : Type} (now : Moment) : List (Move ι) → Prop
  | [] => True
  | .setClock later :: moves =>
    later.offset.isSome ∧ now.utcMicros ≤ later.utcMicros ∧ Steady later moves
  | .arrive _ :: moves | .advance .. :: moves => Steady now moves

namespace System

variable {w : World}

/-- A step of a request sets no clock, and what every call keeps it keeps. -/
theorem dated_advance {s : System} (h : s.course.world.Dated) (k : Nat) (i : Rules × Luck) :
    (s.advance .inMemory k i).course.world.Dated ∧
      (s.advance .inMemory k i).course.world.clock = s.course.world.clock := by
  cases hk : s.tasks[k]? with
  | none =>
    rw [advance, hk]
    exact ⟨h, rfl⟩
  | some t =>
    rw [advance_of_getElem? hk]
    obtain ⟨r, p, ctx⟩ := t
    cases p with
    | done | enter | leave | log => exact ⟨h.congr rfl rfl, rfl⟩
    | call c next =>
      have hask : ∀ s' : Course, s'.world.Dated → (s'.ask i.1 i.2 c).2.world.Dated ∧
          (s'.ask i.1 i.2 c).2.world.clock = s'.world.clock := by
        intro s' hs'
        obtain he | he := s'.ask_eq_or i.1 i.2 c
        · rw [he]
          exact ⟨hs', rfl⟩
        · rw [he]
          exact ⟨hs'.answer i.1 c, s'.world.clock_answer i.1 c⟩
      obtain ⟨hdated, hclock⟩ := hask (s.course.within ctx) (h.congr rfl rfl)
      exact ⟨hdated.congr rfl rfl, hclock⟩

/-- While the clock is not set back, no subscription was made after what it shows. -/
theorem dated_play {s : System} (h : s.course.world.Dated) {moves : List (Move (Rules × Luck))}
    (hmoves : Move.Steady s.course.world.clock moves) :
    (s.play .inMemory moves).course.world.Dated := by
  induction moves generalizing s with
  | nil => exact h
  | cons m moves ih =>
    rw [play_cons]
    cases m with
    | arrive r => exact ih h hmoves
    | advance k i =>
      obtain ⟨hdated, hclock⟩ := dated_advance h k i
      have hstep : (s.step .inMemory (.advance k i)).course.world.clock = s.course.world.clock :=
        hclock
      exact ih hdated (hstep.symm ▸ hmoves)
    | setClock now =>
      obtain ⟨hoffset, hlater, hmoves⟩ := hmoves
      exact ih (h.clockAt hoffset hlater) hmoves

end System

end Patronage
