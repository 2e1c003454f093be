import Patronage.Proofs.Footprint
import Patronage.Proofs.Naming
/-!
# One running subscription for each subscriber

A subscription is made at the processor before it is noted in the store, and either step may fail.
What makes retries safe is the key that they compute again: as long as the store knows of no
subscription, a customer's running subscription, if there is one, is the one that the processor has
for the customer and the creation that the store noted last.  `Subscriber.Fits` says so, and
`Single` is the invariant.  Main statements:

* `Registry.Quiet` — calls that make no subscription leave what is running or stop it;
* `Single.opened` — a subscription is made only where none is running;
* `System.eq_of_runsFor` — no subscriber ever has two running subscriptions.
-/

namespace Patronage

open Manager

/-! ### Calls that make no subscription -/

namespace Subscription.Shift

variable {m : Mint} {p : Provider} {c : Call} {d : Option String} {s s' : Subscription}

theorem customerId (h : s.Shift m p c d s') : s'.customerId = s.customerId := by
  cases h <;> rfl

/-- No subscription starts to run again. -/
theorem active (h : s.Shift m p c d s') (ha : s'.status = .active) : s.status = .active := by
  cases h with
  | same => exact ha
  | moved _ _ _ _ _ _ _ active => exact active
  | billed _ _ _ _ active => exact active
  | closed => cases ha

end Subscription.Shift

/-- A later registry in which no subscription was made or started again. -/
structure Registry.Quiet (r r' : Registry) : Prop where
  customer : ∀ {p id c}, r.customer? p id = some c → r'.customer? p id = some c
  subscription : ∀ {p id s'}, r'.subscription? p id = some s' →
    ∃ s, r.subscription? p id = some s ∧ s.customerId = s'.customerId ∧
      (s'.status = .active → s.status = .active)
  created : ∀ p customerId last, r'.created? p customerId last = r.created? p customerId last

theorem Registry.Quiet.refl (r : Registry) : r.Quiet r :=
  ⟨fun h => h, fun h => ⟨_, h, rfl, id⟩, fun _ _ _ => rfl⟩

theorem Registry.Quiet.set_self {r : Registry} {p : Provider} {e : Emulator}
    (h : r.find? p = some e) : r.Quiet (r.set p e) := by
  have hself : ∀ q, (r.set p e).find? q = r.find? q := find?_set_self h
  refine ⟨fun {q id c} hc => ?_, fun {q id s'} hs' => ?_, fun q customerId last => ?_⟩
  · rwa [customer?, hself]
  · rw [subscription?, hself] at hs'
    exact ⟨s', hs', rfl, fun ha => ha⟩
  · rw [created?, hself, created?]

/-- A call that makes a subscription. -/
def Call.Subscribes : Call → Prop
  | .createSubscription .. => True
  | _ => False

namespace Emulator.Shift

variable {m : Mint} {p : Provider} {e : Emulator} {c : Call} {s : Emulator × TokenSource}
  {d : Option String} {ids : List String}

/-- A new customer does not take the place of another one. -/
theorem customer_kept (h : e.Shift m p c s d) (hn : e.Named ids) (hids : (ids ++ d.toList).Nodup)
    {id : String} {r : RemoteCustomer} (hr : e.customers.get? id = some r) :
    s.1.customers.get? id = some r := by
  cases h with
  | customer user platform =>
    have hne : m.identifier e.idLead .customer ≠ id := by
      intro he
      exact (List.nodup_append.1 hids).2.2 id (hn.customer hr).2 _ (by simp) he.symm
    simpa [withCustomer, hne] using hr
  | same | opened | moved | billed | closed => exact hr

theorem createdByKey_eq (h : e.Shift m p c s d) (hc : ¬c.Subscribes) :
    s.1.createdByKey = e.createdByKey := by
  cases h with
  | opened => exact absurd trivial hc
  | same | customer | moved | billed | closed => rfl

end Emulator.Shift

/-- Calls that make no subscription leave what is running or stop it. -/
theorem Course.quiet_after {s : Course} (h : s.Named) (rules : Rules) {c : Call}
    (hc : ¬c.Subscribes) (hids : (s.after rules c).drawn.Nodup) :
    s.world.registry.Quiet (s.after rules c).world.registry := by
  rw [drawn_after] at hids
  cases s.world.shift_answer rules c with
  | same registry => rw [after, registry]; exact .refl _
  | «at» q e e' t find shift registry =>
    rw [after, registry]
    refine ⟨fun {p id r} hr => ?_, fun {p id s'} hs' => ?_, fun p customerId last => ?_⟩
    · rw [Registry.customer?_set]
      split
      · rename_i hq
        subst hq
        rw [Registry.customer?_of_find? find] at hr
        exact shift.customer_kept (h find) hids hr
      · exact hr
    · rw [Registry.subscription?_set] at hs'
      split at hs'
      · rename_i hq
        subst hq
        obtain ⟨s, hs, hshift⟩ | ⟨_, _, _, _, _, rfl, _⟩ := shift.after (h find) hs'
        · exact ⟨s, by rwa [Registry.subscription?_of_find? find], hshift.customerId.symm,
            hshift.active⟩
        · exact absurd trivial hc
      · exact ⟨s', hs', rfl, fun ha => ha⟩
    · rw [Registry.created?_set]
      split
      · rename_i hq
        subst hq
        rw [Registry.created?_of_find? find, ← shift.createdByKey_eq hc]
      · rfl

/-! ### The store -/

/-- A subscriber that was found is stored. -/
theorem Store.find?_of_lookup {store : Store} {user hmac : Bytes} {s : Subscriber}
    (h : store.lookup user hmac = .found s) : store.find? user = some s := by
  unfold lookup at h
  split at h
  · cases h
  · rename_i s' hs'
    split at h
    · cases h
      exact hs'
    · cases h

/-- Who is stored after an update was stored before and has changed if the update was its own. -/
theorem Store.find?_of_update {α : Type} {store : Store} {user v : Bytes}
    {change : Subscriber → Subscriber} {report : Subscriber → Subscriber → α × Log.Entry}
    {s' : Subscriber} (h : (store.update user change report).state.find? v = some s') :
    ∃ s, store.find? v = some s ∧ ((user = v ∧ s' = change s) ∨ (user ≠ v ∧ s' = s)) := by
  rw [get?_update] at h
  split at h
  · rename_i hv
    obtain ⟨s, hs, rfl⟩ := Option.map_eq_some_iff.1 h
    exact ⟨s, hs, .inl ⟨hv, rfl⟩⟩
  · rename_i hv
    exact ⟨s', h, .inr ⟨hv, rfl⟩⟩

theorem Store.find?_update_of_some {α : Type} {store : Store} {user v : Bytes}
    (change : Subscriber → Subscriber) (report : Subscriber → Subscriber → α × Log.Entry)
    {s : Subscriber} (h : store.find? v = some s) :
    (store.update user change report).state.find? v =
      some (if user = v then change s else s) := by
  rw [get?_update, h]
  split <;> rfl

/-- Who is stored once a subscriber was to be stored was stored before or is that subscriber. -/
theorem Store.find?_of_create {store : Store} {user password v : Bytes} {now : Moment}
    {s' : Subscriber} (h : (store.create user password now).state.find? v = some s') :
    store.find? v = some s' ∨
      (user = v ∧ store.find? user = none ∧ s' = .new user password now) := by
  unfold create at h
  cases hs : store.find? user with
  | some s =>
    rw [hs] at h
    dsimp only at h
    split at h <;> exact .inl h
  | none =>
    rw [hs] at h
    by_cases hv : user = v
    · exact .inr ⟨hv, rfl, by simpa [Outcome.ok, find?, hv, eq_comm] using h⟩
    · exact .inl (by simpa [Outcome.ok, find?, hv] using h)

/-- Storing a subscriber keeps those that are stored. -/
theorem Store.find?_create_of_some (store : Store) (user password : Bytes) (now : Moment)
    {other : Bytes} {r : Subscriber} (hr : store.find? other = some r) :
    (store.create user password now).state.find? other = some r := by
  unfold create
  cases hs : store.find? user with
  | some s => dsimp only; split <;> exact hr
  | none =>
    have hne : user ≠ other := by
      rintro rfl
      rw [hs] at hr
      cases hr
    simpa [Outcome.ok, find?, hne] using hr

/-! ### The invariant -/

namespace Registry

/-- A running subscription of a customer. -/
def Runs (r : Registry) (c : Customer) (id : String) : Prop :=
  ∃ s, r.subscription? c.provider id = some s ∧ s.customerId = c.id ∧ s.status = .active

theorem Quiet.runs {r r' : Registry} (h : r.Quiet r') {c : Customer} {id : String}
    (hr : r'.Runs c id) : r.Runs c id := by
  obtain ⟨s', hs', hc, ha⟩ := hr
  obtain ⟨s, hs, hc', ha'⟩ := h.subscription hs'
  exact ⟨s, hs, hc'.trans hc, ha' ha⟩

/-- A customer that a processor made for a subscriber. -/
def Knows (r : Registry) (c : Customer) (user : Bytes) : Prop :=
  ∃ rc, r.customer? c.provider c.id = some rc ∧ rc.user = user

theorem Knows.unique {r : Registry} {c : Customer} {u v : Bytes} (h : r.Knows c u)
    (h' : r.Knows c v) : u = v := by
  obtain ⟨rc, hrc, rfl⟩ := h
  obtain ⟨rc', hrc', rfl⟩ := h'
  rw [Option.some.inj (hrc.symm.trans hrc')]

end Registry

/-- The seconds of the creation of a subscription that the store noted last. -/
def Subscriber.lastCreated (s : Subscriber) : Except Calendar.TimeError Int :=
  s.subscriptionCreatedAt.elim (.ok 0) Moment.epochSeconds

/-- What is kept about a subscriber agrees with the processors: its customer is its own, and if the
store knows of no subscription, what runs is what a retry would get. -/
structure Subscriber.Fits (r : Registry) (user : Bytes) (s : Subscriber) : Prop where
  identity : s.user = user
  customer : ∀ {c}, s.customer = some c → r.Knows c user
  replayed : ∀ {c id last}, s.customer = some c → s.subscriptionId = none → r.Runs c id →
    s.lastCreated = .ok last → r.created? c.provider c.id last = some id

/-- What the store and the processors know fits together. -/
structure Single (store : Store) (r : Registry) : Prop where
  fits : ∀ {user s}, store.find? user = some s → s.Fits r user
  /-- Whoever has a subscription is the customer of a stored subscriber. -/
  owned : ∀ {p id sub}, r.subscription? p id = some sub →
    ∃ user s, store.find? user = some s ∧ s.customer = some ⟨sub.customerId, p⟩
  once : ∀ {c id id'}, r.Runs c id → r.Runs c id' → id = id'

namespace Single

variable {store : Store} {r r' : Registry} {user : Bytes} {s : Subscriber}

theorem quiet (h : Single store r) (hq : r.Quiet r') : Single store r' where
  fits {user s} hs := by
    obtain ⟨hu, hc, hrep⟩ := h.fits hs
    refine ⟨hu, fun {c} hsc => ?_, fun hsc hnone hruns hlast => ?_⟩
    · obtain ⟨rc, hrc, hru⟩ := hc hsc
      exact ⟨rc, hq.customer hrc, hru⟩
    · rw [hq.created]
      exact hrep hsc hnone (hq.runs hruns) hlast
  owned {p id sub'} hsub' := by
    obtain ⟨sub, hsub, hc, -⟩ := hq.subscription hsub'
    rw [← hc]
    exact h.owned hsub
  once hruns hruns' := h.once (hq.runs hruns) (hq.runs hruns')

/-- A subscriber that fits and keeps its customer may change. -/
theorem update {α : Type} (h : Single store r) (change : Subscriber → Subscriber)
    (report : Subscriber → Subscriber → α × Log.Entry)
    (hfits : ∀ s, store.find? user = some s → (change s).Fits r user)
    (hkeeps : ∀ s c, s.customer = some c → (change s).customer = some c) :
    Single (store.update user change report).state r where
  fits {v s'} hs' := by
    rcases Store.find?_of_update hs' with ⟨s, hs, ⟨rfl, rfl⟩ | ⟨-, rfl⟩⟩
    · exact hfits s hs
    · exact h.fits hs
  owned hsub := by
    obtain ⟨v, s, hs, hc⟩ := h.owned hsub
    refine ⟨v, _, Store.find?_update_of_some change report hs, ?_⟩
    split
    · exact hkeeps s _ hc
    · exact hc
  once := h.once

/-- Changes that do not make the store forget a subscription do no harm. -/
theorem update_of_remembers {α : Type} (h : Single store r) (change : Subscriber → Subscriber)
    (report : Subscriber → Subscriber → α × Log.Entry)
    (huser : ∀ s, (change s).user = s.user) (hcustomer : ∀ s, (change s).customer = s.customer)
    (hnone : ∀ s, (change s).subscriptionId = none →
      s.subscriptionId = none ∧ (change s).subscriptionCreatedAt = s.subscriptionCreatedAt) :
    Single (store.update user change report).state r := by
  refine h.update change report (fun s hs => ?_) fun s c hc => (hcustomer s).trans hc
  obtain ⟨hu, hc, hrep⟩ := h.fits hs
  refine ⟨(huser s).trans hu, fun hsc => hc ((hcustomer s).symm.trans hsc),
    fun hsc hn hruns hlast => ?_⟩
  obtain ⟨hn', hcreated⟩ := hnone s hn
  refine hrep ((hcustomer s).symm.trans hsc) hn' hruns ?_
  rwa [Subscriber.lastCreated, hcreated] at hlast

theorem accessed (h : Single store r) (now : Moment) :
    Single (store.accessedAt user now).state r :=
  h.update_of_remembers _ _ (fun _ => rfl) (fun _ => rfl) fun _ hn => ⟨hn, rfl⟩

theorem subscribed (h : Single store r) (id : String) (now : Moment) (level : Int) :
    Single (store.subscriptionCreated user id now level).state r :=
  h.update_of_remembers _ _ (fun _ => rfl) (fun _ => rfl) fun _ hn => nomatch hn

theorem moved (h : Single store r) (now : Moment) (level : Int) (id : String) :
    Single (store.levelChanged user now level id).state r :=
  h.update_of_remembers _ _ (fun _ => rfl) (fun _ => rfl) fun _ hn => nomatch hn

theorem created (h : Single store r) (password : Bytes) (now : Moment) :
    Single (store.create user password now).state r := by
  refine ⟨fun hs' => ?_, fun hsub => ?_, h.once⟩
  · rcases Store.find?_of_create hs' with hs | ⟨rfl, -, rfl⟩
    · exact h.fits hs
    · exact ⟨rfl, fun hc => (by cases hc), fun hc => (by cases hc)⟩
  · obtain ⟨v, s, hs, hc⟩ := h.owned hsub
    exact ⟨v, s, store.find?_create_of_some user password now hs, hc⟩

/-- A subscriber may be canceled once nothing of its customer runs. -/
theorem canceled (h : Single store r) (hs : store.find? user = some s)
    (hstopped : ∀ c, s.customer = some c → ∀ id, ¬r.Runs c id) (now : Moment) :
    Single (store.canceledAt user now).state r := by
  refine h.update _ _ (fun s' hs' => ?_) fun s' c hc => hc
  obtain rfl := Option.some.inj (hs.symm.trans hs')
  obtain ⟨hu, hc, -⟩ := h.fits hs
  exact ⟨hu, hc, fun hsc _ hruns => absurd hruns (hstopped _ hsc _)⟩

/-- A subscriber may get a customer that a processor made for it. -/
theorem attached (h : Single store r) {c : Customer} (hknows : r.Knows c user) (now : Moment) :
    Single (store.setCustomer user c now).state r := by
  refine h.update _ _ (fun s hs => ?_) fun s c' hc' => by simp [Subscriber.withCustomer, hc']
  obtain ⟨hu, hc, hrep⟩ := h.fits hs
  cases hsc : s.customer with
  | some c' => simpa [Subscriber.withCustomer, hsc] using h.fits hs
  | none =>
    simp only [Subscriber.withCustomer, hsc]
    refine ⟨hu, fun hc' => ?_, fun hc' _ hruns => ?_⟩
    · obtain rfl := Option.some.inj hc'
      exact hknows
    · -- whoever owned what runs would be this very subscriber, which has no customer
      obtain rfl := Option.some.inj hc'
      obtain ⟨sub, hsub, hcid, -⟩ := hruns
      obtain ⟨v, s', hs', hc''⟩ := h.owned hsub
      rw [hcid] at hc''
      obtain rfl := hknows.unique ((h.fits hs').customer hc'')
      rw [Option.some.inj (hs.symm.trans hs'), hc''] at hsc
      cases hsc

/-- A subscription is made only where none is running: what runs would have been found under the key
of the store's last creation. -/
theorem opened (h : Single store r) {c : Customer} (hs : store.find? user = some s)
    (hc : s.customer = some c) (hnone : s.subscriptionId = none) {last : Int}
    (hlast : s.lastCreated = .ok last) {e : Emulator} (he : r.find? c.provider = some e)
    (hnew : e.createdByKey.get? (c.id, last) = none) {sub : Subscription}
    (hsub : sub.customerId = c.id) :
    Single store (r.set c.provider (e.withSubscription sub last)) := by
  have hcreated : r.created? c.provider c.id last = none := by
    rw [Registry.created?_of_find? he, hnew]
  have hidle : ∀ {id}, ¬r.Runs c id := fun hruns => by
    rw [(h.fits hs).replayed hc hnone hruns hlast] at hcreated
    cases hcreated
  have hsubs : ∀ {p id sub'},
      (r.set c.provider (e.withSubscription sub last)).subscription? p id = some sub' →
        (p = c.provider ∧ id = sub.id ∧ sub' = sub) ∨ r.subscription? p id = some sub' := by
    intro p id sub' hsub'
    rw [Registry.subscription?_set] at hsub'
    split at hsub'
    · rename_i hp
      subst hp
      rw [Registry.subscription?_of_find? he]
      by_cases hid : sub.id = id
      · simp only [Emulator.withSubscription, hid, Assoc.get?_insert, if_pos,
          Option.some.injEq] at hsub'
        exact .inl ⟨rfl, hid.symm, hsub'.symm⟩
      · exact .inr (by simpa [Emulator.withSubscription, hid] using hsub')
    · exact .inr hsub'
  have hruns : ∀ {c' id}, (r.set c.provider (e.withSubscription sub last)).Runs c' id →
      (c' = c ∧ id = sub.id) ∨ r.Runs c' id := by
    rintro ⟨cid, p⟩ id ⟨sub', hsub', hcid, ha⟩
    obtain ⟨hp, hid, rfl⟩ | hold := hsubs hsub'
    · obtain rfl : cid = c.id := hcid.symm.trans hsub
      obtain rfl : p = c.provider := hp
      exact .inl ⟨rfl, hid⟩
    · exact .inr ⟨sub', hold, hcid, ha⟩
  refine ⟨fun {v s'} hs' => ?_, fun hsub' => ?_, fun hr hr' => ?_⟩
  · obtain ⟨hu, hc', hrep⟩ := h.fits hs'
    refine ⟨hu, fun {c'} hsc => ?_, fun {c' id last'} hsc hn hr hlast' => ?_⟩
    · obtain ⟨rc, hrc, hru⟩ := hc' hsc
      refine ⟨rc, ?_, hru⟩
      rw [Registry.customer?_set]
      split
      · rename_i hp
        rw [← hp, Registry.customer?_of_find? he] at hrc
        exact hrc
      · exact hrc
    · obtain ⟨rfl, rfl⟩ | hr := hruns hr
      · -- the customer is one subscriber's only, so the key is the one just used
        obtain rfl := (hc' hsc).unique ((h.fits hs).customer hc)
        obtain rfl := Option.some.inj (hs.symm.trans hs')
        obtain rfl := Except.ok.inj (hlast.symm.trans hlast')
        simp [Emulator.withSubscription, hsub]
      · have hold := hrep hsc hn hr hlast'
        rw [Registry.created?_set]
        split
        · rename_i hp
          rw [← hp, Registry.created?_of_find? he] at hold
          have hne : (sub.customerId, last) ≠ (c'.id, last') := by
            rintro hk
            rw [← hk, hsub, hnew] at hold
            cases hold
          simpa [Emulator.withSubscription, hne] using hold
        · exact hold
  · obtain ⟨rfl, rfl, rfl⟩ | hold := hsubs hsub'
    · exact ⟨user, s, hs, by rw [hc, hsub]⟩
    · exact h.owned hold
  · obtain ⟨rfl, rfl⟩ | hold := hruns hr
    · obtain ⟨-, rfl⟩ | hold' := hruns hr'
      · rfl
      · exact absurd hold' hidle
    · obtain ⟨rfl, rfl⟩ | hold' := hruns hr'
      · exact absurd hold hidle
      · exact h.once hold hold'

end Single

/-! ### Calls -/

/-- Calls that fit in whoever makes them. -/
def Call.Harmless : Call → Prop
  | .canceledAt .. | .setCustomer .. | .createSubscription .. => False
  | _ => True

/-- Most operations make no other calls. -/
theorem Call.Harmless.of_kind {c : Call} (h : c.Registers ∨ c.Moves ∨ c.Redeems) : c.Harmless := by
  cases c with
  | canceledAt | setCustomer | createSubscription => simp [Registers, Moves, Redeems] at h
  | _ => trivial

namespace Course

/-- The invariant, while the identifiers drawn differ. -/
structure Single (s : Course) : Prop where
  named : s.Named
  single : s.drawn.Nodup → Patronage.Single s.world.store s.world.registry

theorem Single.after {s : Course} (h : s.Single) (rules : Rules) {c : Call} (hc : c.Harmless) :
    (s.after rules c).Single := by
  refine ⟨named_after h.named rules c, fun hids => ?_⟩
  have hsingle := h.single (nodup_of_after hids)
  by_cases hstores : c.Stores
  · -- the processors stay as they are
    cases c with
    | canceledAt | setCustomer => exact hc.elim
    | create user password now =>
      simpa [Course.after, World.answer, World.withStore] using hsingle.created password now
    | accessedAt user now =>
      simpa [Course.after, World.answer, World.withStore] using hsingle.accessed now
    | subscriptionCreated user id now level =>
      simpa [Course.after, World.answer, World.withStore] using hsingle.subscribed id now level
    | levelChanged user now level id =>
      simpa [Course.after, World.answer, World.withStore] using hsingle.moved now level id
    | _ => exact hstores.elim
  · have hsubscribes : ¬c.Subscribes := by
      cases c with
      | createSubscription => exact hc.elim
      | _ => exact id
    exact (World.store_answer rules hstores).symm ▸
      hsingle.quiet (quiet_after h.named rules hsubscribes hids)

end Course

/-- Canceling answers only when nothing of the customer runs any more, and a customer that is said
to be missing is missing. -/
theorem World.cancelAll_answer (rules : Rules) (w : World) (c : Customer) :
    let o := w.answer rules (.cancelAll c.provider c.id)
    (o.1 = .ok () → ∀ id, ¬o.2.registry.Runs c id) ∧
      ∀ e, o.1 = .error (.processor e) → e.code = ProcessorError.resourceMissing →
        w.registry.customer? c.provider c.id = none := by
  intro o
  have ho : o = w.withProcessor c.provider fun e => e.cancelAll w.clock c.id := rfl
  cases he : w.registry.find? c.provider with
  | none =>
    rw [ho, withProcessor_of_none he]
    refine ⟨fun hok => (by cases hok), fun e hfault _ => ?_⟩
    cases hfault
  | some e =>
    rw [ho, withProcessor_of_some he]
    unfold Emulator.cancelAll
    cases hc : e.customers.get? c.id with
    | none =>
      rw [Registry.customer?_of_find? he, hc]
      simp [Emulator.customer, hc, Outcome.fail]
    | some rc =>
      simp only [Emulator.customer, hc, Option.elim_some, Outcome.ok]
      refine ⟨fun _ id hruns => ?_, fun e hfault => (by cases hfault)⟩
      obtain ⟨s, hs, hcid, ha⟩ := hruns
      rw [registry_writeAll, Registry.subscription?_set, if_pos rfl, Assoc.get?_mapValues] at hs
      obtain ⟨s', -, rfl⟩ := Option.map_eq_some_iff.1 hs
      by_cases h : s'.isActiveOf c.id
      · simp [h, Subscription.cancel] at ha
      · rw [if_neg h] at ha hcid
        exact h (Subscription.isActiveOf_iff.2 ⟨hcid, ha⟩)

/-- A customer that a processor answered with is known to it. -/
theorem World.createCustomer_answer (rules : Rules) (w : World) (p : Provider) (user : Bytes)
    (platform : Platform) {c : Customer}
    (h : (w.answer rules (.createCustomer p user platform)).1 = .ok c) :
    (w.answer rules (.createCustomer p user platform)).2.registry.Knows ⟨c.id, p⟩ user := by
  have hw : w.answer rules (.createCustomer p user platform) =
    w.withMint p fun e m => e.createCustomer m user platform := rfl
  cases he : w.registry.find? p with
  | none => rw [hw, withMint_of_none he] at h; cases h
  | some e =>
    rw [hw, withMint_of_some he] at h ⊢
    obtain rfl := Except.ok.inj h
    exact ⟨⟨w.mint.identifier e.idLead .customer, user, platform, false⟩,
      by simp [Emulator.createCustomer, Outcome.ok], rfl⟩

namespace Course

variable {s : Course} {user : Bytes} {r : Subscriber}

theorem Single.canceledAt (h : s.Single) (rules : Rules) (hr : s.world.store.find? user = some r)
    (hstopped : s.drawn.Nodup → ∀ c, r.customer = some c → ∀ id, ¬s.world.registry.Runs c id)
    (now : Moment) : (s.after rules (.canceledAt user now)).Single := by
  refine ⟨named_after h.named rules _, fun hids => ?_⟩
  have hids := nodup_of_after hids
  simpa [Course.after, World.answer, World.withStore] using
    (h.single hids).canceled hr (hstopped hids) now

theorem Single.setCustomer (h : s.Single) (rules : Rules) {c : Customer}
    (hknows : s.drawn.Nodup → s.world.registry.Knows c user) (now : Moment) :
    (s.after rules (.setCustomer user c now)).Single := by
  refine ⟨named_after h.named rules _, fun hids => ?_⟩
  have hids := nodup_of_after hids
  simpa [Course.after, World.answer, World.withStore] using
    (h.single hids).attached (hknows hids) now

theorem Single.createSubscription (h : s.Single) (rules : Rules)
    (hr : s.world.store.find? user = some r) {c : Customer} (hc : r.customer = some c)
    (hnone : r.subscriptionId = none) {last : Int} (hlast : r.lastCreated = .ok last)
    (templateId : String) (level : Int) :
    (s.after rules (.createSubscription c.provider c.id templateId level last)).Single := by
  refine ⟨named_after h.named rules _, fun hids => ?_⟩
  have hsingle := h.single (nodup_of_after hids)
  rw [show (s.after rules _).world.store = s.world.store from World.store_answer rules id]
  cases s.world.shift_answer rules
    (.createSubscription c.provider c.id templateId level last) with
  | same registry => rw [Course.after, registry]; exact hsingle
  | «at» p e e' t find shift registry =>
    rw [Course.after, registry]
    generalize s.world.drawn? _ = d at shift
    cases shift with
    -- refused, or answered with what the key made before
    | same => exact hsingle.quiet (.set_self find)
    | opened _ _ _ _ currency known new =>
      exact hsingle.opened hr hc hnone hlast find new rfl

end Course

/-- One request at a time, over the collaborators in memory. -/
def Discipline.single : Discipline (Rules × Luck) where
  service := .inMemory
  inv := Course.Single
  rely := Course.Alike
  keep _ _ := True
  refl := .refl
  trans := .trans
  alike := id
  inv_alike {s s'} ha h := by
    refine ⟨Course.Named.alike h.named ha, fun hids => ?_⟩
    rw [ha.world.store, ha.world.registry]
    exact h.single (ha.drawn ▸ hids)

/-! ### Operations -/

namespace Course

/-- The store has a subscriber as it was read. -/
def Reads (user : Bytes) (r : Subscriber) (s : Course) : Prop := s.world.store.find? user = some r

theorem Reads.alike {user : Bytes} {r : Subscriber} {s s' : Course} (h : s.Reads user r)
    (ha : s.Alike s') : s'.Reads user r := by
  rwa [Reads, ha.world.store]

theorem Reads.after {user : Bytes} {r : Subscriber} {s : Course} (h : s.Reads user r)
    (rules : Rules) {c : Call} (hc : ¬c.Stores) : (s.after rules c).Reads user r := by
  rwa [Reads, Course.after, World.store_answer rules hc]

/-- The store has a subscriber as it was read, and nothing of its customer runs. -/
structure Stopped (user : Bytes) (r : Subscriber) (c : Customer) (s : Course) : Prop where
  reads : s.Reads user r
  idle : s.drawn.Nodup → ∀ id, ¬s.world.registry.Runs c id

theorem Stopped.alike {user : Bytes} {r : Subscriber} {c : Customer} {s s' : Course}
    (h : s.Stopped user r c) (ha : s.Alike s') : s'.Stopped user r c := by
  refine ⟨h.reads.alike ha, ?_⟩
  rw [ha.world.registry, ha.drawn]
  exact h.idle

end Course

namespace Manager

open Program

/-- What a call does is known from the course that it meets. -/
theorem keeps_ask {c : Call} {post : Except Fault c.Answer → Course → Prop} {s : Course}
    (stable : ∀ {r s s'}, s.Alike s' → post r s → post r s')
    (h : ∀ s', s.Alike s' → s'.Single → ∀ rules, (s'.after rules c).Single ∧
      post (s'.world.answer rules c).1 (s'.after rules c))
    (hmishap : ∀ (m : Mishap) s', post (.error m.fault) s') :
    (ask c).Keeps .single post s := by
  intro s' hs i
  obtain ⟨rules, luck⟩ := i
  obtain ⟨hsingle, hpost⟩ := h s' hs.rely hs.inv rules
  cases luck with
  | fine => exact ⟨trivial, hsingle, fun s'' h' => stable h'.rely hpost⟩
  | before m => exact ⟨trivial, hs.inv, fun s'' _ => hmishap m s''⟩
  | after m => exact ⟨trivial, hsingle, fun s'' _ => hmishap m s''⟩

/-- Whatever was read is still there when a call answers that leaves the store alone. -/
theorem keeps_ask_ok {c : Call} {post : c.Answer → Course → Prop} {s : Course}
    (stable : ∀ {a s s'}, s.Alike s' → post a s → post a s')
    (h : ∀ s', s.Alike s' → s'.Single → ∀ rules, (s'.after rules c).Single ∧
      ∀ a, (s'.world.answer rules c).1 = .ok a → post a (s'.after rules c)) :
    (ask c).Keeps .single (onOk post) s :=
  keeps_ask (fun ha hp a he => stable ha (hp a he)) h fun _ _ _ he => nomatch he

theorem keeps_harmless {α : Type} {p : Program α} (h : p.Uses Call.Harmless) (s : Course) :
    p.Keeps .single (fun _ _ => True) s := by
  refine Discipline.keeps_of_uses (fun i c s hc hs => ⟨trivial, ?_⟩) h s
  obtain hs' | hs' := s.ask_eq_or i.1 i.2 c
  · exact hs'.symm ▸ hs
  · exact hs'.symm ▸ hs.after _ hc

theorem keeps_lookUp (user hmac : Bytes) (s : Course) :
    (ask (.lookUp user hmac)).Keeps .single
      (onOk fun l s' => ∀ r, l = .found r → s'.Reads user r) s := by
  refine keeps_ask_ok (fun ha hp r hr => (hp r hr).alike ha) fun s' _ hs' rules =>
    ⟨hs'.after rules trivial, fun l hl r hr => ?_⟩
  obtain rfl := Except.ok.inj hl
  have hfind : s'.Reads user r := Store.find?_of_lookup hr
  exact hfind.after rules id

/-- The subscriber answered is the one that is stored. -/
theorem keeps_getSubscriber (c : Credentials) {s : Course} (hs : s.Single) :
    (getSubscriber c).Keeps .single (onOk fun r s' => s'.Reads c.user r) s := by
  unfold getSubscriber operation
  refine Keeps.within ?_ hs (fun r s' s'' h hr a ha => (hr a ha).alike h.rely) _
  refine (keeps_lookUp c.user c.hmac s).bind hs fun l s' hs' hl => ?_
  cases l with
  | wrongPassword => exact keeps_error
  | notStored => exact keeps_error
  | found r =>
    intro s'' h' a ha
    obtain rfl := Except.ok.inj ha
    exact (hl r rfl).alike h'.rely

/-- Once the customer of a subscriber that was read is canceled at its processor, nothing of it runs
any more. -/
theorem keeps_cancelRemote {user : Bytes} {r : Subscriber} {c : Customer} {s : Course}
    (hs : s.Single) (hr : s.Reads user r) (hc : r.customer = some c) :
    (cancelRemote c).Keeps .single (onOk fun _ s' => s'.Stopped user r c) s := by
  have hprocessor : (ask (.processorOf c.provider)).Keeps .single
      (onOk fun _ s' => s'.Reads user r) s :=
    keeps_ask_ok (fun ha hp => hp.alike ha) fun s' ha hs' rules =>
      ⟨hs'.after rules trivial, fun _ _ => (hr.alike ha).after rules id⟩
  refine hprocessor.bind hs fun _ s hs hr => ?_
  have hcancel : (ask (.cancelAll c.provider c.id)).Keeps .single
      (fun o s' => (o = .ok () ∨ ∃ e, o = .error (.processor e) ∧
        e.code = ProcessorError.resourceMissing) → s'.Stopped user r c) s := by
    refine keeps_ask (fun ha hp ho => (hp ho).alike ha) (fun s' ha hs' rules =>
      ⟨hs'.after rules trivial, fun ho => ⟨(hr.alike ha).after rules id, fun hids => ?_⟩⟩)
      fun m s' ho => ?_
    · obtain ⟨hok, hmissing⟩ := World.cancelAll_answer rules s'.world c
      obtain ho | ⟨e, he, hcode⟩ := ho
      · exact hok ho
      · -- the customer of a stored subscriber is not missing
        obtain ⟨rc, hrc, -⟩ :=
          ((hs'.single (Course.nodup_of_after hids)).fits (hr.alike ha)).customer hc
        rw [hmissing e he hcode] at hrc
        cases hrc
    · obtain ho | ⟨e, he, hcode⟩ := ho
      · cases ho
      · exact absurd hcode (m.honest e (Except.error.inj he))
  refine hcancel.andThen hs fun o s' hs' ho => ?_
  split
  · rename_i e
    split
    · rename_i hcode
      exact fun s'' h' _ _ => (ho (.inr ⟨e, rfl, hcode⟩)).alike h'.rely
    · exact keeps_error
  · intro s'' h' a ha
    obtain rfl := ha
    exact (ho (.inl rfl)).alike h'.rely

/-- A subscriber is canceled in the store only after its customer at the processor. -/
theorem keeps_deleteSubscriber (c : Credentials) {s : Course} (hs : s.Single) :
    (deleteSubscriber c).Keeps .single (fun _ _ => True) s := by
  have hcanceled : ∀ {r : Subscriber} {s : Course}, s.Single → s.Reads c.user r →
      (s.drawn.Nodup → ∀ customer, r.customer = some customer →
        ∀ id, ¬s.world.registry.Runs customer id) →
      (persist (ask (.canceledAt c.user c.now))).Keeps .single (fun _ _ => True) s := by
    intro r s hs hr hstopped
    refine keeps_persist hs (keeps_ask (fun _ _ => trivial) (fun s' ha hs' rules =>
      ⟨hs'.canceledAt rules (hr.alike ha) (fun hids => ?_) c.now, trivial⟩) fun _ _ => trivial)
    rw [ha.world.registry]
    exact hstopped (by rwa [← ha.drawn])
  unfold deleteSubscriber operation
  refine Keeps.within ?_ hs (fun _ _ _ _ _ => trivial) _
  refine (keeps_lookUp c.user c.hmac s).bind_any hs fun l s hs hl => ?_
  cases l with
  | wrongPassword | notStored => exact fun _ _ => trivial
  | found r =>
    have hr := hl r rfl
    dsimp only
    split
    · rename_i customer hc
      refine (keeps_cancelRemote hs hr hc).bind_any hs fun _ s' hs' hstopped => ?_
      refine hcanceled hs' hstopped.reads fun hids customer' hc' => ?_
      obtain rfl := Option.some.inj (hc.symm.trans hc')
      exact hstopped.idle hids
    · rename_i hnone
      exact hcanceled hs hr fun _ customer hc => absurd hc (hnone customer)

/-- A subscriber is given only a customer that a processor made for it. -/
theorem keeps_addPaymentMethod (c : Credentials) (p : Provider) (platform : Platform) {s : Course}
    (hs : s.Single) : (addPaymentMethod c p platform).Keeps .single (fun _ _ => True) s := by
  unfold addPaymentMethod operation
  refine Keeps.within ?_ hs (fun _ _ _ _ _ => trivial) _
  refine (keeps_getSubscriber c hs).bind_any hs fun r s hs hr => ?_
  have hattach : (attach c p platform r).Keeps .single (fun _ _ => True) s := by
    unfold attach
    split
    · split <;> exact fun _ _ => trivial
    · -- the processor made the customer for whoever asked, and it is given to nobody else
      have hcreate : (ask (.createCustomer p c.user platform)).Keeps .single
          (onOk fun customer s' => s'.Reads c.user r ∧
            s'.world.registry.Knows ⟨customer.id, p⟩ c.user) s := by
        refine keeps_ask_ok (fun ha hp => ⟨hp.1.alike ha, ?_⟩) fun s' ha hs' rules =>
          ⟨hs'.after rules trivial, fun customer hcustomer =>
            ⟨(hr.alike ha).after rules id,
              World.createCustomer_answer rules s'.world p _ _ hcustomer⟩⟩
        rw [ha.world.registry]
        exact hp.2
      refine hcreate.bind_any hs fun customer s hs ⟨hr, hknows⟩ => ?_
      refine keeps_persist hs (keeps_ask (fun _ _ => trivial) (fun s' ha hs' rules =>
        ⟨?_, trivial⟩) fun _ _ => trivial)
      refine hs'.setCustomer rules (fun hids => ?_) c.now
      rw [ha.world.registry, ((hs'.single hids).fits (hr.alike ha)).identity]
      exact hknows
  refine Keeps.bind_any (hattach.mono fun _ _ _ _ _ _ => trivial) hs fun r' s' hs' _ => ?_
  refine keeps_harmless ?_ s'
  split
  · split
    · exact uses_ask trivial
    · trivial
  · trivial

/-- The rest of making a subscription, once its key is known. -/
def opening (c : Credentials) (customer : Customer) (choice : LevelChoice) (last : Int) :
    Program Unit := do
  let id ← orRequiresAction
    (ask (.createSubscription customer.provider customer.id choice.templateId choice.level last))
  persist (ask (.subscriptionCreated c.user id c.now choice.level))

/-- Making a subscription is refused, or its key is made with the seconds of the creation that was
noted last. -/
theorem subscribe_cases (c : Credentials) (p : Provider) (choice : LevelChoice) (s : Subscriber) :
    (∃ f, subscribe c p choice s = .done (.error f)) ∨
      ∃ customer, s.customer = some customer ∧ customer.provider = p ∧
        subscribe c p choice s =
          Program.ofExcept (s.lastCreated.mapError .time) >>= opening c customer choice := by
  unfold subscribe
  split
  · exact .inl ⟨_, rfl⟩
  · rename_i customer hc
    split
    · rename_i hp
      subst hp
      refine .inr ⟨customer, hc, rfl, ?_⟩
      unfold Subscriber.lastCreated
      cases s.subscriptionCreatedAt <;> rfl
    · exact .inl ⟨_, rfl⟩

theorem keeps_opening (c : Credentials) (choice : LevelChoice) {r : Subscriber}
    {customer : Customer} (hc : r.customer = some customer) (hnone : r.subscriptionId = none)
    {last : Int} (hlast : r.lastCreated = .ok last) {s : Course} (hs : s.Single)
    (hr : s.Reads c.user r) :
    (opening c customer choice last).Keeps .single (fun _ _ => True) s := by
  have hcreate : (ask (.createSubscription customer.provider customer.id choice.templateId
      choice.level last)).Keeps .single (fun _ _ => True) s :=
    keeps_ask (fun _ _ => trivial) (fun s' ha hs' rules =>
      ⟨hs'.createSubscription rules (hr.alike ha) hc hnone hlast _ _, trivial⟩) fun _ _ => trivial
  have hclassified : (orRequiresAction (ask (.createSubscription customer.provider customer.id
      choice.templateId choice.level last))).Keeps .single (onOk fun _ _ => True) s :=
    keeps_orRequiresAction hs (fun _ _ => trivial) (hcreate.mono fun _ _ _ _ _ _ => trivial)
  refine hclassified.bind_any hs fun id s' _ _ => keeps_harmless (uses_persist ?_) s'
  exact uses_ask (c := .subscriptionCreated c.user id c.now choice.level) trivial

/-- A subscription is made only by a subscriber that was read without one. -/
theorem keeps_updateLevel (c : Credentials) (p : Provider) (choice : LevelChoice) {r : Subscriber}
    {s : Course} (hs : s.Single) (hr : s.Reads c.user r) :
    (updateLevel c r p choice).Keeps .single (fun _ _ => True) s := by
  unfold updateLevel operation
  refine Keeps.within ?_ hs (fun _ _ _ _ _ => trivial) _
  split
  · refine keeps_harmless ((uses_changeLevel c p choice _).mono fun _ h => ?_) s
    exact .of_kind (.inr (.inl h))
  rename_i hnone
  rcases subscribe_cases c p choice r with ⟨f, hfail⟩ | ⟨customer, hc, rfl, hsubscribe⟩
  · rw [hfail]
    exact fun _ _ => trivial
  · rw [hsubscribe]
    have hlast : (Program.ofExcept (r.lastCreated.mapError .time)).Keeps .single
        (onOk fun last s' => r.lastCreated = .ok last ∧ s'.Reads c.user r) s :=
      fun s' h' last hlast => ⟨mapError_eq_ok hlast, hr.alike h'.rely⟩
    exact hlast.bind_any hs fun last s' hs' ⟨hlast, hr'⟩ =>
      keeps_opening c choice hc hnone hlast hs' hr'

end Manager

/-- A request that reads the record it works on. -/
def Request.Fresh : Request → Prop
  | .updateLevel .. => False
  | _ => True

open Manager in
/-- Every request that reads its own record keeps the invariant while it is alone. -/
theorem Request.keeps_program {r : Request} (hr : r.Fresh) {s : Course} (hs : s.Single) :
    r.program.Keeps .single (fun _ _ => True) s := by
  cases r with
  | updateLevel => exact hr.elim
  | updateSubscriber c =>
    exact keeps_harmless ((uses_updateSubscriber c).mono fun _ h => .of_kind (.inl h)) s
  | getSubscriber c => exact keeps_harmless (uses_getSubscriber c trivial) s
  | createReceipt c bytes =>
    exact keeps_harmless ((uses_createReceipt c bytes).mono fun _ h => .of_kind (.inr (.inr h))) s
  | deleteSubscriber c => exact keeps_deleteSubscriber c hs
  | addPaymentMethod c p platform => exact keeps_addPaymentMethod c p platform hs
  | readAndUpdateLevel c p choice =>
    exact (keeps_getSubscriber c hs).bind_any hs fun r s' hs' hr =>
      keeps_updateLevel c p choice hs' hr

theorem World.Fresh.single {w : World} (h : w.Fresh) : Course.Single ⟨w, []⟩ := by
  refine ⟨h.named, fun _ => ⟨fun hs => ?_, fun hsub => ?_, fun hr => ?_⟩⟩
  · rw [h.store] at hs
    cases hs
  · rw [h.subscription?] at hsub
    cases hsub
  · obtain ⟨s, hs, -⟩ := hr
    rw [h.subscription?] at hs
    cases hs

/-! ### Systems -/

/-- A subscription that runs for a subscriber: it belongs to a customer that a processor made for
the subscriber. -/
def Registry.RunsFor (r : Registry) (user : Bytes) (p : Provider) (id : String) : Prop :=
  ∃ customerId, r.Runs ⟨customerId, p⟩ id ∧ r.Knows ⟨customerId, p⟩ user

/-- No two subscriptions run for one subscriber. -/
theorem Single.unique_of_runsFor {store : Store} {r : Registry} (h : Single store r) {user : Bytes}
    {p p' : Provider} {id id' : String} (hr : r.RunsFor user p id) (hr' : r.RunsFor user p' id') :
    p = p' ∧ id = id' := by
  obtain ⟨cid, hruns, hknows⟩ := hr
  obtain ⟨cid', hruns', hknows'⟩ := hr'
  -- the owner of either subscription is the subscriber, which has one customer
  have owner : ∀ {q : Provider} {cid id : String}, r.Runs ⟨cid, q⟩ id → r.Knows ⟨cid, q⟩ user →
      ∃ s, store.find? user = some s ∧ s.customer = some ⟨cid, q⟩ := by
    intro q cid id ⟨sub, hsub, hcid, _⟩ hknows
    obtain ⟨v, s, hs, hc⟩ := h.owned hsub
    rw [hcid] at hc
    obtain rfl := ((h.fits hs).customer hc).unique hknows
    exact ⟨s, hs, hc⟩
  obtain ⟨s, hs, hc⟩ := owner hruns hknows
  obtain ⟨s', hs', hc'⟩ := owner hruns' hknows'
  obtain rfl := Option.some.inj (hs.symm.trans hs')
  obtain ⟨rfl, rfl⟩ := Customer.mk.inj (Option.some.inj (hc.symm.trans hc'))
  exact ⟨rfl, h.once hruns hruns'⟩

/-- While requests wait for each other and read the records they work on, no subscriber ever has two
running subscriptions, whichever calls fail and whether or not they took effect. -/
theorem System.eq_of_runsFor {w : World} (hw : w.Fresh) {moves : List (Move (Rules × Luck))}
    (hseq : (start w).Sequential .inMemory moves) (hfresh : ∀ r, .arrive r ∈ moves → r.Fresh)
    (hids : ((start w).play .inMemory moves).course.drawn.Nodup) {user : Bytes} {p p' : Provider}
    {id id' : String}
    (h : ((start w).play .inMemory moves).course.world.registry.RunsFor user p id)
    (h' : ((start w).play .inMemory moves).course.world.registry.RunsFor user p' id') :
    p = p' ∧ id = id' := by
  have halone : (start w).Alone .single :=
    ⟨hw.single, fun _ ht => absurd ht List.not_mem_nil, fun hj => by simp [start] at hj⟩
  have hplay := halone.play hseq fun r hr s' hs' => r.keeps_program (hfresh r hr) hs'
  exact (hplay.inv.single hids).unique_of_runsFor h h'

namespace Sample

/-- A call that is not heard of any more. -/
def timeout : Mishap := ⟨.processor ⟨.stripe, "timeout", none⟩, by rintro _ ⟨⟩; decide⟩

/-- The subscriber starts at a level, but the answer of the processor is lost; then it tries
again. -/
def tryTwice (level : Nat) : List (Move (Rules × Luck)) :=
  oneByOne asShipped ((subscribe level).take 2) ++
    .arrive (toLevel level "first") :: List.replicate 4 (.advance 2 asShipped) ++
    .advance 2 (asShipped.1, .after timeout) :: List.replicate 32 (.advance 2 asShipped) ++
    .arrive (toLevel level "second") :: List.replicate 32 (.advance 3 asShipped)

end Sample

open Sample in
/-- The second try finds the subscription that the first one made. -/
theorem System.eq_of_runsFor_of_tryTwice :
    let s := (start .shipped).play .inMemory (tryTwice 500)
    (start .shipped).Sequential .inMemory (tryTwice 500) ∧ s.course.drawn.Nodup ∧
      s.course.world.registry.RunsFor credentials.user .stripe "emulator_sub_0000000000000002_0" ∧
      (Provider.stripe = .stripe ∧
        "emulator_sub_0000000000000002_0" = "emulator_sub_0000000000000002_0") := by
  intro s
  have hseq : (start .shipped).Sequential .inMemory (tryTwice 500) := by decide +kernel
  have hfresh : ∀ r, .arrive r ∈ tryTwice 500 → r.Fresh := by
    intro r hr
    simp [tryTwice, oneByOne, Sample.subscribe] at hr
    obtain rfl | rfl | rfl | rfl := hr <;> trivial
  have hids : s.course.drawn.Nodup := by decide +kernel
  have hsub : (s.course.world.registry.subscription? .stripe
      "emulator_sub_0000000000000002_0").any (·.isActiveOf "emulator_cus_0000000000000001_0") := by
    decide +kernel
  have hcustomer : (s.course.world.registry.customer? .stripe
      "emulator_cus_0000000000000001_0").any (·.user = credentials.user) := by
    decide +kernel
  obtain ⟨sub, hsub, hactive⟩ := (Option.any_eq_true _ _).1 hsub
  obtain ⟨rc, hrc, huser⟩ := (Option.any_eq_true _ _).1 hcustomer
  have h : s.course.world.registry.RunsFor credentials.user .stripe
      "emulator_sub_0000000000000002_0" :=
    ⟨_, ⟨sub, hsub, Subscription.isActiveOf_iff.1 hactive⟩, rc, hrc, of_decide_eq_true huser⟩
  refine ⟨hseq, hids, h, ?_⟩
  dsimp only [s] at hids h
  exact eq_of_runsFor World.fresh_shipped hseq hfresh hids h h

end Patronage
