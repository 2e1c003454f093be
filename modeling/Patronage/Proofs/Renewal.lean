import Patronage.Proofs.Linkage
import Patronage.Proofs.Serial
/-!
# Subscribing again

A subscriber that was canceled may subscribe again.  The processor makes a subscription at most once
for a customer and the seconds of its previous creation, zero standing for none, and answers with
what it made before otherwise.  Where no call fails, the keys used up are those of all creations but
the last, and whatever ran under them has been canceled; so subscribing again works exactly if the
previous creation was in a second of its own.  Main statements:

* `Renewal.renewed` — a creation that is noted uses its key up and leaves the next one;
* `Course.accounted_through` — the account of the keys is right after any requests;
* `Course.lives_iff_of_subscribed` — a subscription that was asked for runs exactly if its key is
  new.
-/

namespace Patronage

open Manager

/-! ### Keys -/

/-- The seconds in which a call notes that a subscription of a subscriber was made. -/
def Call.creation? (user : Bytes) : Call → Option (Except Calendar.TimeError Int)
  | .subscriptionCreated u _ now _ => if u = user then some now.epochSeconds else none
  | _ => none

namespace Course

/-- What the subscriptions of a subscriber were made under so far, and last what the next one will
be: zero, and then the seconds of each creation. -/
def keys (s : Course) (user : Bytes) : List (Except Calendar.TimeError Int) :=
  .ok 0 :: s.past.filterMap fun e => e.2.creation? user

/-- The next subscription of a subscriber will be made under a key of an earlier one. -/
def Repeats (s : Course) (user : Bytes) : Prop :=
  ∃ key ∈ (s.keys user).dropLast, (s.keys user).getLast? = some key

theorem keys_after (rules : Rules) (c : Call) (s : Course) (user : Bytes) :
    (s.after rules c).keys user = s.keys user ++ (c.creation? user).toList := by
  simp only [keys, after, List.filterMap_append, List.filterMap_cons, List.filterMap_nil]
  cases c.creation? user <;> rfl

theorem Alike.keys {s s' : Course} (h : s.Alike s') : s'.keys = s.keys := by
  funext user
  rw [Course.keys, h.past, Course.keys]

end Course

/-! ### The invariant -/

/-- What the keys of a subscriber, what is stored of it and the processors say of each other. -/
structure Subscriber.Accounted (keys : List (Except Calendar.TimeError Int)) (r : Registry)
    (s : Subscriber) : Prop where
  /-- The last key is the one that the next subscription will be made under. -/
  last : keys.getLast? = some s.lastCreated
  /-- All other keys were used. -/
  used : ∀ {c}, s.customer = some c → ∀ last,
    (r.created? c.provider c.id last).isSome ↔ .ok last ∈ keys.dropLast
  /-- Nothing runs that the store does not know of. -/
  idle : ∀ {c id}, s.customer = some c → s.subscriptionId = none → ¬r.Runs c id
  /-- Whoever has no customer has used no key. -/
  unused : s.customer = none → keys = [.ok 0]

/-- The keys of all subscribers are accounted for. -/
structure Renewal (keys : Bytes → List (Except Calendar.TimeError Int)) (store : Store)
    (r : Registry) : Prop where
  subscriber : ∀ {user s}, store.find? user = some s → s.Accounted (keys user) r
  unknown : ∀ {user}, store.find? user = none → keys user = [.ok 0]
  replays : r.Replays

namespace Subscriber.Accounted

variable {keys : List (Except Calendar.TimeError Int)} {r r' : Registry} {s : Subscriber}

theorem quiet (h : s.Accounted keys r) (hq : r.Quiet r') : s.Accounted keys r' where
  last := h.last
  used hc last := by rw [hq.created]; exact h.used hc last
  idle hc hnone hruns := h.idle hc hnone (hq.runs hruns)
  unused := h.unused

/-- A subscriber may change as long as its customer and its creations stay, and it has a
subscription if anything runs. -/
theorem change (h : s.Accounted keys r) {s' : Subscriber} (hcustomer : s'.customer = s.customer)
    (hcreated : s'.subscriptionCreatedAt = s.subscriptionCreatedAt)
    (hidle : ∀ c, s.customer = some c → s'.subscriptionId = none → ∀ id, ¬r.Runs c id) :
    s'.Accounted keys r where
  last := by rw [h.last, lastCreated, lastCreated, hcreated]
  used hc := h.used (hcustomer.symm.trans hc)
  idle hc hnone := hidle _ (hcustomer.symm.trans hc) hnone _
  unused hnone := h.unused (hcustomer.symm.trans hnone)

/-- A subscriber without a customer may get one for which nothing was made. -/
theorem attached (h : s.Accounted keys r) (hnone : s.customer = none) {c : Customer}
    (hnew : ∀ last, r.created? c.provider c.id last = none) (hidle : ∀ id, ¬r.Runs c id)
    (now : Moment) : (s.withCustomer c now).Accounted keys r := by
  have hchange : s.withCustomer c now =
      { s with customer := some c, customerUpdatedAt := some now, accessedAt := now } := by
    simp [withCustomer, hnone]
  rw [hchange]
  refine ⟨h.last, fun hc last => ?_, fun hc _ => ?_, fun hnone' => (by cases hnone')⟩
  · obtain rfl := Option.some.inj hc
    simp [hnew, h.unused hnone]
  · obtain rfl := Option.some.inj hc
    exact hidle _

/-- A new subscriber has used no key. -/
theorem new (user password : Bytes) (now : Moment) (r : Registry) :
    (Subscriber.new user password now).Accounted [.ok 0] r :=
  ⟨rfl, nofun, nofun, fun _ => rfl⟩

end Subscriber.Accounted

theorem Registry.Runs.holds {r : Registry} {c : Customer} {id : String} (h : r.Runs c id) :
    r.Holds c id := by
  obtain ⟨sub, hsub, hc, -⟩ := h
  exact ⟨sub, hsub, hc⟩

/-- A customer that was made for a subscriber without one has nothing yet. -/
theorem Single.not_holds {store : Store} {r : Registry} (h : Single store r) {user : Bytes}
    {s : Subscriber} (hs : store.find? user = some s) (hnone : s.customer = none) {c : Customer}
    (hknows : r.Knows c user) (id : String) : ¬r.Holds c id := by
  rintro ⟨sub, hsub, hc⟩
  obtain ⟨v, s', hs', hc'⟩ := h.owned hsub
  rw [hc] at hc'
  obtain rfl := ((h.fits hs').customer hc').unique hknows
  obtain rfl := Option.some.inj (hs.symm.trans hs')
  rw [hnone] at hc'
  cases hc'

namespace Registry

/-- A subscription that runs as it was asked for. -/
def Lives (r : Registry) (p : Provider) (id : String) (choice : LevelChoice) : Prop :=
  ∃ sub, r.subscription? p id = some sub ∧ sub.status = .active ∧ sub.level = choice.level ∧
    sub.templateId = choice.templateId

/-- What a processor has after it answered a customer with a subscription for some seconds. -/
structure Opened (c : Customer) (last : Int) (choice : LevelChoice) (id : String)
    (r r' : Registry) : Prop where
  created : ∀ d last', r'.created? d.provider d.id last' =
    if d = c ∧ last' = last then some id else r.created? d.provider d.id last'
  /-- Nothing is made for another customer. -/
  apart : ∀ {d id'}, d ≠ c → r'.Runs d id' → r.Runs d id'
  fresh : r.created? c.provider c.id last = none → r'.Lives c.provider id choice
  replayed : ∀ {id'}, r.created? c.provider c.id last = some id' →
    id' = id ∧ r'.subscription? c.provider id = r.subscription? c.provider id

/-- A repeated request finds what was made before. -/
theorem opened_self {r : Registry} {e : Emulator} {c : Customer} (he : r.find? c.provider = some e)
    {last : Int} {id : String} (hkey : r.created? c.provider c.id last = some id)
    (choice : LevelChoice) : r.Opened c last choice id (r.set c.provider e) where
  created d last' := by
    have hsame : (r.set c.provider e).created? d.provider d.id last' =
        r.created? d.provider d.id last' := by
      rw [created?, find?_set_self he, created?]
    rw [hsame]
    split
    · rename_i hd
      obtain ⟨rfl, rfl⟩ := hd
      exact hkey
    · rfl
  apart _ hruns := (Quiet.set_self he).runs hruns
  fresh hnone := by rw [hkey] at hnone; cases hnone
  replayed hkey' := by
    refine ⟨Option.some.inj (hkey'.symm.trans hkey), ?_⟩
    rw [subscription?, find?_set_self he, subscription?]

/-- Otherwise a subscription is made as it was asked for. -/
theorem opened_withSubscription {r : Registry} {e : Emulator} {c : Customer}
    (he : r.find? c.provider = some e) {last : Int} (hkey : e.createdByKey.get? (c.id, last) = none)
    (choice : LevelChoice) (id currency : String) (now : Moment) :
    r.Opened c last choice id (r.set c.provider (e.withSubscription
      ⟨id, c.id, choice.templateId, choice.level, currency, .active, now, none, .empty⟩ last)) where
  created d last' := by
    obtain ⟨cid, p⟩ := c
    obtain ⟨did, q⟩ := d
    rw [created?_set]
    by_cases hp : p = q
    · subst hp
      rw [created?_of_find? he]
      by_cases hk : (cid, last) = (did, last')
      · obtain ⟨rfl, rfl⟩ := Prod.mk.inj hk
        simp [Emulator.withSubscription]
      · have hne : ¬(did = cid ∧ last' = last) := fun h => hk (by rw [h.1, h.2])
        simp [Emulator.withSubscription, hk, hne]
    · have hne : ¬q = p := fun h => hp h.symm
      simp [hp, hne]
  apart {d id'} hd hruns := by
    obtain ⟨sub, hsub, hc, ha⟩ := hruns
    rw [subscription?_set] at hsub
    split at hsub
    · rename_i hp
      by_cases hid : id = id'
      · -- what was made now belongs to this customer
        simp only [Emulator.withSubscription, hid, Assoc.get?_insert, if_pos,
          Option.some.injEq] at hsub
        subst hsub
        obtain ⟨cid, p⟩ := c
        obtain ⟨did, q⟩ := d
        obtain rfl : p = q := hp
        obtain rfl : cid = did := hc
        exact absurd rfl hd
      · refine ⟨sub, ?_, hc, ha⟩
        rw [← hp, subscription?_of_find? he]
        simpa [Emulator.withSubscription, hid] using hsub
    · exact ⟨sub, hsub, hc, ha⟩
  fresh _ := by
    refine ⟨⟨id, c.id, choice.templateId, choice.level, currency, .active, now, none, .empty⟩,
      ?_, rfl, rfl, rfl⟩
    rw [subscription?_set, if_pos rfl]
    simp [Emulator.withSubscription]
  replayed hkey' := by rw [created?_of_find? he, hkey] at hkey'; cases hkey'

end Registry

/-- Making a subscription answers with a new one that runs as it was asked for, or with the one that
was made before for the same seconds, as it is by now. -/
theorem World.createSubscription_opened (rules : Rules) (w : World) (c : Customer)
    (choice : LevelChoice) (last : Int) {id : String}
    (hid : (w.answer rules (.createSubscription c.provider c.id choice.templateId choice.level
      last)).1 = .ok id) :
    w.registry.Opened c last choice id (w.answer rules (.createSubscription c.provider c.id
      choice.templateId choice.level last)).2.registry := by
  rw [createSubscription_eq] at hid ⊢
  cases he : w.registry.find? c.provider with
  | none => rw [withMint_of_none he] at hid; cases hid
  | some e =>
    rw [withMint_of_some he] at hid ⊢
    rw [registry_writeAll]
    rcases Emulator.createSubscription_answer hid with ⟨hkey, hstate⟩ | ⟨hkey, currency, hstate⟩
    · rw [hstate]
      exact Registry.opened_self he (by rwa [Registry.created?_of_find? he]) choice
    · rw [hstate]
      exact Registry.opened_withSubscription he hkey choice id currency _

namespace Renewal

variable {keys : Bytes → List (Except Calendar.TimeError Int)} {store : Store} {r r' : Registry}
  {user : Bytes} {s : Subscriber}

theorem quiet (h : Renewal keys store r) (hq : r.Quiet r') (hr : r'.Replays) :
    Renewal keys store r' where
  subscriber hs := (h.subscriber hs).quiet hq
  unknown := h.unknown
  replays := hr

/-- After an update the keys are accounted for if those of each subscriber are. -/
theorem of_update {α : Type} (change : Subscriber → Subscriber)
    (report : Subscriber → Subscriber → α × Log.Entry) (hr : r.Replays)
    (hself : ∀ s, store.find? user = some s → (change s).Accounted (keys user) r)
    (hother : ∀ v s, user ≠ v → store.find? v = some s → s.Accounted (keys v) r)
    (hunknown : ∀ v, store.find? v = none → keys v = [.ok 0]) :
    Renewal keys (store.update user change report).state r where
  subscriber {v s'} hs' := by
    rcases Store.find?_of_update hs' with ⟨s, hs, ⟨rfl, rfl⟩ | ⟨hv, rfl⟩⟩
    · exact hself s hs
    · exact hother v _ hv hs
  unknown {v} hnone := by
    refine hunknown v (Option.eq_none_iff_forall_ne_some.2 fun s hs => ?_)
    rw [Store.find?_update_of_some change report hs] at hnone
    cases hnone
  replays := hr

theorem update {α : Type} (h : Renewal keys store r) (change : Subscriber → Subscriber)
    (report : Subscriber → Subscriber → α × Log.Entry)
    (hchange : ∀ s, store.find? user = some s → (change s).Accounted (keys user) r) :
    Renewal keys (store.update user change report).state r :=
  of_update change report h.replays hchange (fun _ _ _ hs => h.subscriber hs) fun _ => h.unknown

theorem accessed (h : Renewal keys store r) (now : Moment) :
    Renewal keys (store.accessedAt user now).state r :=
  h.update _ _ fun _ hs => (h.subscriber hs).change rfl rfl fun _ hc hnone _ =>
    (h.subscriber hs).idle hc hnone

theorem moved (h : Renewal keys store r) (now : Moment) (level : Int) (id : String) :
    Renewal keys (store.levelChanged user now level id).state r :=
  h.update _ _ fun _ hs => (h.subscriber hs).change rfl rfl fun _ _ hnone => nomatch hnone

/-- A subscriber may be canceled once nothing of its customer runs. -/
theorem canceled (h : Renewal keys store r) (hs : store.find? user = some s)
    (hstopped : ∀ c, s.customer = some c → ∀ id, ¬r.Runs c id) (now : Moment) :
    Renewal keys (store.canceledAt user now).state r := by
  refine h.update _ _ fun s' hs' => ?_
  obtain rfl := Option.some.inj (hs.symm.trans hs')
  exact (h.subscriber hs).change rfl rfl fun c hc _ => hstopped c hc

theorem created (h : Renewal keys store r) (password : Bytes) (now : Moment) :
    Renewal keys (store.create user password now).state r := by
  refine ⟨fun hs' => ?_, fun hnone => ?_, h.replays⟩
  · rcases Store.find?_of_create hs' with hs | ⟨rfl, hnone, rfl⟩
    · exact h.subscriber hs
    · rw [h.unknown hnone]
      exact .new user password now r
  · refine h.unknown (Option.eq_none_iff_forall_ne_some.2 fun s hs => ?_)
    rw [store.find?_create_of_some user password now hs] at hnone
    cases hnone

/-- A subscriber may get a customer that a processor made for it: nothing was made for the customer
yet. -/
theorem attached (h : Renewal keys store r) (hsingle : Single store r) {c : Customer}
    (hknows : r.Knows c user) (now : Moment) :
    Renewal keys (store.setCustomer user c now).state r := by
  refine h.update _ _ fun s hs => ?_
  cases hc : s.customer with
  | some d =>
    -- the customer of a subscriber that has one stays
    have hsame : s.withCustomer c now = s := by simp [Subscriber.withCustomer, hc]
    rw [hsame]
    exact h.subscriber hs
  | none =>
    refine (h.subscriber hs).attached hc (fun last => ?_) (fun id hruns => ?_) now
    · rw [Option.eq_none_iff_forall_ne_some]
      intro id hid
      exact hsingle.not_holds hs hc hknows id (h.replays hid)
    · exact hsingle.not_holds hs hc hknows id hruns.holds

/-- A creation that is noted uses its key up and leaves the next one. -/
theorem renewed (h : Renewal keys store r) (hsingle : Single store r)
    (hs : store.find? user = some s) {c : Customer} (hc : s.customer = some c) {last : Int}
    (hlast : s.lastCreated = .ok last) {choice : LevelChoice} {id : String}
    (ho : r.Opened c last choice id r') (hr : r'.Replays) (now : Moment) (level : Int) :
    Renewal (fun v => keys v ++ (Call.creation? v (.subscriptionCreated user id now level)).toList)
      (store.subscriptionCreated user id now level).state r' := by
  have hkeys : ∀ v, keys v ++ (Call.creation? v (.subscriptionCreated user id now level)).toList =
      if user = v then keys v ++ [now.epochSeconds] else keys v := by
    intro v
    by_cases hv : user = v <;> simp [Call.creation?, hv]
  simp only [hkeys]
  refine of_update _ _ hr (fun s' hs' => ?_) (fun v s' hv hs' => ?_) fun v hnone => ?_
  · -- its own keys are one more now
    obtain rfl := Option.some.inj (hs.symm.trans hs')
    have hself : keys user = (keys user).dropLast ++ [.ok last] := by
      have hget := (h.subscriber hs).last
      rw [hlast] at hget
      obtain ⟨earlier, hearlier⟩ := List.getLast?_eq_some_iff.1 hget
      rw [hearlier, List.dropLast_concat]
    rw [if_pos rfl]
    refine ⟨by simp [Subscriber.lastCreated, Subscriber.subscribed], fun {d} hd last' => ?_, nofun,
      fun hnone => ?_⟩
    · obtain rfl : c = d := Option.some.inj (hc.symm.trans hd)
      rw [List.dropLast_concat, ho.created, hself, List.mem_append]
      by_cases hl : last' = last
      · simp [hl]
      · simp [hl, (h.subscriber hs).used hc last']
    · obtain hnone : s.customer = none := hnone
      rw [hc] at hnone
      cases hnone
  · -- the customer is not another subscriber's
    have hother : ∀ {d}, s'.customer = some d → d ≠ c := by
      rintro d hd rfl
      exact hv (((hsingle.fits hs).customer hc).unique ((hsingle.fits hs').customer hd))
    have hold := h.subscriber hs'
    rw [if_neg hv]
    refine ⟨hold.last, fun hd last' => ?_, fun hd hnone hruns => ?_, hold.unused⟩
    · rw [ho.created, if_neg fun hd' => hother hd hd'.1]
      exact hold.used hd last'
    · exact hold.idle hd hnone (ho.apart (hother hd) hruns)
  · have hv : user ≠ v := by
      rintro rfl
      rw [hs] at hnone
      cases hnone
    rw [if_neg hv]
    exact h.unknown hnone

/-- What a processor answered with runs as it was asked for exactly if the key is no earlier one:
nothing that was made under an earlier key runs any more. -/
theorem lives_iff (h : Renewal keys store r) (hs : store.find? user = some s) {c : Customer}
    (hc : s.customer = some c) (hnone : s.subscriptionId = none) {last : Int}
    (hlast : s.lastCreated = .ok last) {choice : LevelChoice} {id : String}
    (ho : r.Opened c last choice id r') :
    r'.Lives c.provider id choice ↔
      ¬∃ key ∈ (keys user).dropLast, (keys user).getLast? = some key := by
  have hself := h.subscriber hs
  have hget : (keys user).getLast? = some (.ok last) := by rw [hself.last, hlast]
  have hused := hself.used hc last
  cases hkey : r.created? c.provider c.id last with
  | none =>
    rw [hkey] at hused
    refine iff_of_true (ho.fresh hkey) ?_
    rintro ⟨key, hmem, hkey'⟩
    obtain rfl : Except.ok last = key := Option.some.inj (hget.symm.trans hkey')
    exact absurd (hused.2 hmem) (by simp)
  | some id' =>
    rw [hkey] at hused
    refine iff_of_false ?_ fun hnew => hnew ⟨.ok last, hused.1 rfl, hget⟩
    obtain ⟨rfl, hsame⟩ := ho.replayed hkey
    obtain ⟨sub, hsub, hcid⟩ := h.replays hkey
    rintro ⟨sub', hsub', hactive, -⟩
    rw [hsame, hsub] at hsub'
    obtain rfl := Option.some.inj hsub'
    exact hself.idle hc hnone ⟨sub, hsub, hcid, hactive⟩

end Renewal

/-! ### Calls -/

/-- Calls that neither make nor note a subscription, and neither give nor take one away. -/
def Call.Calm : Call → Prop
  | .canceledAt .. | .setCustomer .. | .createSubscription .. | .subscriptionCreated .. => False
  | _ => True

theorem Call.Calm.harmless {c : Call} (h : c.Calm) : c.Harmless := by
  cases c with
  | canceledAt | setCustomer | createSubscription | subscriptionCreated => exact h.elim
  | _ => trivial

/-- Most operations make no other calls. -/
theorem Call.Calm.of_kind {c : Call} (h : c.Registers ∨ c.Moves ∨ c.Redeems ∨ c.Stops) :
    c.Calm := by
  cases c with
  | canceledAt | setCustomer | createSubscription | subscriptionCreated =>
    simp [Registers, Moves, Redeems, Stops] at h
  | _ => trivial

/-- Making a subscription fails without any effect. -/
theorem Emulator.createSubscription_fault {e : Emulator} {m : Mint} {customerId templateId : String}
    {level last : Int} {f : Fault}
    (hf : (e.createSubscription m customerId templateId level last).answer = .error f) :
    (e.createSubscription m customerId templateId level last).state = (e, m.tokens) := by
  obtain ⟨f', hfail⟩ | ⟨id, events, -, hreplay⟩ | ⟨currency, events, -, -, -, hnew⟩ :=
    e.createSubscription_cases m customerId templateId level last
  · rw [hfail]
    rfl
  · rw [hreplay]
    rfl
  · rw [hnew] at hf
    cases hf

theorem World.createSubscription_quiet {rules : Rules} {w : World} {p : Provider}
    {customerId templateId : String} {level last : Int} {f : Fault}
    (hf : (w.answer rules (.createSubscription p customerId templateId level last)).1 = .error f) :
    w.registry.Quiet
      (w.answer rules (.createSubscription p customerId templateId level last)).2.registry := by
  rw [createSubscription_eq] at hf ⊢
  cases he : w.registry.find? p with
  | none =>
    rw [withMint_of_none he]
    exact .refl _
  | some e =>
    rw [withMint_of_some he] at hf ⊢
    rw [registry_writeAll, Emulator.createSubscription_fault hf]
    exact .set_self he

namespace Course

/-- The account of the keys is right, while the identifiers drawn differ. -/
def Accounted (s : Course) : Prop :=
  s.drawn.Nodup → Renewal s.keys s.world.store s.world.registry

namespace Accounted

variable {s : Course} {user : Bytes} {r : Subscriber}

theorem alike {s' : Course} (h : s.Accounted) (ha : s.Alike s') : s'.Accounted := by
  intro hids
  rw [ha.keys, ha.world.store, ha.world.registry]
  exact h (ha.drawn ▸ hids)

theorem keys_eq {c : Call} (rules : Rules) (hc : ∀ user, c.creation? user = none) :
    (s.after rules c).keys = s.keys := by
  funext user
  simp [keys_after, hc]

theorem after (h : s.Accounted) (hn : s.Named) (rules : Rules) {c : Call} (hc : c.Calm) :
    (s.after rules c).Accounted := by
  intro hids
  have hrenewal := h (nodup_of_after hids)
  have hkeys : (s.after rules c).keys = s.keys := by
    refine keys_eq rules fun user => ?_
    cases c with
    | subscriptionCreated => exact hc.elim
    | _ => rfl
  rw [hkeys]
  by_cases hstores : c.Stores
  · cases c with
    | canceledAt | setCustomer | subscriptionCreated => exact hc.elim
    | create user password now =>
      simpa [Course.after, World.answer, World.withStore] using hrenewal.created password now
    | accessedAt user now =>
      simpa [Course.after, World.answer, World.withStore] using hrenewal.accessed now
    | levelChanged user now level id =>
      simpa [Course.after, World.answer, World.withStore] using hrenewal.moved now level id
    | _ => exact hstores.elim
  · have hsubscribes : ¬c.Subscribes := by
      cases c with
      | createSubscription => exact hc.elim
      | _ => exact id
    exact (World.store_answer rules hstores).symm ▸
      hrenewal.quiet (quiet_after hn rules hsubscribes hids)
        (replays_after hn rules hids hrenewal.replays)

theorem canceledAt (h : s.Accounted) (rules : Rules) (hr : s.Reads user r)
    (hstopped : s.drawn.Nodup → ∀ c, r.customer = some c → ∀ id, ¬s.world.registry.Runs c id)
    (now : Moment) : (s.after rules (.canceledAt user now)).Accounted := by
  intro hids
  have hids' := nodup_of_after hids
  rw [keys_eq rules fun _ => rfl]
  simpa [Course.after, World.answer, World.withStore] using
    (h hids').canceled hr (hstopped hids') now

theorem setCustomer (h : s.Accounted) (hs : s.Single) (rules : Rules) {c : Customer}
    (hknows : s.drawn.Nodup → s.world.registry.Knows c user) (now : Moment) :
    (s.after rules (.setCustomer user c now)).Accounted := by
  intro hids
  have hids' := nodup_of_after hids
  rw [keys_eq rules fun _ => rfl]
  simpa [Course.after, World.answer, World.withStore] using
    (h hids').attached (hs.single hids') (hknows hids') now

/-- A request for a subscription that fails leaves everything as it is. -/
theorem createSubscription (h : s.Accounted) (hn : s.Named) (rules : Rules) {p : Provider}
    {customerId templateId : String} {level last : Int} {f : Fault}
    (hf : (s.world.answer rules (.createSubscription p customerId templateId level last)).1 =
      .error f) :
    (s.after rules (.createSubscription p customerId templateId level last)).Accounted := by
  intro hids
  have hrenewal := h (nodup_of_after hids)
  have hstore : (s.world.answer rules
      (.createSubscription p customerId templateId level last)).2.store = s.world.store :=
    World.store_answer rules id
  rw [keys_eq rules fun _ => rfl, Course.after, hstore]
  exact hrenewal.quiet (World.createSubscription_quiet hf)
    (replays_after hn rules hids hrenewal.replays)

/-- A subscription that is made and then noted is accounted for. -/
theorem subscriptionCreated (h : s.Accounted) (hs : s.Single) (hr : s.Reads user r) {c : Customer}
    (hc : r.customer = some c) {last : Int} (hlast : r.lastCreated = .ok last) (rules : Rules)
    {choice : LevelChoice} {id : String}
    (hid : (s.world.answer rules (.createSubscription c.provider c.id choice.templateId choice.level
      last)).1 = .ok id) {s' : Course}
    (ha : (s.after rules (.createSubscription c.provider c.id choice.templateId choice.level
      last)).Alike s') (rules' : Rules) (now : Moment) :
    (s'.after rules' (.subscriptionCreated user id now choice.level)).Accounted := by
  intro hids
  have hids₁ := nodup_of_after hids
  rw [ha.drawn] at hids₁
  have hids₀ := nodup_of_after hids₁
  have hkeys : (s'.after rules' (.subscriptionCreated user id now choice.level)).keys = fun v =>
      s.keys v ++ (Call.creation? v (.subscriptionCreated user id now choice.level)).toList := by
    funext v
    rw [keys_after, ha.keys, keys_eq rules fun _ => rfl]
  have hrenewed := (h hids₀).renewed (hs.single hids₀) hr hc hlast
    (World.createSubscription_opened rules s.world c choice last hid)
    (replays_after hs.named rules hids₁ (h hids₀).replays) now choice.level
  have hstore : s'.world.store = s.world.store :=
    ha.world.store.trans (World.store_answer rules fun h => h)
  have hregistry : s'.world.registry = (s.world.answer rules (.createSubscription c.provider c.id
      choice.templateId choice.level last)).2.registry := ha.world.registry
  rw [hkeys]
  simpa [Course.after, World.answer, World.withStore, hstore, hregistry] using hrenewed

end Accounted

end Course

/-! ### Operations -/

namespace Course

/-- Subscribing again left a subscription behind that the store knows; it runs as it was asked for
exactly if its key was new. -/
def Renewed (s : Course) (user : Bytes) (p : Provider) (choice : LevelChoice) (s' : Course) :
    Prop :=
  ∃ r id, s'.Reads user r ∧ r.subscriptionId = some id ∧
    (s'.world.registry.Lives p id choice ↔ ¬s.Repeats user)

theorem Renewed.alike {s s' s'' : Course} {user : Bytes} {p : Provider} {choice : LevelChoice}
    (h : s.Renewed user p choice s') (ha : s'.Alike s'') : s.Renewed user p choice s'' := by
  obtain ⟨r, id, hr, hid, hlives⟩ := h
  exact ⟨r, id, hr.alike ha, hid, by rw [ha.world.registry]; exact hlives⟩

/-- What has become of a subscriber that asked for a subscription. -/
structure Settled (s : Course) (user : Bytes) (p : Provider) (choice : LevelChoice)
    (r : Except Fault Unit) (s' : Course) : Prop where
  accounted : s'.Accounted
  renewed : r = .ok () → s'.drawn.Nodup → s.Renewed user p choice s'

theorem Settled.alike {s s' s'' : Course} {user : Bytes} {p : Provider} {choice : LevelChoice}
    {r : Except Fault Unit} (h : s.Settled user p choice r s') (ha : s'.Alike s'') :
    s.Settled user p choice r s'' :=
  ⟨h.accounted.alike ha, fun hr hids => (h.renewed hr (ha.drawn ▸ hids)).alike ha⟩

/-- A customer was answered with a subscription that the store has yet to note. -/
def Pending (keys : Bytes → List (Except Calendar.TimeError Int)) (user : Bytes) (r : Subscriber)
    (c : Customer) (last : Int) (choice : LevelChoice) (id : String) (s' : Course) : Prop :=
  ∃ (s : Course) (rules : Rules), s.Single ∧ s.Accounted ∧ s.Reads user r ∧ s.keys = keys ∧
    (s.world.answer rules (.createSubscription c.provider c.id choice.templateId choice.level
      last)).1 = .ok id ∧
    (s.after rules (.createSubscription c.provider c.id choice.templateId choice.level last)).Alike
      s'

theorem Pending.alike {keys : Bytes → List (Except Calendar.TimeError Int)} {user : Bytes}
    {r : Subscriber} {c : Customer} {last : Int} {choice : LevelChoice} {id : String}
    {s s' : Course} (h : s.Pending keys user r c last choice id) (ha : s.Alike s') :
    s'.Pending keys user r c last choice id := by
  obtain ⟨s₀, rules, hsingle, hs, hr, hkeys, hid, hafter⟩ := h
  exact ⟨s₀, rules, hsingle, hs, hr, hkeys, hid, hafter.trans ha⟩

/-- Once the store notes the subscription, all is settled. -/
theorem Pending.settled {s s' : Course} {user : Bytes} {r : Subscriber} {c : Customer} {last : Int}
    {choice : LevelChoice} {id : String} (h : s'.Pending s.keys user r c last choice id)
    (hc : r.customer = some c) (hnone : r.subscriptionId = none) (hlast : r.lastCreated = .ok last)
    (rules : Rules) (now : Moment) (answer : Except Fault Unit) :
    s.Settled user c.provider choice answer
      (s'.after rules (.subscriptionCreated user id now choice.level)) := by
  obtain ⟨s₀, rules₀, hsingle, hs, hr, hkeys, hid, ha⟩ := h
  refine ⟨hs.subscriptionCreated hsingle hr hc hlast rules₀ hid ha rules now, fun _ hids => ?_⟩
  have hids₁ := nodup_of_after hids
  rw [ha.drawn] at hids₁
  have hrenewal := hs (nodup_of_after hids₁)
  have hopened := World.createSubscription_opened rules₀ s₀.world c choice last hid
  have hlives := hrenewal.lives_iff hr hc hnone hlast hopened
  rw [hkeys] at hlives
  have hstore : s'.world.store.find? user = some r := by
    rw [ha.world.store]
    exact hr.after rules₀ fun h => h
  refine ⟨r.subscribed id choice.level now, id, ?_, rfl, ?_⟩
  · rw [Reads, Course.after, World.answer, World.withStore, World.store_writeAll]
    refine (Store.find?_update_of_some _ _ hstore).trans ?_
    rw [if_pos rfl]
  · have hregistry := World.registry_answer (w := s'.world) rules
      (c := .subscriptionCreated user id now choice.level) trivial
    rw [Course.after, hregistry, ha.world.registry]
    exact hlives

end Course

namespace Renewal

open Program

/-- Calm calls keep the account of the keys. -/
theorem keeps_calm {α : Type} {p : Program α} (h : p.Uses Call.Calm) {s : Course}
    (hs : s.Accounted) : p.Keeps .serial (fun _ s' => s'.Accounted) s :=
  keeps_of_uses_serial (fun _ hc => hc.harmless) (fun ha hI => hI.alike ha)
    (fun rules _ hc hsingle hI => hI.after hsingle.named rules hc) h hs

/-- What is read of a subscriber is stored. -/
theorem keeps_getSubscriber (c : Credentials) {s : Course} (hsingle : s.Single)
    (hs : s.Accounted) : (getSubscriber c).Keeps .serial (fun o s' => s'.Accounted ∧
      onOk (fun r s' => s'.Reads c.user r) o s') s :=
  (keeps_calm (uses_getSubscriber c trivial) hs).and
    ((Manager.keeps_getSubscriber c hsingle).restrict _)

/-- Reading a subscriber changes nothing. -/
theorem keeps_getSubscriber_still (c : Credentials) (s : Course) :
    (getSubscriber c).Keeps .serial
      (fun _ s' => s'.world.store = s.world.store ∧ s'.keys = s.keys) s :=
  keeps_of_uses_serial (P := (· = .lookUp c.user c.hmac)) (fun _ hc => hc ▸ trivial)
    (fun ha h => ⟨ha.world.store.trans h.1, ha.keys.trans h.2⟩)
    (fun rules _ hc _ h => hc ▸ ⟨h.1, (Course.Accounted.keys_eq rules fun _ => rfl).trans h.2⟩)
    (uses_getSubscriber c rfl) ⟨rfl, rfl⟩

/-- The rest of subscribing, once the key is known. -/
theorem keeps_opening (c : Credentials) (choice : LevelChoice) {r : Subscriber}
    {customer : Customer} (hc : r.customer = some customer) (hnone : r.subscriptionId = none)
    {last : Int} (hlast : r.lastCreated = .ok last) {s s' : Course} (hsingle : s'.Single)
    (hs : s'.Accounted) (hr : s'.Reads c.user r) (hkeys : s'.keys = s.keys) :
    (opening c customer choice last).Keeps .serial
      (s.Settled c.user customer.provider choice) s' := by
  have hcreate : (ask (.createSubscription customer.provider customer.id choice.templateId
      choice.level last)).Keeps .serial (fun o s'' =>
        onOk (fun id s'' => s''.Pending s.keys c.user r customer last choice id) o s'' ∧
          ∀ e, o = .error e → s''.Accounted) s' := by
    refine keeps_ask_serial (fun ha hp => ⟨fun id hid => (hp.1 id hid).alike ha,
      fun e he => (hp.2 e he).alike ha⟩) fun s₀ ha hsingle₀ rules => ⟨?_, ?_, ?_⟩
    · exact hsingle₀.createSubscription rules (hr.alike ha) hc hnone hlast _ _
    · intro id hid
      exact ⟨s₀, rules, hsingle₀, hs.alike ha, hr.alike ha, ha.keys.trans hkeys, hid, .refl _⟩
    · intro e he
      exact (hs.alike ha).createSubscription hsingle₀.named rules he
  have hclassified : (orRequiresAction (ask (.createSubscription customer.provider customer.id
      choice.templateId choice.level last))).Keeps .serial (fun o s'' =>
        onOk (fun id s'' => s''.Pending s.keys c.user r customer last choice id) o s'' ∧
          ∀ e, o = .error e → s.Settled c.user customer.provider choice (.error e) s'') s' := by
    refine hcreate.andThen hsingle fun o s₁ _ ho => ?_
    split
    · -- a fault of the processor is classified
      split
      · exact fun s₂ h' => ⟨nofun, fun _ _ => ⟨(ho.2 _ rfl).alike h'.rely, nofun⟩⟩
      · exact fun s₂ h' => ⟨nofun, fun _ _ => ⟨(ho.2 _ rfl).alike h'.rely, nofun⟩⟩
    · intro s₂ h'
      refine ⟨fun id hid => (ho.1 id hid).alike h'.rely, fun e he => ?_⟩
      exact ⟨(ho.2 e he).alike h'.rely, nofun⟩
  refine hclassified.bind_post hsingle (fun hm hp => hp.alike hm.rely) fun id s₁ hsingle₁ hp => ?_
  have hnote : (ask (.subscriptionCreated c.user id c.now choice.level)).Keeps .serial
      (fun _ s'' => ∀ answer, s.Settled c.user customer.provider choice answer s'') s₁ := by
    refine keeps_ask_serial (fun ha hp answer => (hp answer).alike ha) fun s₂ ha hsingle₂ rules =>
      ⟨hsingle₂.after rules trivial, fun answer => ?_⟩
    exact (hp.alike ha).settled hc hnone hlast rules c.now answer
  refine hnote.andThen hsingle₁ fun o s₂ _ ho => ?_
  split <;> exact fun s₃ h' => (ho _).alike h'.rely

theorem keeps_subscribe (c : Credentials) (p : Provider) (choice : LevelChoice) {r : Subscriber}
    {s : Course} (hsingle : s.Single) (hs : s.Accounted) (hr : s.Reads c.user r)
    (hnone : r.subscriptionId = none) :
    (subscribe c p choice r).Keeps .serial (s.Settled c.user p choice) s := by
  rcases subscribe_cases c p choice r with ⟨f, hfail⟩ | ⟨customer, hc, rfl, hsubscribe⟩
  · rw [hfail]
    exact fun s' h' => ⟨hs.alike h'.rely, nofun⟩
  · rw [hsubscribe]
    have hlast : (Program.ofExcept (r.lastCreated.mapError .time)).Keeps .serial (fun o s' =>
        onOk (fun last s' => r.lastCreated = .ok last ∧ s.Alike s') o s' ∧
          ∀ e, o = .error e → s.Settled c.user customer.provider choice (.error e) s') s := by
      intro s' h'
      exact ⟨fun last hlast => ⟨mapError_eq_ok hlast, h'.rely⟩,
        fun e _ => ⟨hs.alike h'.rely, nofun⟩⟩
    refine hlast.bind_post hsingle (fun hm hp => hp.alike hm.rely)
      fun last s' hsingle' ⟨hlast, ha⟩ => ?_
    exact keeps_opening c choice hc hnone hlast hsingle' (hs.alike ha) (hr.alike ha) ha.keys

/-- Subscribing again is settled, and moving a subscription leaves the account as it is. -/
theorem keeps_updateLevel (c : Credentials) (p : Provider) (choice : LevelChoice) {r : Subscriber}
    {s : Course} (hsingle : s.Single) (hs : s.Accounted) (hr : s.Reads c.user r) :
    (updateLevel c r p choice).Keeps .serial (fun o s' => s'.Accounted ∧
      (r.subscriptionId = none → s.Settled c.user p choice o s')) s := by
  unfold updateLevel operation
  refine Keeps.within ?_ hsingle (fun o s' s'' h hp => ⟨hp.1.alike h.rely, fun hnone =>
    (hp.2 hnone).alike h.rely⟩) _
  split
  · rename_i id hid
    have hcalm := keeps_calm ((uses_changeLevel c p choice id).mono fun _ h =>
      .of_kind (.inr (.inl h))) hs
    exact hcalm.mono fun _ _ _ h => ⟨h, fun hnone => by rw [hid] at hnone; cases hnone⟩
  · rename_i hnone
    exact (keeps_subscribe c p choice hsingle hs hr hnone).mono fun _ _ _ h =>
      ⟨h.accounted, fun _ => h⟩

/-- A subscriber is canceled once nothing of it runs. -/
theorem keeps_deleteSubscriber (c : Credentials) {s : Course} (hsingle : s.Single)
    (hs : s.Accounted) : (deleteSubscriber c).Keeps .serial (fun _ s' => s'.Accounted) s := by
  have hcanceled : ∀ {r : Subscriber} {s : Course}, s.Single → s.Accounted → s.Reads c.user r →
      (s.drawn.Nodup → ∀ customer, r.customer = some customer →
        ∀ id, ¬s.world.registry.Runs customer id) →
      (persist (ask (.canceledAt c.user c.now))).Keeps .serial (fun _ s' => s'.Accounted) s := by
    intro r s hsingle hs hr hstopped
    have hask : (ask (.canceledAt c.user c.now)).Keeps .serial (fun _ s' => s'.Accounted) s := by
      refine keeps_ask_serial (fun ha hp => hp.alike ha) fun s' ha hsingle' rules => ?_
      have hstopped' : s'.drawn.Nodup → ∀ customer, r.customer = some customer →
          ∀ id, ¬s'.world.registry.Runs customer id := by
        rw [ha.world.registry, ha.drawn]
        exact hstopped
      exact ⟨hsingle'.canceledAt rules (hr.alike ha) hstopped' c.now,
        (hs.alike ha).canceledAt rules (hr.alike ha) hstopped' c.now⟩
    refine hask.andThen hsingle fun _ s' _ hs' => ?_
    split <;> exact fun s'' h' => hs'.alike h'.rely
  unfold deleteSubscriber operation
  refine Keeps.within ?_ hsingle (fun _ _ _ h hp => hp.alike h.rely) _
  have hlookup := (keeps_calm (uses_ask (c := .lookUp c.user c.hmac) trivial) hs).and
    ((keeps_lookUp c.user c.hmac s).restrict _)
  refine hlookup.bind_inv hsingle (fun hm hp => hp.alike hm.rely) fun l s hsingle hs hl => ?_
  have hmissing : (missing : Program Unit).Keeps .serial (fun _ s' => s'.Accounted) s :=
    fun s' h' => hs.alike h'.rely
  cases l with
  | wrongPassword | notStored => exact hmissing
  | found r =>
    have hr := hl r rfl
    dsimp only
    split
    · rename_i customer hc
      have hcalm := keeps_calm ((uses_cancelRemote customer).mono fun _ h =>
        .of_kind (.inr (.inr (.inr h)))) hs
      have hstop := hcalm.and ((keeps_cancelRemote hsingle hr hc).restrict _)
      refine hstop.bind_inv hsingle (fun hm hp => hp.alike hm.rely)
        fun _ s' hsingle' hs' hstopped => ?_
      refine hcanceled hsingle' hs' hstopped.reads fun hids customer' hc' => ?_
      obtain rfl := Option.some.inj (hc.symm.trans hc')
      exact hstopped.idle hids
    · rename_i hnone
      exact hcanceled hsingle hs hr fun _ customer hc => absurd hc (hnone customer)

/-- A subscriber gets a customer of its own, for which nothing was made yet. -/
theorem keeps_addPaymentMethod (c : Credentials) (p : Provider) (platform : Platform) {s : Course}
    (hsingle : s.Single) (hs : s.Accounted) :
    (addPaymentMethod c p platform).Keeps .serial (fun _ s' => s'.Accounted) s := by
  unfold addPaymentMethod operation
  refine Keeps.within ?_ hsingle (fun _ _ _ h hp => hp.alike h.rely) _
  refine (keeps_getSubscriber c hsingle hs).bind_inv hsingle (fun hm hp => hp.alike hm.rely)
    fun r s hsingle hs hr => ?_
  have hattach : (attach c p platform r).Keeps .serial (fun _ s' => s'.Accounted) s := by
    unfold attach
    split
    · split <;> exact fun s' h' => hs.alike h'.rely
    · have hcreate : (ask (.createCustomer p c.user platform)).Keeps .serial (fun o s' =>
          s'.Accounted ∧ onOk (fun customer s' => s'.Reads c.user r ∧
            s'.world.registry.Knows ⟨customer.id, p⟩ c.user) o s') s := by
        refine keeps_ask_serial (fun ha hp => ⟨hp.1.alike ha, fun customer hc => ?_⟩)
          fun s' ha hsingle' rules => ⟨hsingle'.after rules trivial,
            (hs.alike ha).after hsingle'.named rules trivial, fun customer hc => ?_⟩
        · exact ⟨(hp.2 customer hc).1.alike ha, by
            rw [ha.world.registry]; exact (hp.2 customer hc).2⟩
        · exact ⟨(hr.alike ha).after rules fun h => h,
            World.createCustomer_answer rules s'.world p _ _ hc⟩
      refine hcreate.bind_inv hsingle (fun hm hp => hp.alike hm.rely)
        fun customer s hsingle hs ⟨hr, hknows⟩ => ?_
      have hset : (ask (.setCustomer r.user ⟨customer.id, p⟩ c.now)).Keeps .serial
          (fun _ s' => s'.Accounted) s := by
        refine keeps_ask_serial (fun ha hp => hp.alike ha) fun s' ha hsingle' rules => ?_
        have hknows' : s'.drawn.Nodup → s'.world.registry.Knows ⟨customer.id, p⟩ r.user := by
          intro hids
          rw [ha.world.registry, ((hsingle'.single hids).fits (hr.alike ha)).identity]
          exact hknows
        exact ⟨hsingle'.setCustomer rules hknows' c.now,
          (hs.alike ha).setCustomer hsingle' rules hknows' c.now⟩
      refine hset.andThen hsingle fun _ s' _ hs' => ?_
      split <;> exact fun s'' h' => hs'.alike h'.rely
  have hattached : (attach c p platform r).Keeps .serial
      (fun o s' => s'.Accounted ∧ onOk (fun _ _ => True) o s') s :=
    hattach.mono fun _ _ _ h => ⟨h, fun _ _ => trivial⟩
  refine hattached.bind_inv hsingle (fun hm hp => hp.alike hm.rely) fun r' s' _ hs' _ => ?_
  refine keeps_calm ?_ hs'
  split
  · split
    · exact uses_ask trivial
    · trivial
  · trivial

/-- Every request that reads its own record keeps the account of the keys. -/
theorem keeps_program {r : Request} (hr : r.Fresh) {s : Course} (hsingle : s.Single)
    (hs : s.Accounted) : r.program.Keeps .serial (fun _ s' => s'.Accounted) s := by
  cases r with
  | updateLevel => exact hr.elim
  | updateSubscriber c =>
    exact keeps_calm ((uses_updateSubscriber c).mono fun _ h => .of_kind (.inl h)) hs
  | getSubscriber c => exact keeps_calm (uses_getSubscriber c trivial) hs
  | createReceipt c bytes =>
    exact keeps_calm ((uses_createReceipt c bytes).mono fun _ h =>
      .of_kind (.inr (.inr (.inl h)))) hs
  | deleteSubscriber c => exact keeps_deleteSubscriber c hsingle hs
  | addPaymentMethod c p platform => exact keeps_addPaymentMethod c p platform hsingle hs
  | readAndUpdateLevel c p choice =>
    refine (keeps_getSubscriber c hsingle hs).bind_inv hsingle (fun hm hp => hp.alike hm.rely)
      fun r s' hsingle' hs' hr => ?_
    exact (keeps_updateLevel c p choice hsingle' hs' hr).mono fun _ _ _ h => h.1

/-- A subscriber without a subscription that asks for a level is settled. -/
theorem keeps_readAndUpdateLevel (c : Credentials) (p : Provider) (choice : LevelChoice)
    {r : Subscriber} {s : Course} (hsingle : s.Single) (hs : s.Accounted) (hr : s.Reads c.user r)
    (hnone : r.subscriptionId = none) :
    (Request.readAndUpdateLevel c p choice).program.Keeps .serial
      (s.Settled c.user p choice) s := by
  have hget := (keeps_getSubscriber c hsingle hs).and (keeps_getSubscriber_still c s)
  have hpost : (getSubscriber c).Keeps .serial (fun o s' =>
      onOk (fun r' s' => s'.Accounted ∧ s'.Reads c.user r' ∧
        s'.world.store = s.world.store ∧ s'.keys = s.keys) o s' ∧
      ∀ e, o = .error e → s.Settled c.user p choice (.error e) s') s :=
    hget.mono fun o s' _ h => ⟨fun r' hr' => ⟨h.1.1, h.1.2 r' hr', h.2⟩,
      fun _ _ => ⟨h.1.1, nofun⟩⟩
  refine hpost.bind_post hsingle (fun hm hp => hp.alike hm.rely)
    fun r' s' hsingle' ⟨hs', hr', hstore, hkeys⟩ => ?_
  have hsame : s'.Reads c.user r := by rw [Course.Reads, hstore]; exact hr
  obtain rfl : r = r' := Option.some.inj (hsame.symm.trans hr')
  refine (keeps_updateLevel c p choice hsingle' hs' hr').mono fun o s'' _ h => ?_
  obtain ⟨haccounted, hrenewed⟩ := h.2 hnone
  refine ⟨haccounted, fun ho hids => ?_⟩
  -- the keys are those of the course before the subscriber was read
  obtain ⟨r'', id, hr'', hid, hlives⟩ := hrenewed ho hids
  refine ⟨r'', id, hr'', hid, ?_⟩
  rw [hlives, Course.Repeats, Course.Repeats, hkeys]

end Renewal

/-! ### Runs -/

theorem World.Fresh.accounted {w : World} (h : w.Fresh) : Course.Accounted ⟨w, []⟩ := by
  have hfind : ∀ user, w.store.find? user = none := by
    intro user
    rw [h.store]
    rfl
  refine fun _ => ⟨fun hs => ?_, fun _ => rfl, fun hid => ?_⟩
  · rw [hfind] at hs
    cases hs
  · rw [h.created?] at hid
    cases hid

/-- Where no call fails and requests wait for each other, the account of the keys is right. -/
theorem Course.accounted_through {w : World} (hw : w.Fresh) {es : List Event}
    (hes : ∀ e ∈ es, e.Fresh) :
    (Course.through ⟨w, []⟩ es).Single ∧ (Course.through ⟨w, []⟩ es).Accounted :=
  through_induction (fun ha hs => Accounted.alike hs ha)
    (fun rules _ hsingle hs hr =>
      serve_of_keeps hsingle rules (Renewal.keeps_program hr hsingle hs))
    hw.single hw.accounted hes

/-- A subscriber without a subscription that asks for a level and is answered has a subscription
then; it runs, at that level and for that template, exactly if the second of the previous creation
is not that of an earlier one (and not zero, which stands for no creation). -/
theorem Course.lives_iff_of_subscribed {w : World} (hw : w.Fresh) {es : List Event}
    (hes : ∀ e ∈ es, e.Fresh) (rules : Rules) (c : Credentials) (p : Provider)
    (choice : LevelChoice) {r : Subscriber} (hr : (Course.through ⟨w, []⟩ es).Reads c.user r)
    (hnone : r.subscriptionId = none) :
    let s := Course.through ⟨w, []⟩ es
    let o := s.serve rules (.readAndUpdateLevel c p choice)
    o.1 = .ok () → o.2.drawn.Nodup →
      ∃ r' id, o.2.Reads c.user r' ∧ r'.subscriptionId = some id ∧
        (o.2.world.registry.Lives p id choice ↔ ¬s.Repeats c.user) := by
  intro s o hok hids
  obtain ⟨hsingle, hs⟩ := accounted_through hw hes
  have hsettled := serve_of_keeps (r := .readAndUpdateLevel c p choice) hsingle rules
    (Renewal.keeps_readAndUpdateLevel c p choice hsingle hs hr hnone)
  exact hsettled.renewed hok hids

namespace Sample

/-- A second that is not the first of the epoch. -/
def second : Fin 60 := ⟨1, by decide⟩

/-- The subscriber becomes known, and subscribes and is deleted some times, all in one second. -/
def subscribeAndDelete (times : Nat) : List Event :=
  [.setClock (credentialsAt second).now, .serve rules (.updateSubscriber (credentialsAt second)),
    .serve rules (.addPaymentMethod (credentialsAt second) .stripe .ios)] ++
  (List.replicate times [.serve rules (toLevelAt second 500 "first"),
    .serve rules (.deleteSubscriber (credentialsAt second))]).flatten

/-- The subscriber as it is stored once it has subscribed and been deleted. -/
def deleted : Subscriber :=
  { Subscriber.new credentials.user credentials.hmac (credentialsAt second).now with
    canceledAt := some (credentialsAt second).now
    customer := some ⟨"emulator_cus_0000000000000001_0", .stripe⟩
    customerUpdatedAt := some (credentialsAt second).now
    subscriptionCreatedAt := some (credentialsAt second).now
    levelChangedAt := some (credentialsAt second).now }

end Sample

open Sample in
/-- Subscribing a second time works: the first key was zero, and the second one is one. -/
theorem Course.lives_iff_of_subscribed_twice :
    let s := Course.through ⟨.shipped, []⟩ (subscribeAndDelete 1)
    let o := s.serve rules
      (.readAndUpdateLevel (credentialsAt second) .stripe (choice 500 "second"))
    (∀ e ∈ subscribeAndDelete 1, e.Fresh) ∧ s.Reads credentials.user deleted ∧ o.1 = .ok () ∧
      o.2.drawn.Nodup ∧ ∃ r' id, o.2.Reads credentials.user r' ∧ r'.subscriptionId = some id ∧
        (o.2.world.registry.Lives .stripe id (choice 500 "second") ↔
          ¬s.Repeats credentials.user) := by
  intro s o
  have hes : ∀ e ∈ subscribeAndDelete 1, e.Fresh := by decide
  have hr : s.world.store.find? credentials.user = some deleted := by decide +kernel
  have hids : o.2.drawn.Nodup := by decide +kernel
  have hok : o.1 = .ok () := eq_ok_of_isOk (by decide +kernel)
  refine ⟨hes, hr, hok, hids, ?_⟩
  dsimp only [s, o] at hr hok hids ⊢
  exact lives_iff_of_subscribed World.fresh_shipped hes rules (credentialsAt second) .stripe
    (choice 500 "second") hr rfl hok hids

open Sample in
/-- Subscribing a third time within the second is answered with the second subscription, which was
canceled long ago. -/
theorem Course.not_lives_of_subscribed_thrice :
    let s := Course.through ⟨.shipped, []⟩ (subscribeAndDelete 2)
    let o := s.serve rules (.readAndUpdateLevel (credentialsAt second) .stripe (choice 500 "third"))
    (∀ e ∈ subscribeAndDelete 2, e.Fresh) ∧ s.Reads credentials.user deleted ∧ o.1 = .ok () ∧
      o.2.drawn.Nodup ∧ ¬∃ r' id, o.2.Reads credentials.user r' ∧ r'.subscriptionId = some id ∧
        o.2.world.registry.Lives .stripe id (choice 500 "third") := by
  intro s o
  have hes : ∀ e ∈ subscribeAndDelete 2, e.Fresh := by decide
  have hr : s.world.store.find? credentials.user = some deleted := by decide +kernel
  have hids : o.2.drawn.Nodup := by decide +kernel
  have hok : o.1 = .ok () := eq_ok_of_isOk (by decide +kernel)
  refine ⟨hes, hr, hok, hids, ?_⟩
  have hstored : (o.2.world.store.find? credentials.user).map (·.subscriptionId) =
      some (some "emulator_sub_0000000000000003_0") := by decide +kernel
  have hcanceled : (o.2.world.registry.subscription? .stripe
      "emulator_sub_0000000000000003_0").map (·.status) = some .canceled := by decide +kernel
  rintro ⟨r, id, hr', hid, sub, hsub, hactive, -⟩
  obtain ⟨r₁, hr₁, hid₁⟩ := Option.map_eq_some_iff.1 hstored
  obtain ⟨sub₁, hsub₁, hcanceled⟩ := Option.map_eq_some_iff.1 hcanceled
  obtain rfl : r₁ = r := Option.some.inj (hr₁.symm.trans hr')
  rw [hid₁] at hid
  obtain rfl := Option.some.inj hid
  rw [Option.some.inj (hsub₁.symm.trans hsub), hactive] at hcanceled
  cases hcanceled

end Patronage
