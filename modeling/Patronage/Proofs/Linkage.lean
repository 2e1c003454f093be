import Patronage.Proofs.Single
/-!
# Links between the store and the processors

The store keeps the customer of a subscriber and the name of its subscription; both live at a
processor, and a request writes them to the store some calls after the processor made them, from a
record that may be stale by then.  The links are sound all the same: a subscriber keeps the customer
it once got, processors keep what they made, and a repeated request finds a subscription of the very
customer that it asks for.  Main statements:

* `Course.grows_after` — processors keep every customer and every subscription;
* `Course.Linked.after` — a call that is sure of what it writes keeps all links sound;
* `System.links_sound` — links are sound in every run, and no two subscribers share one.
-/

namespace Patronage

open Manager

/-! ### What processors keep -/

namespace Registry

/-- A customer has a subscription, running or not. -/
def Holds (r : Registry) (c : Customer) (id : String) : Prop :=
  ∃ s, r.subscription? c.provider id = some s ∧ s.customerId = c.id

/-- A key stands for a subscription of the customer that it was made for. -/
def Replays (r : Registry) : Prop :=
  ∀ {c : Customer} {last : Int} {id : String},
    r.created? c.provider c.id last = some id → r.Holds c id

/-- A later registry, in which customers and subscriptions are where they were. -/
structure Grows (r r' : Registry) : Prop where
  knows : ∀ {c user}, r.Knows c user → r'.Knows c user
  holds : ∀ {c id}, r.Holds c id → r'.Holds c id

theorem Grows.refl (r : Registry) : r.Grows r := ⟨fun h => h, fun h => h⟩

theorem Grows.trans {r r' r'' : Registry} (h : r.Grows r') (h' : r'.Grows r'') : r.Grows r'' :=
  ⟨fun hk => h'.knows (h.knows hk), fun hh => h'.holds (h.holds hh)⟩

end Registry

namespace Course

variable {s : Course}

/-- Processors keep every customer and every subscription. -/
theorem grows_after (h : s.Named) (rules : Rules) (call : Call)
    (hids : (s.after rules call).drawn.Nodup) :
    s.world.registry.Grows (s.after rules call).world.registry := by
  rw [drawn_after] at hids
  cases s.world.shift_answer rules call with
  | same registry => rw [after, registry]; exact .refl _
  | «at» p e e' t find shift registry =>
    rw [after, registry]
    refine ⟨fun {c user} hknows => ?_, fun {c id} hholds => ?_⟩
    · obtain ⟨rc, hrc, hu⟩ := hknows
      refine ⟨rc, ?_, hu⟩
      rw [Registry.customer?_set]
      split
      · rename_i hp
        rw [← hp, Registry.customer?_of_find? find] at hrc
        exact shift.customer_kept (h find) hids hrc
      · exact hrc
    · obtain ⟨sub, hsub, hc⟩ := hholds
      by_cases hp : p = c.provider
      · rw [← hp, Registry.subscription?_of_find? find] at hsub
        have hmem := ((h find).subscription hsub).2
        have hd : s.world.drawn? call ≠ some id := by
          intro hd
          exact (List.nodup_append.1 hids).2.2 id hmem id (by simp [hd]) rfl
        obtain ⟨sub', hsub', hshift⟩ := shift.before (h find) hd hsub
        exact ⟨sub', by rw [Registry.subscription?_set, if_pos hp, hsub'],
          hshift.customerId.trans hc⟩
      · exact ⟨sub, by rwa [Registry.subscription?_set, if_neg hp], hc⟩

/-- A customer had its subscription before, or this call made it under a new identifier. -/
theorem holds_of_after (h : s.Named) (rules : Rules) {call : Call} {c : Customer} {id : String}
    (hholds : (s.after rules call).world.registry.Holds c id) :
    s.world.registry.Holds c id ∨ (s.world.drawn? call = some id ∧ ∃ templateId level last,
      call = .createSubscription c.provider c.id templateId level last) := by
  obtain ⟨sub, hsub, hc⟩ := hholds
  cases s.world.shift_answer rules call with
  | same registry =>
    rw [after, registry] at hsub
    exact .inl ⟨sub, hsub, hc⟩
  | «at» p e e' t find shift registry =>
    rw [after, registry, Registry.subscription?_set] at hsub
    split at hsub
    · rename_i hp
      subst hp
      obtain ⟨old, hold, hshift⟩ | ⟨_, templateId, level, last, _, hcall, hd, rfl⟩ :=
        shift.after (h find) hsub
      · exact .inl ⟨old, by rwa [Registry.subscription?_of_find? find],
          hshift.customerId.symm.trans hc⟩
      · obtain rfl := hc
        exact .inr ⟨hd, templateId, level, last, hcall⟩
    · exact .inl ⟨sub, hsub, hc⟩

theorem mem_drawn_of_holds (h : s.Named) {c : Customer} {id : String}
    (hholds : s.world.registry.Holds c id) : id ∈ s.drawn := by
  obtain ⟨sub, hsub, -⟩ := hholds
  obtain ⟨e, he, hsub⟩ := Option.bind_eq_some_iff.1 hsub
  exact ((h he).subscription hsub).2

end Course

/-- A key that stands for a subscription stood for it before, or the call made it. -/
theorem Emulator.Shift.created {m : Mint} {p : Provider} {e : Emulator} {call : Call}
    {s : Emulator × TokenSource} {d : Option String} (h : e.Shift m p call s d)
    {customerId id : String} {last : Int}
    (hid : s.1.createdByKey.get? (customerId, last) = some id) :
    e.createdByKey.get? (customerId, last) = some id ∨
      ∃ sub, s.1.subscriptions.get? id = some sub ∧ sub.customerId = customerId := by
  cases h with
  | same | customer | moved | billed | closed => exact .inl hid
  | opened customerId' templateId level last' currency =>
    by_cases hk : (customerId', last') = (customerId, last)
    · obtain ⟨rfl, rfl⟩ := Prod.mk.inj hk
      obtain rfl : m.identifier e.idLead .subscription = id := by
        simpa [withSubscription] using hid
      exact .inr ⟨_, (Assoc.get?_insert _ _ _ _).trans (if_pos rfl), rfl⟩
    · exact .inl (by simpa [withSubscription, hk] using hid)

/-- A call that writes to the store leaves the processors as they are. -/
theorem World.registry_answer {w : World} (rules : Rules) {c : Call} (h : c.Stores) :
    (w.answer rules c).2.registry = w.registry := by
  cases c with
  | create | accessedAt | canceledAt | setCustomer | subscriptionCreated | levelChanged =>
    exact registry_writeAll _ _
  | _ => exact h.elim

/-! ### The invariant -/

/-- What is kept about a subscriber points to what processors made for it. -/
structure Subscriber.Linked (r : Registry) (user : Bytes) (s : Subscriber) : Prop where
  identity : s.user = user
  customer : ∀ {c}, s.customer = some c → r.Knows c user
  subscription : ∀ {id}, s.subscriptionId = some id → ∃ c, s.customer = some c ∧ r.Holds c id

theorem Subscriber.Linked.grows {r r' : Registry} {user : Bytes} {s : Subscriber}
    (h : s.Linked r user) (hr : r.Grows r') : s.Linked r' user := by
  refine ⟨h.identity, fun hc => hr.knows (h.customer hc), fun hid => ?_⟩
  obtain ⟨c, hc, hholds⟩ := h.subscription hid
  exact ⟨c, hc, hr.holds hholds⟩

/-- The store and the keys of processors point to what is there, and nothing has two holders. -/
structure Linked (store : Store) (r : Registry) : Prop where
  subscriber : ∀ {user s}, store.find? user = some s → s.Linked r user
  replays : r.Replays
  apart : ∀ {c c' id}, r.Holds c id → r.Holds c' id → c = c'

namespace Linked

variable {store : Store} {r : Registry} {user : Bytes}

/-- A subscriber may change as long as it stays linked. -/
theorem update {α : Type} (h : Linked store r) (change : Subscriber → Subscriber)
    (report : Subscriber → Subscriber → α × Log.Entry)
    (hchange : ∀ s, store.find? user = some s → (change s).Linked r user) :
    Linked (store.update user change report).state r where
  subscriber {v s'} hs' := by
    rcases Store.find?_of_update hs' with ⟨s, hs, ⟨rfl, rfl⟩ | ⟨-, rfl⟩⟩
    · exact hchange s hs
    · exact h.subscriber hs
  replays := h.replays
  apart := h.apart

theorem created (h : Linked store r) (password : Bytes) (now : Moment) :
    Linked (store.create user password now).state r := by
  refine ⟨fun hs' => ?_, h.replays, h.apart⟩
  rcases Store.find?_of_create hs' with hs | ⟨rfl, -, rfl⟩
  · exact h.subscriber hs
  · exact ⟨rfl, fun hc => (by cases hc), fun hid => (by cases hid)⟩

theorem accessed (h : Linked store r) (now : Moment) :
    Linked (store.accessedAt user now).state r :=
  h.update _ _ fun _ hs =>
    ⟨(h.subscriber hs).identity, (h.subscriber hs).customer, (h.subscriber hs).subscription⟩

theorem canceled (h : Linked store r) (now : Moment) :
    Linked (store.canceledAt user now).state r :=
  h.update _ _ fun _ hs => ⟨(h.subscriber hs).identity, (h.subscriber hs).customer, nofun⟩

/-- A subscriber without a customer may get one that a processor made for it. -/
theorem attached (h : Linked store r) {c : Customer} (hknows : r.Knows c user) (now : Moment) :
    Linked (store.setCustomer user c now).state r := by
  refine h.update _ _ fun s hs => ?_
  have hl := h.subscriber hs
  unfold Subscriber.withCustomer
  split
  · exact hl
  · rename_i hnone
    refine ⟨hl.identity, fun hc => ?_, fun hid => ?_⟩
    · obtain rfl := Option.some.inj hc
      exact hknows
    · obtain ⟨c', hc', -⟩ := hl.subscription hid
      rw [hnone] at hc'
      cases hc'

/-- A subscriber may note a subscription that its customer has. -/
theorem noted {α : Type} (h : Linked store r) {id : String} (change : Subscriber → Subscriber)
    (report : Subscriber → Subscriber → α × Log.Entry)
    (hholds : ∀ s, store.find? user = some s → ∃ c, s.customer = some c ∧ r.Holds c id)
    (huser : ∀ s, (change s).user = s.user) (hcustomer : ∀ s, (change s).customer = s.customer)
    (hid : ∀ s, (change s).subscriptionId = some id) :
    Linked (store.update user change report).state r := by
  refine h.update change report fun s hs => ?_
  have hl := h.subscriber hs
  refine ⟨(huser s).trans hl.identity, fun hc => hl.customer ((hcustomer s).symm.trans hc),
    fun hid' => ?_⟩
  obtain rfl : id = _ := Option.some.inj ((hid s).symm.trans hid')
  obtain ⟨c, hc, hh⟩ := hholds s hs
  exact ⟨c, (hcustomer s).trans hc, hh⟩

theorem subscribed (h : Linked store r) {id : String}
    (hholds : ∀ s, store.find? user = some s → ∃ c, s.customer = some c ∧ r.Holds c id)
    (now : Moment) (level : Int) : Linked (store.subscriptionCreated user id now level).state r :=
  h.noted _ _ hholds (fun _ => rfl) (fun _ => rfl) fun _ => rfl

theorem moved (h : Linked store r) {id : String}
    (hholds : ∀ s, store.find? user = some s → ∃ c, s.customer = some c ∧ r.Holds c id)
    (now : Moment) (level : Int) : Linked (store.levelChanged user now level id).state r :=
  h.noted _ _ hholds (fun _ => rfl) (fun _ => rfl) fun _ => rfl

end Linked

/-! ### Calls -/

namespace Course

/-- What a call that writes a link must be sure of: that it leads somewhere. -/
def Justifies (s : Course) : Call → Prop
  | .setCustomer user c _ => s.world.registry.Knows c user
  | .subscriptionCreated user id _ _ | .levelChanged user _ _ id =>
    ∀ sub, s.world.store.find? user = some sub →
      ∃ c, sub.customer = some c ∧ s.world.registry.Holds c id
  | _ => True

/-- The links of the store are sound, while the identifiers drawn differ. -/
structure Linked (s : Course) : Prop where
  named : s.Named
  linked : s.drawn.Nodup → Patronage.Linked s.world.store s.world.registry

/-- A key still stands for a subscription of its customer after any call. -/
theorem replays_after {s : Course} (h : s.Named) (rules : Rules) {call : Call}
    (hids : (s.after rules call).drawn.Nodup) (hr : s.world.registry.Replays) :
    (s.after rules call).world.registry.Replays := by
  have hgrows := grows_after h rules call hids
  intro c last id hid
  cases s.world.shift_answer rules call with
  | same registry =>
    rw [after, registry] at hid
    exact hgrows.holds (hr hid)
  | «at» p e e' t find shift registry =>
    rw [after, registry, Registry.created?_set] at hid
    split at hid
    · rename_i hp
      obtain hold | ⟨sub, hsub, hc⟩ := shift.created hid
      · have hid' : s.world.registry.created? c.provider c.id last = some id := by
          rwa [← hp, Registry.created?_of_find? find]
        exact hgrows.holds (hr hid')
      · exact ⟨sub, by rw [after, registry, Registry.subscription?_set, if_pos hp, hsub], hc⟩
    · exact hgrows.holds (hr hid)

theorem linked_registry {s : Course} (h : s.Named) (rules : Rules) {call : Call}
    (hids : (s.after rules call).drawn.Nodup) {store : Store}
    (hl : Patronage.Linked store s.world.registry) :
    Patronage.Linked store (s.after rules call).world.registry := by
  have hgrows := grows_after h rules call hids
  have hids' := hids
  rw [drawn_after] at hids'
  refine ⟨fun hs => (hl.subscriber hs).grows hgrows, replays_after h rules hids hl.replays,
    fun {c c' id} hc hc' => ?_⟩
  -- what is made now has a new identifier, which nothing had before
  have fresh : ∀ {d : Customer}, s.world.registry.Holds d id → s.world.drawn? call ≠ some id := by
    intro d hd hdrawn
    exact (List.nodup_append.1 hids').2.2 id (mem_drawn_of_holds h hd) id (by simp [hdrawn]) rfl
  obtain hold | ⟨hd, _, _, _, hcall⟩ := holds_of_after h rules hc
  · obtain hold' | ⟨hd', _⟩ := holds_of_after h rules hc'
    · exact hl.apart hold hold'
    · exact absurd hd' (fresh hold)
  · obtain hold' | ⟨_, _, _, _, hcall'⟩ := holds_of_after h rules hc'
    · exact absurd hd (fresh hold')
    · rw [hcall] at hcall'
      injection hcall' with hp hid
      obtain ⟨_, _⟩ := c
      obtain ⟨_, _⟩ := c'
      simp_all

/-- A call that is sure of what it writes keeps all links sound. -/
theorem Linked.after {s : Course} (h : s.Linked) (rules : Rules) {c : Call}
    (hc : s.drawn.Nodup → s.Justifies c) : (s.after rules c).Linked := by
  refine ⟨named_after h.named rules c, fun hids => ?_⟩
  have hl := h.linked (nodup_of_after hids)
  have hc := hc (nodup_of_after hids)
  by_cases hstores : c.Stores
  · cases c with
    | create user password now =>
      simpa [Course.after, World.answer, World.withStore] using hl.created password now
    | accessedAt user now =>
      simpa [Course.after, World.answer, World.withStore] using hl.accessed now
    | canceledAt user now =>
      simpa [Course.after, World.answer, World.withStore] using hl.canceled now
    | setCustomer user customer now =>
      simpa [Course.after, World.answer, World.withStore] using hl.attached hc now
    | subscriptionCreated user id now level =>
      simpa [Course.after, World.answer, World.withStore] using hl.subscribed hc now level
    | levelChanged user now level id =>
      simpa [Course.after, World.answer, World.withStore] using hl.moved hc now level
    | _ => exact hstores.elim
  · exact (World.store_answer rules hstores).symm ▸ linked_registry h.named rules hids hl

/-- A later course: what was asked is remembered, and what was there is there. -/
structure Extends (s s' : Course) : Prop where
  past : s.past <+: s'.past
  /-- A subscriber stays stored and keeps its customer. -/
  store : ∀ {user r}, s.world.store.find? user = some r →
    ∃ r', s'.world.store.find? user = some r' ∧ ∀ {c}, r.customer = some c → r'.customer = some c
  registry : s'.drawn.Nodup → s.world.registry.Grows s'.world.registry

theorem Extends.alike {s s' : Course} (h : s.Alike s') : s.Extends s' where
  past := h.past ▸ List.prefix_rfl
  store {user r} hr := ⟨r, by rw [h.world.store, hr], id⟩
  registry _ := by rw [h.world.registry]; exact .refl _

theorem Extends.trans {s s' s'' : Course} (h : s.Extends s') (h' : s'.Extends s'') :
    s.Extends s'' where
  past := h.past.trans h'.past
  store hr := by
    obtain ⟨r', hr', hc⟩ := h.store hr
    obtain ⟨r'', hr'', hc'⟩ := h'.store hr'
    exact ⟨r'', hr'', fun hrc => hc' (hc hrc)⟩
  registry hids := (h.registry (nodup_mono h'.past hids)).trans (h'.registry hids)

end Course

/-- An update keeps every subscriber, and its customer if the change does. -/
theorem Store.kept_update {α : Type} (store : Store) (user : Bytes)
    (change : Subscriber → Subscriber) (report : Subscriber → Subscriber → α × Log.Entry)
    (hchange : ∀ s c, s.customer = some c → (change s).customer = some c) {other : Bytes}
    {r : Subscriber} (hr : store.find? other = some r) :
    ∃ r', (store.update user change report).state.find? other = some r' ∧
      ∀ {c}, r.customer = some c → r'.customer = some c := by
  refine ⟨_, find?_update_of_some change report hr, fun {c} hc => ?_⟩
  split
  · exact hchange r c hc
  · exact hc

namespace Course

theorem extends_after {s : Course} (h : s.Named) (rules : Rules) (call : Call) :
    s.Extends (s.after rules call) := by
  refine ⟨List.prefix_append _ _, fun {user r} hr => ?_, grows_after h rules call⟩
  by_cases hstores : call.Stores
  · cases call with
    | create u password now =>
      refine ⟨r, ?_, id⟩
      simpa [Course.after, World.answer, World.withStore] using
        s.world.store.find?_create_of_some u password now hr
    | accessedAt | canceledAt | subscriptionCreated | levelChanged =>
      rw [Course.after, World.answer, World.withStore, World.store_writeAll]
      refine s.world.store.kept_update _ _ _ ?_ hr
      exact fun _ _ hc => hc
    | setCustomer u customer now =>
      rw [Course.after, World.answer, World.withStore, World.store_writeAll]
      exact s.world.store.kept_update _ _ _
        (fun _ _ hc => by simp [Subscriber.withCustomer, hc]) hr
    | _ => exact hstores.elim
  · exact ⟨r, by rwa [Course.after, World.store_answer rules hstores], id⟩

/-- A subscriber as it was read at some time, whatever happened since. -/
structure Snapshot (user : Bytes) (r : Subscriber) (s : Course) : Prop where
  /-- The subscriber is stored still, with the customer that it had. -/
  stored : ∃ r', s.world.store.find? user = some r' ∧
    ∀ {c}, r.customer = some c → r'.customer = some c
  linked : s.drawn.Nodup → r.Linked s.world.registry user

theorem Snapshot.extends {user : Bytes} {r : Subscriber} {s s' : Course}
    (h : s.Snapshot user r) (hs : s.Extends s') : s'.Snapshot user r := by
  refine ⟨?_, fun hids => ?_⟩
  · obtain ⟨r', hr', hc⟩ := h.stored
    obtain ⟨r'', hr'', hc'⟩ := hs.store hr'
    exact ⟨r'', hr'', fun hrc => hc' (hc hrc)⟩
  · exact (h.linked (nodup_mono hs.past hids)).grows (hs.registry hids)

/-- What the customer of a subscriber that was read has, the stored subscriber may note. -/
theorem Snapshot.justified {user : Bytes} {r : Subscriber} {s : Course} (h : s.Snapshot user r)
    {c : Customer} (hc : r.customer = some c) {id : String}
    (hholds : s.world.registry.Holds c id) {sub : Subscriber}
    (hsub : s.world.store.find? user = some sub) :
    ∃ c, sub.customer = some c ∧ s.world.registry.Holds c id := by
  obtain ⟨r', hr', hkept⟩ := h.stored
  obtain rfl := Option.some.inj (hsub.symm.trans hr')
  exact ⟨c, hkept hc, hholds⟩

end Course

/-! ### Answers of the processors -/

namespace World

theorem createSubscription_eq (rules : Rules) (w : World) (p : Provider)
    (customerId templateId : String) (level last : Int) :
    w.answer rules (.createSubscription p customerId templateId level last) =
      w.withMint p fun e m => e.createSubscription m customerId templateId level last := rfl

theorem updateSubscription_eq (rules : Rules) (w : World) (p : Provider) (s : Subscription)
    (templateId : String) (level : Int) (key : String) :
    w.answer rules (.updateSubscription p s templateId level key) =
      w.withProcessor p fun e => e.updateSubscription ⟨s.id, templateId, level⟩ key := rfl

/-- A processor that answers is registered. -/
theorem asking_eq_ok {α : Type} {w : World} {p : Provider} {act : Emulator → Except Fault α} {a : α}
    (h : (w.asking p act).1 = .ok a) : ∃ e, w.registry.find? p = some e ∧ act e = .ok a := by
  unfold asking at h
  cases he : w.registry.find? p with
  | none => simp [Registry.get, he, bind, Except.bind] at h
  | some e => exact ⟨e, rfl, by simpa [Registry.get, he, bind, Except.bind] using h⟩

/-- A subscription that a processor answered with is filed under the identifier asked for. -/
theorem subscription?_of_answer {rules : Rules} {w : World} {p : Provider} {id : String}
    {sub : Subscription} (hsub : (w.answer rules (.subscription p id)).1 = .ok sub) :
    w.registry.subscription? p id = some sub := by
  obtain ⟨e, he, hok⟩ := asking_eq_ok hsub
  rw [Registry.subscription?_of_find? he]
  exact Emulator.subscription_eq_ok.1 hok

end World

/-- What is filed under an identifier has that identifier. -/
theorem Course.id_of_subscription? {s : Course} (h : s.Named) {p : Provider} {id : String}
    {sub : Subscription} (hsub : s.world.registry.subscription? p id = some sub) : sub.id = id := by
  obtain ⟨e, he, hsub⟩ := Option.bind_eq_some_iff.1 hsub
  exact ((h he).subscription hsub).1

/-- A change of level is refused, or it was made before under its key, or it is carried out. -/
theorem Emulator.updateSubscription_cases (e : Emulator) (r : LevelRequest) (key : String) :
    (∃ f, e.updateSubscription r key = .fail e f) ∨
    (e.updatedByKey.get? key = some r ∧
      ∃ events, e.updateSubscription r key = .ok e r.subscriptionId events) ∨
    (e.updatedByKey.get? key = none ∧ ∃ s currency events,
      e.subscriptions.get? r.subscriptionId = some s ∧
        e.updateSubscription r key = .ok (e.moved s r currency key) s.id events) := by
  unfold updateSubscription
  split
  · rename_i previous hkey
    split
    · rename_i hprevious
      exact .inr (.inl ⟨hprevious ▸ hkey, _, rfl⟩)
    · exact .inl ⟨_, rfl⟩
  · rename_i hkey
    unfold moveLevel
    split
    · exact .inl ⟨_, rfl⟩
    · exact .inl ⟨_, rfl⟩
    · rename_i s currency hs _
      exact .inr (.inr ⟨hkey, s, currency, _, (activeSubscription_eq_ok.1 hs).1, rfl⟩)

/-- A subscription that was moved is the one that was to be moved. -/
theorem Emulator.updateSubscription_answer {ids : List String} {e : Emulator} (h : e.Named ids)
    {r : LevelRequest} {key id : String} (hid : (e.updateSubscription r key).answer = .ok id) :
    id = r.subscriptionId := by
  rcases e.updateSubscription_cases r key with
    ⟨f, hfail⟩ | ⟨-, events, hreplay⟩ | ⟨-, s, currency, events, hs, hmove⟩
  · rw [hfail] at hid
    cases hid
  · rw [hreplay] at hid
    exact (Except.ok.inj hid).symm
  · rw [hmove] at hid
    exact (Except.ok.inj hid).symm.trans (h.subscription hs).1

theorem World.updateSubscription_answer {s : Course} (h : s.Named) (rules : Rules) {p : Provider}
    {sub : Subscription} {templateId : String} {level : Int} {key id : String}
    (hid : (s.world.answer rules (.updateSubscription p sub templateId level key)).1 = .ok id) :
    id = sub.id := by
  rw [updateSubscription_eq] at hid
  cases he : s.world.registry.find? p with
  | none => rw [withProcessor_of_none he] at hid; cases hid
  | some e =>
    rw [withProcessor_of_some he] at hid
    exact Emulator.updateSubscription_answer (h he) hid

/-- Making a subscription answers with the one that the key stands for, or with a new one. -/
theorem Emulator.createSubscription_answer {e : Emulator} {m : Mint}
    {customerId templateId : String} {level last : Int} {id : String}
    (hid : (e.createSubscription m customerId templateId level last).answer = .ok id) :
    (e.createdByKey.get? (customerId, last) = some id ∧
      (e.createSubscription m customerId templateId level last).state = (e, m.tokens)) ∨
    (e.createdByKey.get? (customerId, last) = none ∧ ∃ currency,
      (e.createSubscription m customerId templateId level last).state =
        (e.withSubscription ⟨id, customerId, templateId, level, currency, .active, m.now, none,
          .empty⟩ last, m.advance)) := by
  obtain ⟨f, hfail⟩ | ⟨id', events, hkey, hreplay⟩ | ⟨currency, events, -, hkey, -, hnew⟩ :=
    e.createSubscription_cases m customerId templateId level last
  · rw [hfail] at hid
    cases hid
  · rw [hreplay] at hid ⊢
    obtain rfl := Except.ok.inj hid
    exact .inl ⟨hkey, rfl⟩
  · rw [hnew] at hid ⊢
    obtain rfl := Except.ok.inj hid
    exact .inr ⟨hkey, currency, rfl⟩

/-- A subscription that a processor answered with, a new one or one that it made before, belongs to
the customer that it was made for. -/
theorem World.createSubscription_answer {w : World} (h : w.registry.Replays) (rules : Rules)
    {c : Customer} {templateId : String} {level last : Int} {id : String}
    (hid : (w.answer rules (.createSubscription c.provider c.id templateId level last)).1 =
      .ok id) :
    (w.answer rules
      (.createSubscription c.provider c.id templateId level last)).2.registry.Holds c id := by
  rw [createSubscription_eq] at hid ⊢
  cases he : w.registry.find? c.provider with
  | none => rw [withMint_of_none he] at hid; cases hid
  | some e =>
    rw [withMint_of_some he] at hid ⊢
    rw [registry_writeAll]
    obtain ⟨hkey, hstate⟩ | ⟨-, currency, hstate⟩ := Emulator.createSubscription_answer hid
    · have hreplays : w.registry.created? c.provider c.id last = some id := by
        rwa [Registry.created?_of_find? he]
      obtain ⟨sub, hsub, hc⟩ := h hreplays
      rw [Registry.subscription?_of_find? he] at hsub
      exact ⟨sub, by rw [hstate, Registry.subscription?_set, if_pos rfl, hsub], hc⟩
    · refine ⟨⟨id, c.id, templateId, level, currency, .active, w.mint.now, none, .empty⟩, ?_, rfl⟩
      rw [hstate, Registry.subscription?_set, if_pos rfl]
      simp [Emulator.withSubscription]

/-! ### Operations -/

/-- Any number of requests that take turns, over the collaborators in memory. -/
def Discipline.linkage : Discipline (Rules × Luck) where
  service := .inMemory
  inv := Course.Linked
  rely := Course.Extends
  keep := Course.Extends
  refl s := .alike (.refl s)
  trans := .trans
  alike := .alike
  inv_alike {s s'} ha h := by
    refine ⟨Course.Named.alike h.named ha, fun hids => ?_⟩
    rw [ha.world.store, ha.world.registry]
    exact h.linked (ha.drawn ▸ hids)

/-- A call that writes a link to the store. -/
def Call.Links : Call → Prop
  | .setCustomer .. | .subscriptionCreated .. | .levelChanged .. => True
  | _ => False

/-- Most operations make no such calls. -/
theorem Call.not_links_of_kind {c : Call} (h : c.Registers ∨ c.Cancels ∨ c.Redeems) :
    ¬c.Links := by
  cases c with
  | setCustomer | subscriptionCreated | levelChanged => simp [Registers, Cancels, Redeems] at h
  | _ => exact id

theorem Course.justifies_of_not_links (s : Course) {c : Call} (h : ¬c.Links) : s.Justifies c := by
  cases c with
  | setCustomer | subscriptionCreated | levelChanged => exact absurd trivial h
  | _ => trivial

namespace Linkage

open Program

/-- A call that is sure of what it writes keeps the links, and what it answers with lasts. -/
theorem keeps_ask {c : Call} {post : c.Answer → Course → Prop} {s : Course}
    (stable : ∀ {a s s'}, s.Extends s' → post a s → post a s')
    (h : ∀ s', s.Extends s' → s'.Linked → ∀ rules, (s'.drawn.Nodup → s'.Justifies c) ∧
      ∀ a, (s'.world.answer rules c).1 = .ok a → post a (s'.after rules c)) :
    (ask c).Keeps .linkage (onOk post) s := by
  intro s' hs i
  obtain ⟨rules, luck⟩ := i
  obtain ⟨hjustified, hpost⟩ := h s' hs.rely hs.inv rules
  have hafter := hs.inv.after rules hjustified
  have hextends := Course.extends_after hs.inv.named rules c
  cases luck with
  | fine => exact ⟨hextends, hafter, fun s'' h' a ha => stable h'.rely (hpost a ha)⟩
  | before m => exact ⟨.alike (.refl s'), hs.inv, fun _ _ _ ha => nomatch ha⟩
  | after m => exact ⟨hextends, hafter, fun _ _ _ ha => nomatch ha⟩

theorem keeps_of_uses {α : Type} {p : Program α} (h : p.Uses fun c => ¬c.Links) (s : Course) :
    p.Keeps .linkage (fun _ _ => True) s := by
  refine Discipline.keeps_of_uses (fun i c s hc hs => ?_) h s
  obtain hs' | hs' := s.ask_eq_or i.1 i.2 c
  · exact hs'.symm ▸ ⟨.alike (.refl s), hs⟩
  · exact hs'.symm ▸ ⟨Course.extends_after hs.named i.1 c,
      hs.after i.1 fun _ => s.justifies_of_not_links hc⟩

/-- A write to the store that is sure of what it writes. -/
theorem keeps_persist {c : Call} {s : Course} (hs : s.Linked)
    (h : ∀ s', s.Extends s' → s'.Linked → s'.drawn.Nodup → s'.Justifies c) :
    (Manager.persist (ask c)).Keeps .linkage (fun _ _ => True) s := by
  have hask : (ask c).Keeps .linkage (onOk fun _ _ => True) s :=
    keeps_ask (fun _ _ => trivial) fun s' he hs' _ => ⟨h s' he hs', fun _ _ => trivial⟩
  exact Manager.keeps_persist hs (hask.mono fun _ _ _ _ => trivial)

/-- A subscriber that was found is as it was read. -/
theorem keeps_lookUp (user hmac : Bytes) (s : Course) :
    (ask (.lookUp user hmac)).Keeps .linkage
      (onOk fun l s' => ∀ r, l = .found r → s'.Snapshot user r) s := by
  refine keeps_ask (fun he hp r hr => (hp r hr).extends he) fun s' _ hs' rules =>
    ⟨fun _ => trivial, fun l hl r hr => ?_⟩
  obtain rfl := Except.ok.inj hl
  have hfind := Store.find?_of_lookup hr
  have hsnap : s'.Snapshot user r :=
    ⟨⟨r, hfind, id⟩, fun hids => (hs'.linked hids).subscriber hfind⟩
  exact hsnap.extends (Course.extends_after hs'.named rules _)

theorem keeps_getSubscriber (c : Credentials) {s : Course} (hs : s.Linked) :
    (Manager.getSubscriber c).Keeps .linkage (onOk fun r s' => s'.Snapshot c.user r) s := by
  unfold Manager.getSubscriber Manager.operation
  refine Keeps.within ?_ hs (fun r s' s'' h hr a ha => (hr a ha).extends h.rely) _
  refine (keeps_lookUp c.user c.hmac s).bind hs fun l s' hs' hl => ?_
  cases l with
  | wrongPassword => exact keeps_error
  | notStored => exact keeps_error
  | found r =>
    intro s'' h' a ha
    obtain rfl := Except.ok.inj ha
    exact (hl r rfl).extends h'.rely

/-- A subscriber gets a customer that a processor made for it. -/
theorem keeps_addPaymentMethod (c : Credentials) (p : Provider) (platform : Platform) {s : Course}
    (hs : s.Linked) :
    (Manager.addPaymentMethod c p platform).Keeps .linkage (fun _ _ => True) s := by
  unfold Manager.addPaymentMethod Manager.operation
  refine Keeps.within ?_ hs (fun _ _ _ _ _ => trivial) _
  refine (keeps_getSubscriber c hs).bind_any hs fun r s hs hr => ?_
  have hattach : (Manager.attach c p platform r).Keeps .linkage (fun _ _ => True) s := by
    unfold Manager.attach
    split
    · split <;> exact fun _ _ => trivial
    · have hcreate : (ask (.createCustomer p c.user platform)).Keeps .linkage
          (onOk fun customer s' => s'.Snapshot c.user r ∧
            (s'.drawn.Nodup → s'.world.registry.Knows ⟨customer.id, p⟩ c.user)) s := by
        refine keeps_ask (fun he hp => ⟨hp.1.extends he, fun hids => ?_⟩) fun s' he hs' rules =>
          ⟨fun _ => trivial, fun customer hcustomer => ⟨?_, fun _ => ?_⟩⟩
        · exact (he.registry hids).knows (hp.2 (Course.nodup_mono he.past hids))
        · exact (hr.extends he).extends (Course.extends_after hs'.named rules _)
        · exact World.createCustomer_answer rules s'.world p _ _ hcustomer
      refine hcreate.bind_any hs fun customer s hs ⟨hr, hknows⟩ => ?_
      refine keeps_persist hs fun s' he hs' hids => ?_
      have hids' := Course.nodup_mono he.past hids
      show s'.world.registry.Knows _ r.user
      rw [(hr.linked hids').identity]
      exact (he.registry hids).knows (hknows hids')
  refine Keeps.bind_any (hattach.mono fun _ _ _ _ _ _ => trivial) hs fun r' s' hs' _ => ?_
  refine keeps_of_uses ?_ s'
  split
  · split
    · exact uses_ask id
    · trivial
  · trivial

/-- A change of level notes the subscription that the subscriber was read with. -/
theorem keeps_changeLevel (c : Credentials) (p : Provider) (choice : Manager.LevelChoice)
    {r : Subscriber} {id : String} (hid : r.subscriptionId = some id) {s : Course} (hs : s.Linked)
    (hr : s.Snapshot c.user r) :
    (Manager.changeLevel c p choice id).Keeps .linkage (fun _ _ => True) s := by
  -- any call that writes no link leaves the snapshot valid
  have quiet : ∀ (call : Call) {s : Course}, ¬call.Links → s.Snapshot c.user r →
      (ask call).Keeps .linkage (onOk fun _ s' => s'.Snapshot c.user r) s := fun _ _ hcall hr =>
    keeps_ask (fun he hp => hp.extends he) fun s' he hs' rules =>
      ⟨fun _ => s'.justifies_of_not_links hcall, fun _ _ =>
        (hr.extends he).extends (Course.extends_after hs'.named rules _)⟩
  have hread : (ask (.subscription p id)).Keeps .linkage
      (onOk fun sub s' => sub.id = id ∧ s'.Snapshot c.user r) s :=
    keeps_ask (fun he hp => ⟨hp.1, hp.2.extends he⟩) fun s' he hs' rules =>
      ⟨fun _ => trivial, fun sub hsub =>
        ⟨Course.id_of_subscription? hs'.named (World.subscription?_of_answer hsub),
          (hr.extends he).extends (Course.extends_after hs'.named rules _)⟩⟩
  unfold Manager.changeLevel
  refine hread.bind_any hs fun sub s hs ⟨hsub, hr⟩ => ?_
  refine (quiet (.tier p sub) (fun h => h) hr).bind_any hs fun current s hs hr => ?_
  have hwanted : (ofExcept ((Tier.of choice.level choice.currency).mapError .invalid)).Keeps
      .linkage (onOk fun _ s' => s'.Snapshot c.user r) s := fun _ h' _ _ => hr.extends h'.rely
  refine hwanted.bind_any hs fun wanted s hs hr => ?_
  split
  · exact fun _ _ => trivial
  refine (quiet (.allows current.level choice.level) (fun h => h) hr).bind_any hs
    fun allowed s hs hr => ?_
  split
  · have hmove : (ask (.updateSubscription p sub choice.templateId choice.level choice.key)).Keeps
        .linkage (onOk fun updated s' => updated = id ∧ s'.Snapshot c.user r) s :=
      keeps_ask (fun he hp => ⟨hp.1, hp.2.extends he⟩) fun s' he hs' rules =>
        ⟨fun _ => trivial, fun updated hupdated =>
          ⟨(World.updateSubscription_answer hs'.named rules hupdated).trans hsub,
            (hr.extends he).extends (Course.extends_after hs'.named rules _)⟩⟩
    refine hmove.bind_any hs fun updated s hs ⟨hupdated, hr⟩ => ?_
    subst hupdated
    refine keeps_persist hs fun s' he _ hids stored hstored => ?_
    have hr' := hr.extends he
    obtain ⟨customer, hc, hholds⟩ := (hr'.linked hids).subscription hid
    exact hr'.justified hc hholds hstored
  · exact fun _ _ => trivial

/-- A new subscription is noted for the customer that it was made for. -/
theorem keeps_opening (c : Credentials) (choice : Manager.LevelChoice) {r : Subscriber}
    {customer : Customer} (hc : r.customer = some customer) (last : Int) {s : Course}
    (hs : s.Linked) (hr : s.Snapshot c.user r) :
    (Manager.opening c customer choice last).Keeps .linkage (fun _ _ => True) s := by
  have hcreate : (ask (.createSubscription customer.provider customer.id choice.templateId
      choice.level last)).Keeps .linkage (onOk fun id s' => s'.Snapshot c.user r ∧
        (s'.drawn.Nodup → s'.world.registry.Holds customer id)) s := by
    refine keeps_ask (fun he hp => ⟨hp.1.extends he, fun hids => ?_⟩) fun s' he hs' rules =>
      ⟨fun _ => trivial, fun id hid => ⟨?_, fun hids => ?_⟩⟩
    · exact (he.registry hids).holds (hp.2 (Course.nodup_mono he.past hids))
    · exact (hr.extends he).extends (Course.extends_after hs'.named rules _)
    · have hlinked := hs'.linked (Course.nodup_of_after hids)
      exact World.createSubscription_answer hlinked.replays rules hid
  have hclassified : (Manager.orRequiresAction (ask (.createSubscription customer.provider
      customer.id choice.templateId choice.level last))).Keeps .linkage
      (onOk fun id s' => s'.Snapshot c.user r ∧
        (s'.drawn.Nodup → s'.world.registry.Holds customer id)) s := by
    refine Manager.keeps_orRequiresAction hs (fun h' hp => ⟨hp.1.extends h'.rely, ?_⟩) hcreate
    intro hids
    exact (h'.rely.registry hids).holds (hp.2 (Course.nodup_mono h'.rely.past hids))
  refine hclassified.bind_any hs fun id s hs ⟨hr, hholds⟩ => ?_
  refine keeps_persist hs fun s' he _ hids stored hstored => ?_
  have hholds' := (he.registry hids).holds (hholds (Course.nodup_mono he.past hids))
  exact (hr.extends he).justified hc hholds' hstored

theorem keeps_subscribe (c : Credentials) (p : Provider) (choice : Manager.LevelChoice)
    {r : Subscriber} {s : Course} (hs : s.Linked) (hr : s.Snapshot c.user r) :
    (Manager.subscribe c p choice r).Keeps .linkage (fun _ _ => True) s := by
  rcases Manager.subscribe_cases c p choice r with ⟨f, hfail⟩ | ⟨customer, hc, rfl, hsubscribe⟩
  · rw [hfail]
    exact fun _ _ => trivial
  · rw [hsubscribe]
    have hlast : (Program.ofExcept (r.lastCreated.mapError .time)).Keeps .linkage
        (onOk fun _ s' => s'.Snapshot c.user r) s := fun s' h' _ _ => hr.extends h'.rely
    exact hlast.bind_any hs fun last s' hs' hr' => keeps_opening c choice hc last hs' hr'

/-- A change of level of a subscriber that was read at any time writes only sound links. -/
theorem keeps_updateLevel (c : Credentials) (p : Provider) (choice : Manager.LevelChoice)
    {r : Subscriber} {s : Course} (hs : s.Linked) (hr : s.Snapshot c.user r) :
    (Manager.updateLevel c r p choice).Keeps .linkage (fun _ _ => True) s := by
  unfold Manager.updateLevel Manager.operation
  refine Keeps.within ?_ hs (fun _ _ _ _ _ => trivial) _
  split
  · rename_i id hid
    exact keeps_changeLevel c p choice hid hs hr
  · exact keeps_subscribe c p choice hs hr

end Linkage

/-! ### Systems -/

/-- What a request has to show for itself: a subscriber that it read is a valid snapshot. -/
def Request.Yields : (r : Request) → Except Fault r.Answer → Course → Prop
  | .getSubscriber c => Program.onOk fun r s => s.Snapshot c.user r
  | .updateSubscriber _ | .deleteSubscriber _ | .addPaymentMethod .. | .updateLevel ..
  | .readAndUpdateLevel .. | .createReceipt .. => fun _ _ => True

/-- The subscriber that a request has read and answered with. -/
def Task.read? : Task → Option (Bytes × Subscriber)
  | ⟨.getSubscriber c, .done (.ok r), _⟩ => some (c.user, r)
  | _ => none

namespace System

/-- A request works on a record of the same subscriber that an earlier request was answered with,
however long ago. -/
def HasRead (s : System) : Request → Prop
  | .updateLevel c record .. => ∃ t ∈ s.tasks, t.read? = some (c.user, record)
  | _ => True

instance (s : System) : (r : Request) → Decidable (s.HasRead r)
  | .updateLevel c record .. =>
    inferInstanceAs (Decidable (∃ t ∈ s.tasks, t.read? = some (c.user, record)))
  | .updateSubscriber _ | .getSubscriber _ | .deleteSubscriber _ | .addPaymentMethod ..
  | .readAndUpdateLevel .. | .createReceipt .. => isTrue trivial

theorem snapshot_of_read? {s : System} (h : s.Disciplined .linkage Request.Yields) {t : Task}
    (ht : t ∈ s.tasks) {user : Bytes} {record : Subscriber}
    (hread : t.read? = some (user, record)) : s.course.Snapshot user record := by
  unfold Task.read? at hread
  split at hread
  · obtain ⟨rfl, rfl⟩ := Prod.mk.inj (Option.some.inj hread)
    exact h.post_of_done ht rfl _ rfl
  · cases hread

/-- A request that works on a record that was read keeps the links. -/
theorem keeps_program_of_hasRead {s : System} (h : s.Disciplined .linkage Request.Yields)
    {r : Request} (hr : s.HasRead r) : r.program.Keeps .linkage r.Yields s.course := by
  cases r with
  | updateSubscriber c =>
    refine Linkage.keeps_of_uses ((Manager.uses_updateSubscriber c).mono fun call hcall => ?_) _
    exact Call.not_links_of_kind (.inl hcall)
  | getSubscriber c => exact Linkage.keeps_getSubscriber c h.inv
  | deleteSubscriber c =>
    refine Linkage.keeps_of_uses ((Manager.uses_deleteSubscriber c).mono fun call hcall => ?_) _
    exact Call.not_links_of_kind (.inr (.inl hcall))
  | addPaymentMethod c p platform => exact Linkage.keeps_addPaymentMethod c p platform h.inv
  | updateLevel c record p choice =>
    obtain ⟨t, ht, hread⟩ := hr
    exact Linkage.keeps_updateLevel c p choice h.inv (snapshot_of_read? h ht hread)
  | readAndUpdateLevel c p choice =>
    exact (Linkage.keeps_getSubscriber c h.inv).bind_any h.inv fun record s' hs' hsnap =>
      Linkage.keeps_updateLevel c p choice hs' hsnap
  | createReceipt c bytes =>
    refine Linkage.keeps_of_uses ((Manager.uses_createReceipt c bytes).mono fun call hcall => ?_) _
    exact Call.not_links_of_kind (.inr (.inr hcall))

end System

theorem World.Fresh.linked {w : World} (h : w.Fresh) : Course.Linked ⟨w, []⟩ := by
  refine ⟨h.named, fun _ => ⟨fun hs => ?_, fun hid => ?_, fun hc _ => ?_⟩⟩
  · rw [h.store] at hs
    cases hs
  · rw [h.created?] at hid
    cases hid
  · obtain ⟨sub, hsub, -⟩ := hc
    rw [h.subscription?] at hsub
    cases hsub

/-- However requests take turns, and whichever of their calls fail, as long as changes of level work
on records that were read before: a subscription that is stored belongs to the stored customer, a
processor made that customer for this very subscriber, and no two subscribers have a customer or a
subscription in common. -/
theorem System.links_sound {w : World} (hw : w.Fresh) {moves : List (Move (Rules × Luck))}
    (hread : (start w).Admits .inMemory HasRead moves)
    (hids : ((start w).play .inMemory moves).course.drawn.Nodup) :
    let s := ((start w).play .inMemory moves).course.world
    (∀ {user r id}, s.store.find? user = some r → r.subscriptionId = some id →
      ∃ c, r.customer = some c ∧ s.registry.Knows c user ∧ s.registry.Holds c id) ∧
    (∀ {user other r r'}, s.store.find? user = some r → s.store.find? other = some r' →
      user ≠ other →
        (∀ c, r.customer = some c → r'.customer ≠ some c) ∧
        ∀ id, r.subscriptionId = some id → r'.subscriptionId ≠ some id) := by
  intro s
  have hstart : (start w).Disciplined .linkage Request.Yields :=
    ⟨hw.linked, fun _ ht => absurd ht List.not_mem_nil⟩
  have hplay := hstart.play_of_admits id (fun hd hr => keeps_program_of_hasRead hd hr) hread
  have h : Linked s.store s.registry := hplay.inv.linked hids
  have hjoined : ∀ {user r id}, s.store.find? user = some r → r.subscriptionId = some id →
      ∃ c, r.customer = some c ∧ s.registry.Knows c user ∧ s.registry.Holds c id := by
    intro user r id hr hid
    obtain ⟨c, hc, hholds⟩ := (h.subscriber hr).subscription hid
    exact ⟨c, hc, (h.subscriber hr).customer hc, hholds⟩
  refine ⟨hjoined, fun {user other r r'} hr hr' hne => ⟨?_, ?_⟩⟩
  · intro c hc hc'
    exact hne (((h.subscriber hr).customer hc).unique ((h.subscriber hr').customer hc'))
  · intro id hid hid'
    obtain ⟨c, -, hknows, hholds⟩ := hjoined hr hid
    obtain ⟨c', -, hknows', hholds'⟩ := hjoined hr' hid'
    -- one subscription has one customer
    obtain rfl := h.apart hholds hholds'
    exact hne (hknows.unique hknows')

namespace Sample

/-- The subscriber starts at a level twice, with the record that it read at first; in between its
subscription is canceled. -/
def subscribeStale : List (Move (Rules × Luck)) :=
  oneByOne asShipped
    [.updateSubscriber credentials, .addPaymentMethod credentials .stripe .ios,
      .getSubscriber credentials,
      .updateLevel credentials attached .stripe (choice 500 "first"),
      .deleteSubscriber credentials,
      .updateLevel credentials attached .stripe (choice 1000 "second")]

end Sample

open Sample in
/-- The second start answers with the canceled subscription, which is the subscriber's own still. -/
theorem System.links_sound_of_subscribeStale :
    let s := (start .shipped).play .inMemory subscribeStale
    (start .shipped).Admits .inMemory HasRead subscribeStale ∧ s.course.drawn.Nodup ∧
      ∃ r, s.course.world.store.find? credentials.user = some r ∧
        r.subscriptionId = some "emulator_sub_0000000000000002_0" ∧
        ∃ c, r.customer = some c ∧ s.course.world.registry.Knows c credentials.user ∧
          s.course.world.registry.Holds c "emulator_sub_0000000000000002_0" := by
  intro s
  have hread : (start .shipped).Admits .inMemory HasRead subscribeStale := by decide +kernel
  have hids : s.course.drawn.Nodup := by decide +kernel
  have hstored : (s.course.world.store.find? credentials.user).any
      (·.subscriptionId = some "emulator_sub_0000000000000002_0") := by decide +kernel
  obtain ⟨r, hr, hid⟩ := (Option.any_eq_true _ _).1 hstored
  have hid := of_decide_eq_true hid
  refine ⟨hread, hids, r, hr, hid, ?_⟩
  dsimp only [s] at hids hr ⊢
  exact (links_sound World.fresh_shipped hread hids).1 hr hid

end Patronage
