import Patronage.Proofs.Authority
import Patronage.Proofs.Transcript
import Patronage.Proofs.Trial
/-!
# Subscribers apart

A request reaches customers and subscriptions by identifiers that it has from a record: its
subscriber's own, as the store has it or as it was read at some time.  The links from records to
processors are sound, so whatever it reaches is its own subscriber's.  Main statements:

* `Request.tells_program_own` — every call of a request is about what it has at hand;
* `Course.Walk.ask` — such a call leaves everything of other subscribers as it is;
* `System.apart_of_attempt` — so does every request, whether it answers or fails.
-/

namespace Patronage

open Manager

/-! ### What a request has at hand -/

/-- A record at hand: the one that a request came with, or one that it has found. -/
def AtHand (user : Bytes) (given : Option Subscriber) (h : List Heard) (s : Subscriber) : Prop :=
  given = some s ∨ ∃ hmac, ⟨.lookUp user hmac, .ok (.found s)⟩ ∈ h

variable {user : Bytes} {given : Option Subscriber} {h h' : List Heard}

theorem AtHand.mono {s : Subscriber} (hs : AtHand user given h s) (hh : h ⊆ h') :
    AtHand user given h' s :=
  hs.imp_right fun ⟨hmac, hmem⟩ => ⟨hmac, hh hmem⟩

namespace Call

/-- The subscriber whose record a call may write. -/
def writes? : Call → Option Bytes
  | .create user .. | .accessedAt user _ | .canceledAt user _ | .setCustomer user ..
  | .subscriptionCreated user .. | .levelChanged user .. => some user
  | _ => none

/-- What a request of a subscriber may ask after what it has heard: it looks itself up before
anything else, makes a customer right after that, writes its own record only, and tells processors
of customers and subscriptions of records at hand. -/
def Own (user : Bytes) (given : Option Subscriber) (h : List Heard) : Call → Prop
  | .lookUp user' _ => user' = user ∧ h = []
  | .createCustomer _ user' _ => user' = user ∧ h.length = 1
  | .create user' .. | .accessedAt user' _ | .canceledAt user' _ | .subscriptionCreated user' ..
  | .levelChanged user' .. => user' = user
  | .setCustomer user' .. => ∃ s, AtHand user given h s ∧ s.user = user'
  | .createSubscription p customerId .. | .cancelAll p customerId =>
    ∃ s, AtHand user given h s ∧ s.customer = some ⟨customerId, p⟩
  | .receiptItem _ id => ∃ s, AtHand user given h s ∧ s.subscriptionId = some id
  | .updateSubscription p sub .. => ∃ s id, AtHand user given h s ∧ s.subscriptionId = some id ∧
    ⟨.subscription p id, .ok sub⟩ ∈ h
  | _ => True

/-- A call that a request may make whatever it has heard. -/
def Free (user : Bytes) (c : Call) : Prop := ∀ given h, c.Own user given h

end Call

namespace Request

/-- The record that a request comes with. -/
def given? : Request → Option Subscriber
  | .updateLevel _ s .. => some s
  | _ => none

end Request

/-- Whatever it hears, the program makes only calls of its own request. -/
abbrev Program.Owns {α : Type} (user : Bytes) (given : Option Subscriber) (p : Program α)
    (h : List Heard) : Prop := p.Tells (Call.Own user given) (fun _ _ => True) h

namespace Manager

open Program

variable {α β : Type}

/-- After free calls a request has heard what it had heard before. -/
theorem tells_free {p : Program α} (hp : p.Uses (·.Free user)) (hh : h ⊆ h') :
    p.Tells (Call.Own user given) (fun h' _ => h ⊆ h') h' :=
  tells_subset hp (fun _ _ hfree => hfree _ _) hh

/-- Free calls, and then what a request goes on with. -/
theorem tells_free_bind {p : Program α} {f : α → Program β} (hp : p.Uses (·.Free user))
    (hf : ∀ h' a, h ⊆ h' → (f a).Owns user given h') : (p >>= f).Owns user given h :=
  (tells_free hp (List.Subset.refl h)).bind (fun _ _ _ => trivial) hf

/-- One call that is the request's own, and then free calls. -/
theorem tells_own_bind {c : Call} {f : c.Answer → Program α} (hc : c.Own user given h)
    (hf : ∀ a, (f a).Uses (·.Free user)) : (ask c >>= f).Owns user given h :=
  Tells.bind (tells_ask (Q := fun _ _ => True) hc fun _ => trivial) (fun _ _ _ => trivial)
    fun _ a _ => tells_of_uses (hf a) fun _ _ hfree => hfree _ _

theorem tells_getSubscriber_own (c : Credentials) :
    (getSubscriber c).Tells (Call.Own c.user given)
      (fun h r => ∀ s, r = .ok s → AtHand c.user given h s ∧ h.length = 1) [] := by
  have hask : (ask (.lookUp c.user c.hmac)).Tells (Call.Own c.user given)
      (fun h a => h = [⟨.lookUp c.user c.hmac, a⟩]) [] := tells_ask ⟨rfl, rfl⟩ fun _ => rfl
  refine Tells.within (hask.bind (fun _ _ _ _ hs => nomatch hs) ?_) _
  rintro h l rfl
  cases l with
  | wrongPassword | notStored => exact fun _ hs => nomatch hs
  | found s =>
    intro s' hs'
    obtain rfl := Except.ok.inj hs'
    exact ⟨.inr ⟨c.hmac, List.mem_singleton_self _⟩, rfl⟩

theorem tells_updateSubscriber_own (c : Credentials) :
    (updateSubscriber c).Owns c.user given [] := by
  refine Tells.within (tells_own_bind (c := .lookUp c.user c.hmac) ⟨rfl, rfl⟩ fun l => ?_) _
  cases l with
  | wrongPassword => trivial
  | notStored =>
    refine Uses.bind (uses_ask fun _ _ => rfl) fun created => ?_
    split <;> trivial
  | found s => exact uses_persist (uses_ask fun _ _ => rfl)

/-- A note of what a request has done. -/
theorem tells_note {c : Call} (hc : c.Free user) :
    (persist (ask c)).Owns user given h :=
  tells_of_uses (uses_persist (uses_ask hc)) fun _ _ hfree => hfree _ _

theorem tells_deleteSubscriber_own (c : Credentials) :
    (deleteSubscriber c).Owns c.user given [] := by
  have hlookup : (ask (.lookUp c.user c.hmac)).Tells (Call.Own c.user given)
      (fun h r => ∀ s, r = .ok (.found s) → AtHand c.user given h s) [] :=
    tells_ask ⟨rfl, rfl⟩ fun a s hs => .inr ⟨c.hmac, by simp [hs]⟩
  refine Tells.within (hlookup.bind (fun _ _ _ => trivial) fun h l hl => ?_) _
  cases l with
  | wrongPassword | notStored => trivial
  | found s =>
    have hcanceled : ∀ {h}, (persist (ask (.canceledAt c.user c.now))).Owns c.user given h :=
      tells_note fun _ _ => rfl
    dsimp only
    split
    · rename_i customer hc
      refine Tells.bind (Q := fun _ _ => True) ?_ (fun _ _ _ => trivial) fun _ _ _ => hcanceled
      refine tells_free_bind (uses_ask fun _ _ => trivial) fun h' _ hh => ?_
      have hown : (Call.cancelAll customer.provider customer.id).Own c.user given h' :=
        ⟨s, (hl s rfl).mono hh, hc⟩
      refine Tells.andThen (Q := fun _ _ => True) (tells_ask hown fun _ => trivial) fun _ r _ => ?_
      split
      · split <;> trivial
      · trivial
    · exact hcanceled

theorem tells_addPaymentMethod_own (c : Credentials) (p : Provider) (platform : Platform) :
    (addPaymentMethod c p platform).Owns c.user given [] := by
  refine Tells.within ((tells_getSubscriber_own c).bind (fun _ _ _ => trivial) fun h s hs => ?_) _
  obtain ⟨hhand, hlength⟩ := hs s rfl
  refine Tells.bind (Q := fun _ _ => True) ?_ (fun _ _ _ => trivial) fun h s' _ => ?_
  · unfold attach
    split
    · split <;> trivial
    · have hcreate : (ask (.createCustomer p c.user platform)).Tells
          (Call.Own c.user given) (fun h' _ => h ⊆ h') h :=
        tells_ask ⟨rfl, hlength⟩ fun _ => List.subset_append_left _ _
      refine hcreate.bind (fun _ _ _ => trivial) fun h' customer hh => ?_
      refine tells_persist ?_ fun _ _ _ _ => trivial
      exact tells_ask ⟨s, hhand.mono hh, rfl⟩ fun _ => trivial
  · split
    · split
      · exact tells_ask trivial fun _ => trivial
      · trivial
    · trivial

theorem tells_changeLevel_own (c : Credentials) (p : Provider) (choice : LevelChoice)
    {s : Subscriber} {id : String} (hs : AtHand c.user given h s)
    (hid : s.subscriptionId = some id) :
    (changeLevel c p choice id).Owns c.user given h := by
  have hread : (ask (.subscription p id)).Tells (Call.Own c.user given)
      (fun h' r => h ⊆ h' ∧ ∀ sub, r = .ok sub → ⟨.subscription p id, .ok sub⟩ ∈ h') h :=
    tells_ask trivial fun a => ⟨List.subset_append_left _ _, fun sub hsub => by simp [hsub]⟩
  refine hread.bind (fun _ _ _ => trivial) fun h₁ sub ⟨hh₁, hsub⟩ => ?_
  refine tells_free_bind (uses_ask fun _ _ => trivial) fun h₂ current hh₂ => ?_
  refine tells_free_bind (uses_ofExcept _) fun h₃ wanted hh₃ => ?_
  split
  · trivial
  refine tells_free_bind (uses_ask fun _ _ => trivial) fun h₄ allowed hh₄ => ?_
  split
  · have hh : h₁ ⊆ h₄ := fun _ hx => hh₄ (hh₃ (hh₂ hx))
    have hhand : AtHand c.user given h₄ s := (hs.mono hh₁).mono hh
    refine tells_own_bind ⟨s, id, hhand, hid, hh (hsub sub rfl)⟩ fun _ => ?_
    exact uses_persist (uses_ask fun _ _ => rfl)
  · trivial

theorem tells_subscribe_own (c : Credentials) (p : Provider) (choice : LevelChoice)
    {s : Subscriber} (hs : AtHand c.user given h s) :
    (subscribe c p choice s).Owns c.user given h := by
  rcases subscribe_cases c p choice s with ⟨f, hfail⟩ | ⟨customer, hc, rfl, hsubscribe⟩
  · rw [hfail]
    trivial
  · rw [hsubscribe]
    refine tells_free_bind (uses_ofExcept _) fun h' last hh => ?_
    refine Tells.bind (Q := fun _ _ => True) ?_ (fun _ _ _ => trivial) fun _ id _ =>
      tells_note fun _ _ => rfl
    refine Tells.andThen (Q := fun _ _ => True) (tells_ask ⟨s, hs.mono hh, hc⟩ fun _ => trivial)
      fun _ r _ => ?_
    split
    · split <;> trivial
    · trivial

theorem tells_updateLevel_own (c : Credentials) (p : Provider) (choice : LevelChoice)
    {s : Subscriber} (hs : AtHand c.user given h s) :
    (updateLevel c s p choice).Owns c.user given h := by
  unfold updateLevel operation
  refine Tells.within ?_ _
  split
  · rename_i id hid
    exact tells_changeLevel_own c p choice hs hid
  · exact tells_subscribe_own c p choice hs

theorem tells_createReceipt_own (c : Credentials) (bytes : Bytes) :
    (createReceipt c bytes).Owns c.user given [] := by
  have classified : ∀ {α : Type} {call : Call} {f : Except Fault call.Answer → Program α},
      call.Free c.user → (∀ r, (f r).Uses (·.Free c.user)) →
        ((ask call).andThen f).Uses (·.Free c.user) := fun h hf => (uses_ask h).andThen hf
  refine Tells.within ((tells_getSubscriber_own c).bind (fun _ _ _ => trivial) fun h s hs => ?_) _
  split
  · trivial
  rename_i id hid
  refine tells_free_bind (classified (fun _ _ => trivial) fun r => by split <;> trivial)
    fun h₁ request hh₁ => ?_
  split
  · trivial
  refine tells_free_bind (uses_ask fun _ _ => trivial) fun h₂ _ hh₂ => ?_
  refine tells_own_bind ⟨s, ((hs s rfl).1.mono hh₁).mono hh₂, hid⟩ fun item => ?_
  refine Uses.bind (uses_ofExcept _) fun print => ?_
  refine Uses.bind (uses_ask fun _ _ => trivial) fun noted => ?_
  split
  · trivial
  refine Uses.bind (uses_ask fun _ _ => trivial) fun expires => ?_
  refine Uses.bind (uses_ofExcept _) fun seconds => ?_
  refine Uses.bind (classified (fun _ _ => trivial) fun r => by split <;> trivial)
    fun credential => ?_
  refine Uses.bind (uses_ofExcept _) fun event => ?_
  trivial

end Manager

/-- Whatever a request hears, every call that it makes is its own. -/
theorem Request.tells_program_own (r : Request) :
    r.program.Owns r.credentials.user r.given? [] := by
  cases r with
  | updateSubscriber c => exact tells_updateSubscriber_own c
  | getSubscriber c => exact (tells_getSubscriber_own c).mono fun _ _ _ => trivial
  | deleteSubscriber c => exact tells_deleteSubscriber_own c
  | addPaymentMethod c p platform => exact tells_addPaymentMethod_own c p platform
  | updateLevel c s p choice => exact tells_updateLevel_own c p choice (.inl rfl)
  | readAndUpdateLevel c p choice =>
    exact (tells_getSubscriber_own c).bind (fun _ _ _ => trivial) fun h s hs =>
      tells_updateLevel_own c p choice (hs s rfl).1
  | createReceipt c bytes => exact tells_createReceipt_own c bytes

/-! ### What one call does to others -/

namespace World

/-- A call writes at most the record of its own subscriber. -/
theorem find?_answer_of_ne (rules : Rules) (w : World) {c : Call} {other : Bytes}
    (hc : c.writes? ≠ some other) :
    (w.answer rules c).2.store.find? other = w.store.find? other := by
  by_cases hstores : c.Stores
  · cases c with
    | create user password now =>
      have hne : user ≠ other := fun he => hc (congrArg some he)
      rw [answer, withStore, store_writeAll, Store.find?_create, if_neg fun hh => hne hh.1]
    | accessedAt user | canceledAt user | setCustomer user | subscriptionCreated user
    | levelChanged user =>
      have hne : user ≠ other := fun he => hc (congrArg some he)
      rw [answer, withStore, store_writeAll]
      exact (Store.get?_update _ _ _ _ _).trans (if_neg hne)
    | _ => exact hstores.elim
  · rw [store_answer rules hstores]

/-- The customer that the store has for a subscriber. -/
def customerOf? (w : World) (user : Bytes) : Option Customer :=
  (w.store.find? user).bind (·.customer)

end World

/-- A later registry with one more customer, a customer of a given subscriber. -/
def Registry.Enrolled (r : Registry) (user : Bytes) (r' : Registry) : Prop :=
  ∃ p id rc, r.customer? p id = none ∧ rc.user = user ∧
    ∀ q id', r'.customer? q id' = if p = q ∧ id = id' then some rc else r.customer? q id'

/-- An operation leaves the customers as they are, or it makes a new one. -/
theorem Emulator.Shift.customers_cases {m : Mint} {p : Provider} {e : Emulator} {c : Call}
    {s : Emulator × TokenSource} {d : Option String} {ids : List String}
    (h : e.Shift m p c s d) (hn : e.Named ids) (hids : (ids ++ d.toList).Nodup) :
    s.1.customers = e.customers ∨ ∃ user platform id, c = .createCustomer p user platform ∧
      e.customers.get? id = none ∧
      s.1.customers = e.customers.insert id ⟨id, user, platform, false⟩ := by
  cases h with
  | customer user platform =>
    refine .inr ⟨user, platform, m.identifier e.idLead .customer, rfl, ?_, rfl⟩
    -- what is there has an identifier that was drawn before
    cases hc : e.customers.get? (m.identifier e.idLead .customer) with
    | none => rfl
    | some rc =>
      exact absurd rfl ((List.nodup_append.1 hids).2.2 _ (hn.customer hc).2 _ (by simp))
  | same | opened | moved | billed | closed => exact .inl rfl

namespace Course

variable {s : Course}

/-- A call leaves the customers as they are, or it makes a new one. -/
theorem customers_after (h : s.Named) (rules : Rules) {c : Call}
    (hids : (s.after rules c).drawn.Nodup) :
    (∀ p id, (s.after rules c).world.registry.customer? p id =
      s.world.registry.customer? p id) ∨
    ∃ p user platform, c = .createCustomer p user platform ∧
      s.world.registry.Enrolled user (s.after rules c).world.registry := by
  rw [drawn_after] at hids
  cases s.world.shift_answer rules c with
  | same registry => exact .inl fun p id => by rw [after, registry]
  | «at» q e e' t find shift registry =>
    rw [after, registry]
    obtain hsame | ⟨user, platform, id, rfl, hnone, hnew⟩ :=
      shift.customers_cases (h find) hids
    · refine .inl fun p id => ?_
      rw [Registry.customer?_set]
      split
      · rename_i hq
        rw [← hq, Registry.customer?_of_find? find, ← hsame]
      · rfl
    · refine .inr ⟨q, user, platform, rfl, q, id, ⟨id, user, platform, false⟩, ?_, rfl,
        fun p id' => ?_⟩
      · rw [Registry.customer?_of_find? find, hnone]
      · rw [Registry.customer?_set]
        by_cases hq : q = p
        · subst hq
          change e'.customers = _ at hnew
          simp [hnew, Registry.customer?_of_find? find]
        · simp [hq]

/-- What is filed under an identifier is as it was, or it is a subscription of the customer. -/
def Confined (c : Option Customer) (s s' : Course) : Prop :=
  ∀ p id, s'.world.registry.subscription? p id = s.world.registry.subscription? p id ∨
    ∃ sub, s'.world.registry.subscription? p id = some sub ∧ c = some ⟨sub.customerId, p⟩

theorem Confined.trans {c : Option Customer} {s s' s'' : Course} (h : s.Confined c s')
    (h' : s'.Confined c s'') : s.Confined c s'' := by
  intro p id
  obtain hsame' | hmine := h' p id
  · rw [hsame']
    exact h p id
  · exact .inr hmine

/-- What is known while a request runs: what it has found are snapshots of its subscriber, with the
customer that the store had for it at the start. -/
structure Informed (user : Bytes) (given : Option Subscriber) (c : Option Customer)
    (h : List Heard) (s : Course) : Prop where
  hand : ∀ {r}, AtHand user given h r → s.Snapshot user r ∧ ∀ k, r.customer = some k → c = some k
  read : ∀ {p id sub}, ⟨.subscription p id, .ok sub⟩ ∈ h → sub.id = id

/-- Whatever is filed under the subscription of a record at hand is of the customer. -/
theorem Informed.owner {c : Option Customer} (hi : s.Informed user given c h)
    (hl : s.Linked) (hids : s.drawn.Nodup) {r : Subscriber} (hr : AtHand user given h r)
    {p : Provider} {id : String} (hid : r.subscriptionId = some id) {sub : Subscription}
    (hsub : s.world.registry.subscription? p id = some sub) :
    c = some ⟨sub.customerId, p⟩ := by
  obtain ⟨hsnap, hcustomer⟩ := hi.hand hr
  obtain ⟨k, hk, hholds⟩ := (hsnap.linked hids).subscription hid
  have hholds' : s.world.registry.Holds ⟨sub.customerId, p⟩ id := ⟨sub, hsub, rfl⟩
  -- a subscription has one customer
  obtain rfl := (hl.linked hids).apart hholds hholds'
  exact hcustomer _ hk

/-- The record that a request's own call writes is its subscriber's. -/
theorem Informed.eq_of_writes {c : Option Customer} (hi : s.Informed user given c h)
    (hids : s.drawn.Nodup) {call : Call} (hown : call.Own user given h) {other : Bytes}
    (hw : call.writes? = some other) : other = user := by
  cases call with
  | create | accessedAt | canceledAt | subscriptionCreated | levelChanged =>
    exact (Option.some.inj hw).symm.trans hown
  | setCustomer user' customer now =>
    obtain ⟨r, hr, rfl⟩ := hown
    exact (Option.some.inj hw).symm.trans ((hi.hand hr).1.linked hids).identity
  | _ => cases hw

/-- A request's own call changes and makes subscriptions of its customer only. -/
theorem confined_after {c : Option Customer} (hi : s.Informed user given c h) (hl : s.Linked)
    (rules : Rules) {call : Call} (hown : call.Own user given h)
    (hids : (s.after rules call).drawn.Nodup) : s.Confined c (s.after rules call) := by
  have hids₀ := nodup_of_after hids
  intro p id
  cases s.world.shift_answer rules call with
  | same registry => exact .inl (by rw [after, registry])
  | «at» q e e' t find shift registry =>
    rw [after, registry, Registry.subscription?_set]
    split
    · rename_i hq
      subst hq
      have hnamed := hl.named find
      have hfind := Registry.subscription?_of_find? find id
      have mine : ∀ {r sub}, AtHand user given h r → r.subscriptionId = some id →
          e.subscriptions.get? id = some sub → c = some ⟨sub.customerId, q⟩ := fun hr hid hsub =>
        hi.owner hl hids₀ hr hid (hfind.trans hsub)
      obtain ⟨customerId, templateId, level, last, currency, rfl, -, hnew⟩ | hrel :=
        shift.subscription hnamed id
      · obtain ⟨r, hr, hk⟩ := hown
        exact .inr ⟨_, hnew, (hi.hand hr).2 _ hk⟩
      rw [hfind]
      cases hold : e.subscriptions.get? id with
      | none =>
        -- nothing is filed anew by a call that makes no subscription
        cases hnew : e'.subscriptions.get? id with
        | none => exact .inl rfl
        | some sub' =>
          obtain ⟨sub, hsub, -⟩ := OptionRel.exists_of_right hrel hnew
          rw [hold] at hsub
          cases hsub
      | some sub =>
        obtain ⟨sub', hsub', hshift⟩ := OptionRel.exists_of_left hrel hold
        cases hshift with
        | same => exact .inl hsub'
        | moved read templateId level key currency hcall hread =>
          subst hcall
          obtain ⟨r, id', hr, hid, hmem⟩ := hown
          obtain rfl : id' = id :=
            (hi.read hmem).symm.trans (hread.trans (hnamed.subscription hold).1)
          have hmine := mine hr hid hold
          exact .inr ⟨_, hsub', hmine⟩
        | billed cycle item hcall =>
          subst hcall
          obtain ⟨r, hr, hid⟩ := hown
          rw [(hnamed.subscription hold).1] at hid
          have hmine := mine hr hid hold
          exact .inr ⟨_, hsub', hmine⟩
        | closed customerId hcall hactive =>
          subst hcall
          obtain ⟨r, hr, hk⟩ := hown
          refine .inr ⟨_, hsub', ?_⟩
          obtain rfl := (Subscription.isActiveOf_iff.1 hactive).1
          exact (hi.hand hr).2 _ hk
    · exact .inl rfl

/-- What a request has done to others: nothing but to make a customer of its own. -/
structure Apart (user : Bytes) (h : List Heard) (s₀ s : Course) : Prop where
  store : ∀ other, other ≠ user → s.world.store.find? other = s₀.world.store.find? other
  /-- There is a new customer only after two calls, the second of which made it. -/
  customers : (∀ p id, s.world.registry.customer? p id = s₀.world.registry.customer? p id) ∨
    2 ≤ h.length ∧ s₀.world.registry.Enrolled user s.world.registry
  confined : s₀.Confined (s₀.world.customerOf? user) s

/-- A request on its way, from the start of it: all links are sound, it has found what it says, and
it has kept to itself. -/
structure Walk (user : Bytes) (given : Option Subscriber) (s₀ : Course) (h : List Heard)
    (s : Course) : Prop where
  linked : s.Linked
  later : s₀.Extends s
  first : h = [] → s.world.store = s₀.world.store
  informed : s.Informed user given (s₀.world.customerOf? user) h
  apart : s.drawn.Nodup → Apart user h s₀ s

/-- What has been found stays so, and what is found before anything else is the stored record. -/
theorem Walk.informed_after {s₀ : Course} (hw : Walk user given s₀ h s) (rules : Rules) {c : Call}
    (hown : c.Own user given h) {a : Except Fault c.Answer}
    (ha : ∀ x, a = .ok x → (s.world.answer rules c).1 = .ok x) :
    (s.after rules c).Informed user given (s₀.world.customerOf? user) (h ++ [⟨c, a⟩]) := by
  have hextends := extends_after hw.linked.named rules c
  have old : ∀ {r}, AtHand user given h r → (s.after rules c).Snapshot user r ∧
      ∀ k, r.customer = some k → s₀.world.customerOf? user = some k := fun hr =>
    ⟨(hw.informed.hand hr).1.extends hextends, (hw.informed.hand hr).2⟩
  refine ⟨fun {r} hr => ?_, fun {p id sub} hmem => ?_⟩
  · obtain hgiven | ⟨hmac, hmem⟩ := hr
    · exact old (.inl hgiven)
    obtain hmem | hnew := List.mem_append.1 hmem
    · exact old (.inr ⟨hmac, hmem⟩)
    cases List.mem_singleton.1 hnew
    obtain ⟨-, rfl⟩ := hown
    have hfind : s.world.store.find? user = some r :=
      Store.find?_of_lookup (Except.ok.inj (ha _ rfl))
    have hsnap : s.Snapshot user r :=
      ⟨⟨r, hfind, id⟩, fun hids => (hw.linked.linked hids).subscriber hfind⟩
    rw [hw.first rfl] at hfind
    exact ⟨hsnap.extends hextends, fun k hk => by simp [World.customerOf?, hfind, hk]⟩
  · obtain hmem | hnew := List.mem_append.1 hmem
    · exact hw.informed.read hmem
    cases List.mem_singleton.1 hnew
    exact id_of_subscription? hw.linked.named (World.subscription?_of_answer (ha _ rfl))

/-- A request's own call that took effect leaves everything of others as it is. -/
theorem Apart.after {s₀ : Course} (hapart : Apart user h s₀ s) (hl : s.Linked)
    (hi : s.Informed user given (s₀.world.customerOf? user) h) (rules : Rules) {c : Call}
    (hown : c.Own user given h) (hids : (s.after rules c).drawn.Nodup) (a : Except Fault c.Answer) :
    Apart user (h ++ [⟨c, a⟩]) s₀ (s.after rules c) := by
  refine ⟨fun other hne => ?_, ?_, hapart.confined.trans (confined_after hi hl rules hown hids)⟩
  · have hwrites : c.writes? ≠ some other := fun hw =>
      hne (hi.eq_of_writes (nodup_of_after hids) hown hw)
    exact (World.find?_answer_of_ne rules s.world hwrites).trans (hapart.store other hne)
  · have hlonger : 2 ≤ h.length → 2 ≤ (h ++ [(⟨c, a⟩ : Heard)]).length := fun hle =>
      Nat.le_trans hle (by simp)
    obtain hsame | ⟨p, user', platform, rfl, hnew⟩ := customers_after hl.named rules hids
    · refine hapart.customers.imp (fun hold p id => (hsame p id).trans (hold p id)) ?_
      rintro ⟨hle, p, id, rc, hnone, huser, hrest⟩
      exact ⟨hlonger hle, p, id, rc, hnone, huser, fun q id' => (hsame q id').trans (hrest q id')⟩
    · -- two calls have been made now, and the first of them made no customer
      obtain ⟨rfl, hlength⟩ := hown
      obtain hold | ⟨hle, -⟩ := hapart.customers
      · obtain ⟨p, id, rc, hnone, huser, hrest⟩ := hnew
        refine .inr ⟨by simp [hlength], p, id, rc, (hold p id).symm.trans hnone, huser,
          fun q id' => ?_⟩
        rw [hrest, hold]
      · omega

/-- A request's own call, whatever befalls it, leaves everything of others as it is. -/
theorem Walk.ask {s₀ : Course} (hw : Walk user given s₀ h s) (rules : Rules) (luck : Luck)
    {c : Call} (hown : c.Own user given h) (hl : (s.ask rules luck c).2.Linked) :
    Walk user given s₀ (h ++ [⟨c, (s.ask rules luck c).1⟩]) (s.ask rules luck c).2 := by
  have after : ∀ {a : Except Fault c.Answer}, (s.after rules c).Linked →
      (∀ x, a = .ok x → (s.world.answer rules c).1 = .ok x) →
        Walk user given s₀ (h ++ [⟨c, a⟩]) (s.after rules c) := fun {a} hl ha =>
    { linked := hl
      later := hw.later.trans (extends_after hw.linked.named rules c)
      first := fun hnil => absurd hnil (by simp)
      informed := hw.informed_after rules hown ha
      apart := fun hids =>
        (hw.apart (nodup_of_after hids)).after hw.linked hw.informed rules hown hids a }
  cases luck with
  | fine => exact after hl fun _ hx => hx
  | after m => exact after hl fun _ hx => nomatch hx
  | before m =>
    -- nothing happened, and nothing was found
    have old : ∀ {x : Heard}, x ∈ h ++ [⟨c, .error m.fault⟩] → (∃ a, x.answer = .ok a) → x ∈ h := by
      rintro x hx ⟨a, ha⟩
      obtain hx | hx := List.mem_append.1 hx
      · exact hx
      · cases List.mem_singleton.1 hx
        cases ha
    refine ⟨hl, hw.later, fun hnil => absurd hnil (by simp),
      ⟨fun hr => hw.informed.hand (hr.imp_right ?_),
        fun hmem => hw.informed.read (old hmem ⟨_, rfl⟩)⟩,
      fun hids => ⟨(hw.apart hids).store, (hw.apart hids).customers.imp_right fun ⟨hle, hnew⟩ =>
        ⟨Nat.le_trans hle (by simp), hnew⟩, (hw.apart hids).confined⟩⟩
    exact fun ⟨hmac, hmem⟩ => ⟨hmac, old hmem ⟨_, rfl⟩⟩

theorem Walk.alike {s₀ s' : Course} (hw : Walk user given s₀ h s) (ha : s.Alike s') :
    Walk user given s₀ h s' := by
  have hextends : s.Extends s' := .alike ha
  refine ⟨Discipline.linkage.inv_alike ha hw.linked, hw.later.trans hextends,
    fun hnil => ha.world.store.trans (hw.first hnil),
    ⟨fun hr => ⟨(hw.informed.hand hr).1.extends hextends, (hw.informed.hand hr).2⟩,
      hw.informed.read⟩, fun hids => ?_⟩
  obtain ⟨hstore, hcustomers, hconfined⟩ := hw.apart (ha.drawn ▸ hids)
  refine ⟨?_, ?_, ?_⟩
  · rwa [ha.world.store]
  · rwa [ha.world.registry]
  · unfold Confined
    rwa [ha.world.registry]

/-- A request has kept to itself when it ends. -/
theorem Walk.attempt {α : Type} {s₀ : Course} (hw : Walk user given s₀ h s) (rules : Rules)
    (luck : Call → Luck) {post : Except Fault α → Course → Prop} {p : Program α}
    (hk : p.Keeps .linkage post s) (ht : p.Owns user given h) :
    ∃ h', Walk user given s₀ h' (s.attempt rules luck p).2 := by
  induction p generalizing h s with
  | done r => exact ⟨h, hw⟩
  | call c next ih =>
    obtain ⟨-, hl, hn⟩ := hk s (.refl hw.linked) (rules, luck c)
    exact ih _ (hw.ask rules (luck c) ht.1 hl) hn (ht.2 _)
  | enter fields next ih =>
    exact ih _ (hw.alike (.within s _)) ((hk _).meets (.alike (.within s _) hw.linked)) (ht _)
  | leave saved next ih =>
    exact ih (hw.alike (.within s _)) (Program.Keeps.meets hk (.alike (.within s _) hw.linked)) ht
  | log e next ih =>
    exact ih (hw.alike (.write s e)) (Program.Keeps.meets hk (.alike (.write s e) hw.linked)) ht

end Course

/-! ### Requests -/

namespace System

/-- A request that arrives has done nothing, and what it comes with is a snapshot. -/
theorem walk_of_hasRead {s : System} (hs : s.Disciplined .linkage Request.Yields) {r : Request}
    (hr : s.HasRead r) : Course.Walk r.credentials.user r.given? s.course [] s.course := by
  refine ⟨hs.inv, .alike (.refl _), fun _ => rfl, ⟨fun {record} hrecord => ?_, fun hmem => ?_⟩,
    fun _ => ⟨fun _ _ => rfl, .inl fun _ _ => rfl, fun _ _ => .inl rfl⟩⟩
  · obtain hgiven | ⟨_, hmem⟩ := hrecord
    · cases r with
      | updateLevel c given p choice =>
        obtain rfl := Option.some.inj hgiven
        obtain ⟨t, ht, hread⟩ := hr
        have hsnap : s.course.Snapshot c.user given := snapshot_of_read? hs ht hread
        obtain ⟨r', hr', hkept⟩ := hsnap.stored
        exact ⟨hsnap, fun k hk => by
          simp [World.customerOf?, Request.credentials, hr', hkept hk]⟩
      | _ => cases hgiven
    · exact absurd hmem List.not_mem_nil
  · exact absurd hmem List.not_mem_nil

/-- A request of a subscriber that runs from start to end, whatever befalls its calls and whether it
answers or fails, with the subscriber's record as it has it or as it was read at some time: the
records of all other subscribers are as they were; so are all customers, but for one that is new
and the subscriber's; and so are all subscriptions of any customer but the one that the subscriber
had at the start, none being new. -/
theorem apart_of_attempt {w : World} (hw : w.Fresh) {moves : List (Move (Rules × Luck))}
    (hread : (start w).Admits .inMemory HasRead moves) {r : Request}
    (hr : ((start w).play .inMemory moves).HasRead r) (rules : Rules) (luck : Call → Luck) :
    let s := ((start w).play .inMemory moves).course
    let s' := (s.attempt rules luck r.program).2
    let user := r.credentials.user
    s'.drawn.Nodup →
    (∀ other, other ≠ user → s'.world.store.find? other = s.world.store.find? other) ∧
    ((∀ p id, s'.world.registry.customer? p id = s.world.registry.customer? p id) ∨
      s.world.registry.Enrolled user s'.world.registry) ∧
    ∀ p id sub, s.world.customerOf? user ≠ some ⟨sub.customerId, p⟩ →
      (s'.world.registry.subscription? p id = some sub ↔
        s.world.registry.subscription? p id = some sub) := by
  intro s s' user hids
  have hstart : (start w).Disciplined .linkage Request.Yields :=
    ⟨hw.linked, fun _ ht => absurd ht List.not_mem_nil⟩
  have hplay := hstart.play_of_admits id (fun hd hr => keeps_program_of_hasRead hd hr) hread
  obtain ⟨h, hwalk⟩ := (walk_of_hasRead hplay hr).attempt rules luck
    (keeps_program_of_hasRead hplay hr) r.tells_program_own
  have hapart : Course.Apart user h s s' := hwalk.apart hids
  refine ⟨hapart.store, hapart.customers.imp_right And.right, fun p id sub hother => ?_⟩
  obtain hsame | ⟨sub', hsub', hmine⟩ := hapart.confined p id
  · rw [hsame]
  · constructor
    · intro hsub
      obtain rfl := Option.some.inj (hsub'.symm.trans hsub)
      exact absurd hmine hother
    · intro hsub
      -- a subscription stays with its customer
      have hholds : s.world.registry.Holds ⟨sub.customerId, p⟩ id := ⟨sub, hsub, rfl⟩
      obtain ⟨sub₁, hsub₁, hc⟩ := (hwalk.later.registry hids).holds hholds
      obtain rfl := Option.some.inj (hsub'.symm.trans hsub₁)
      rw [hc] at hmine
      exact absurd hmine hother

end System

namespace Sample

/-- Another subscriber. -/
def neighbor : Credentials := ⟨[0xcc], [0xdd], .epoch⟩

/-- Two subscribers start at a level, with the same key. -/
def neighbors : List (Move (Rules × Luck)) :=
  oneByOne asShipped
    [.updateSubscriber credentials, .addPaymentMethod credentials .stripe .ios,
      toLevel 500 "first", .updateSubscriber neighbor, .addPaymentMethod neighbor .stripe .android,
      .readAndUpdateLevel neighbor .stripe (choice 500 "first")]

end Sample

open Sample in
/-- One of them is deleted with all that it has, and the other one has its subscription still. -/
theorem System.apart_of_attempt_of_neighbors :
    let s := ((start .shipped).play .inMemory neighbors).course
    let s' := (s.attempt asShipped.1 (fun _ => .fine) (Request.deleteSubscriber neighbor).program).2
    s'.world.store.find? neighbor.user ≠ s.world.store.find? neighbor.user ∧
      s'.world.store.find? credentials.user = s.world.store.find? credentials.user ∧
      ∃ sub, sub.status = .active ∧
        s'.world.registry.subscription? .stripe "emulator_sub_0000000000000002_0" = some sub := by
  intro s s'
  have hread : (start .shipped).Admits .inMemory HasRead neighbors := by decide +kernel
  have hids : s'.drawn.Nodup := by decide +kernel
  have hchanged : s'.world.store.find? neighbor.user ≠ s.world.store.find? neighbor.user := by
    decide +kernel
  have hdrawn : (s.world.registry.subscription? .stripe "emulator_sub_0000000000000002_0").any
      fun sub => sub.status = .active ∧
        s.world.customerOf? neighbor.user ≠ some ⟨sub.customerId, .stripe⟩ := by decide +kernel
  obtain ⟨sub, hsub, hcase⟩ := (Option.any_eq_true _ _).1 hdrawn
  obtain ⟨hactive, hother⟩ := of_decide_eq_true hcase
  have hr : ((start .shipped).play .inMemory neighbors).HasRead (.deleteSubscriber neighbor) :=
    trivial
  dsimp only [s', s] at hids hchanged hsub hother ⊢
  obtain ⟨hstore, -, hkept⟩ :=
    apart_of_attempt World.fresh_shipped hread hr asShipped.1 (fun _ => .fine) hids
  have hne : credentials.user ≠ neighbor.user := by decide
  refine ⟨hchanged, ?_, sub, hactive, ?_⟩
  · exact hstore _ hne
  · exact (hkept _ _ _ hother).2 hsub

end Patronage
