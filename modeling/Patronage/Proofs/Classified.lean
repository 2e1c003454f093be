import Patronage.Proofs.Authority
import Patronage.Proofs.Change
import Patronage.Proofs.Deletion
import Patronage.Proofs.Payment
import Patronage.Proofs.Standing
/-!
# Which faults escape

An operation either answers, or it is refused, or the fault of a payment processor is handed on,
unless what it hands on from one collaborator to another is not as its type demands: a negative
level, the start of a billing cycle after the last date, an expiration that cannot be written.  Main
statements:

* `Request.classified_iff` — exactly sound requests are answered or fail with a classified fault;
* `System.standing_play` — what collaborators are like wherever a system comes to;
* `System.classified_iff_sound` — the first holds wherever a system comes to.

What this does not say: what happens where a level of thousands of digits is to be written into a
message; no such level is assumed to occur (see `Text.intString`).
-/

namespace Patronage

open Manager

/-- The fault says what went wrong in words of the manager, or it is a payment processor's own. -/
def Fault.Classified : Fault → Prop
  | .refused _ | .processor _ => True
  | _ => False

instance (f : Fault) : Decidable f.Classified :=
  match f with
  | .refused _ | .processor _ => .isTrue trivial
  | .notStored _ | .notConfigured _ | .request _ | .verification _ | .unwritable | .invalid _
  | .cycle _ | .time _ => .isFalse id

/-- The result is an answer or a classified fault. -/
def Classified {α : Type} (r : Except Fault α) : Prop := ∀ f, r = .error f → f.Classified

section

variable {α : Type}

@[simp] theorem classified_ok (a : α) : Classified (.ok a : Except Fault α) := nofun

@[simp] theorem classified_error {f : Fault} :
    Classified (.error f : Except Fault α) ↔ f.Classified := by
  constructor
  · intro h
    exact h f rfl
  · rintro h _ ⟨⟩
    exact h

instance (r : Except Fault α) : Decidable (Classified r) :=
  match r with
  | .ok a => .isTrue (classified_ok a)
  | .error _ => decidable_of_iff' _ classified_error

theorem not_classified_invalid (issues : List Issue) :
    ¬Classified (.error (.invalid issues) : Except Fault α) :=
  fun h => h _ rfl

theorem not_classified_time (e : Calendar.TimeError) :
    ¬Classified (.error (.time e) : Except Fault α) :=
  fun h => h _ rfl

end

/-! ### Processors -/

namespace Emulator

variable (e : Emulator)

theorem classified_fault (code detail : String) : (e.fault code detail).Classified := trivial

theorem classified_customer (id : String) : Classified (e.customer id) := by
  unfold customer
  cases e.customers.get? id <;> simp [classified_fault]

theorem classified_subscription (id : String) : Classified (e.subscription id) := by
  unfold subscription
  cases e.subscriptions.get? id <;> simp [classified_fault]

theorem classified_currencyOf (templateId : String) : Classified (e.currencyOf templateId) := by
  unfold currencyOf
  cases e.templates.get? templateId <;> simp [classified_fault]

theorem classified_activeSubscription (id : String) : Classified (e.activeSubscription id) := by
  unfold activeSubscription
  cases hs : e.subscription id with
  | error f => exact classified_error.2 (e.classified_subscription id f hs)
  | ok s =>
    show Classified (if s.status = .active then Except.ok s else .error _)
    split <;> simp [classified_fault]

theorem classified_createSubscription (m : Mint) (customerId templateId : String)
    (level last : Int) :
    Classified (e.createSubscription m customerId templateId level last).answer := by
  unfold createSubscription
  dsimp only
  split
  · rename_i hf
    exact classified_error.2 (e.classified_customer _ _ hf)
  · rename_i hf
    exact classified_error.2 (e.classified_currencyOf _ _ hf)
  · split
    · exact classified_ok _
    · split
      · exact classified_error.2 (e.classified_fault _ _)
      · exact classified_ok _

theorem classified_updateSubscription (r : LevelRequest) (key : String) :
    Classified (e.updateSubscription r key).answer := by
  unfold updateSubscription
  split
  · split
    · exact classified_ok _
    · exact classified_error.2 (e.classified_fault _ _)
  · unfold moveLevel
    split
    · rename_i hf
      exact classified_error.2 (e.classified_activeSubscription _ _ hf)
    · rename_i hf
      exact classified_error.2 (e.classified_currencyOf _ _ hf)
    · exact classified_ok _

theorem classified_cancelAll (now : Moment) (customerId : String) :
    Classified (e.cancelAll now customerId).answer := by
  unfold cancelAll
  split
  · rename_i hf
    exact classified_error.2 (e.classified_customer _ _ hf)
  · exact classified_ok _

end Emulator

/-! ### Programs -/

namespace World

variable {α β : Type} {rules : Rules} {w w' : World}

theorem perform_ask (rules : Rules) (w : World) (c : Call) :
    w.perform rules (Program.ask c) = w.answer rules c := rfl

/-- What follows an answer decides. -/
theorem perform_bind_of_ok {p : Program α} {f : α → Program β} {a : α}
    (h : w.perform rules p = (.ok a, w')) :
    w.perform rules (p >>= f) = w'.perform rules (f a) := by
  rw [perform_bind, h]

theorem perform_bind_of_error {p : Program α} {f : α → Program β} {e : Fault}
    (h : w.perform rules p = (.error e, w')) :
    w.perform rules (p >>= f) = (.error e, w') := by
  rw [perform_bind, h]

/-- What is classified and goes on to what is classified is classified. -/
theorem classified_bind {p : Program α} {f : α → Program β}
    (hp : Classified (w.perform rules p).1)
    (hf : ∀ a, (w.perform rules p).1 = .ok a →
      Classified ((w.perform rules p).2.perform rules (f a)).1) :
    Classified (w.perform rules (p >>= f)).1 := by
  cases h : w.perform rules p with
  | mk r w' =>
    rw [h] at hp hf
    cases r with
    | ok a =>
      rw [perform_bind_of_ok h]
      exact hf a rfl
    | error e =>
      rw [perform_bind_of_error h]
      exact classified_error.2 (hp e rfl)

theorem perform_andThen (p : Program α) (f : Except Fault α → Program β) :
    w.perform rules (p.andThen f) =
      (w.perform rules p).2.perform rules (f (w.perform rules p).1) :=
  congrFun (Program.run_andThen (host rules) p f) w

@[simp] theorem signer_writeAll (w : World) (es : List Log.Entry) :
    (w.writeAll es).signer = w.signer := by
  induction es generalizing w with
  | nil => rfl
  | cons e es ih => exact ih (w.write e)

variable {p : Provider} {e : Emulator}

/-- A processor in use answers for itself. -/
theorem asking_of_some (he : w.registry.find? p = some e) (act : Emulator → Except Fault α) :
    w.asking p act = (act e, w) := by
  simp [asking, Registry.get, he, bind, Except.bind]

theorem classified_withMint (he : w.registry.find? p = some e)
    {act : Emulator → Mint → Outcome (Emulator × TokenSource) α}
    (h : Classified (act e w.mint).answer) : Classified (w.withMint p act).1 := by
  rw [withMint_of_some he]
  exact h

theorem classified_withProcessor (he : w.registry.find? p = some e)
    {act : Emulator → Outcome Emulator α} (h : Classified (act e).answer) :
    Classified (w.withProcessor p act).1 := by
  rw [withProcessor_of_some he]
  exact h

end World

/-- What callers decide about is decided: none of their rules fails. -/
structure Rules.Decided (rules : Rules) : Prop where
  allows : ∀ old new, ∃ b, rules.allows old new = .ok b
  expiration : ∀ item, ∃ m, rules.expiration item = .ok m
  setUp : ∀ p customerId, ∃ t, rules.setUp p customerId = .ok t

/-- What a reachable world is like: no subscription was made after what the clock shows, and every
stored customer is one of a processor in use. -/
structure World.Standing (w : World) : Prop where
  dated : w.Dated
  housed : ∀ user r c, w.store.find? user = some r → r.customer = some c →
    (w.registry.find? c.provider).isSome

theorem World.Standing.within {w : World} (h : w.Standing) (ctx : Log.Context Log.Field) :
    World.Standing { w with context := ctx } :=
  ⟨h.dated.congr rfl rfl, h.housed⟩

/-- The only fault of an update is that there is nobody to update. -/
theorem Store.update_eq_error {α : Type} {store : Store} {user : Bytes}
    {change : Subscriber → Subscriber} {report : Subscriber → Subscriber → α × Log.Entry} {f : Fault}
    (h : (store.update user change report).answer = .error f) :
    f = .notStored (Subscriber.tag user) := by
  cases hs : store.find? user with
  | none =>
    rw [update_eq_fail hs] at h
    exact (Except.error.inj h).symm
  | some s =>
    rw [update, hs] at h
    cases h

theorem Store.classified_create (store : Store) (user password : Bytes) (now : Moment) :
    Classified (store.create user password now).answer := by
  unfold create
  split
  · split <;> exact classified_ok _
  · exact classified_ok _

namespace Manager

open World

variable {α : Type} {rules : Rules} {w : World} {c : Credentials}

/-- The log fields around an operation do not count. -/
theorem classified_operation {name : String} {p : Program α} {Q : Prop}
    (h : ∀ ctx, Classified (World.perform rules p { w with context := ctx }).1 ↔ Q) :
    Classified (w.perform rules (operation name c p)).1 ↔ Q := by
  rw [operation, perform_within]
  exact h _

/-- Changing a record is refused only where there is none, and that is classified. -/
theorem classified_change {call : Call} {user : Bytes} {change : Subscriber → Subscriber}
    {report : Subscriber → Subscriber → call.Answer × Log.Entry}
    (h : (w.answer rules call).1 = (w.store.update user change report).answer) :
    Classified (w.perform rules (persist (Program.ask call))).1 := by
  rw [persist, perform_andThen, perform_ask]
  cases hr : (w.answer rules call).1 with
  | ok a => exact classified_ok a
  | error f =>
    obtain rfl := Store.update_eq_error (h.symm.trans hr)
    exact classified_error.2 trivial

theorem classified_orRequiresAction {p : Program α} (h : Classified (w.perform rules p).1) :
    Classified (w.perform rules (orRequiresAction p)).1 := by
  rw [orRequiresAction, perform_andThen]
  cases hr : (w.perform rules p).1 with
  | ok a => exact classified_ok a
  | error f =>
    rw [hr] at h
    cases f with
    | processor e =>
      dsimp only
      split <;> exact classified_error.2 trivial
    | _ => exact h

theorem classified_updateSubscriber : Classified (w.perform rules (updateSubscriber c)).1 := by
  refine (classified_operation (Q := True) fun ctx => iff_true_intro ?_).2 trivial
  refine classified_bind (classified_ok _) fun l hl => ?_
  cases l with
  | wrongPassword => exact classified_error.2 trivial
  | notStored =>
    refine classified_bind ?_ fun created _ => ?_
    · rw [perform_ask]
      exact w.store.classified_create c.user c.hmac c.now
    · split
      · exact classified_error.2 trivial
      · exact classified_ok _
  | found r => exact classified_change rfl

/-- The subscriber is read, or the request is refused. -/
theorem perform_getSubscriber_cases (rules : Rules) (w : World) (c : Credentials) :
    (∃ r ctx, w.store.lookup c.user c.hmac = .found r ∧
      w.perform rules (getSubscriber c) = (.ok r, { w with context := ctx })) ∨
    ((∀ r, w.store.lookup c.user c.hmac ≠ .found r) ∧ ∃ e ctx,
      w.perform rules (getSubscriber c) = (.error e, { w with context := ctx }) ∧
        e.Classified) := by
  unfold getSubscriber operation
  generalize (Assoc.ofList _ : Log.Fields Log.Field) = fields
  have hlookUp : World.perform rules (Program.ask (.lookUp c.user c.hmac))
      { w with context := w.context.bind fields } =
    (.ok (w.store.lookup c.user c.hmac), { w with context := w.context.bind fields }) := rfl
  rw [perform_within, perform_bind_of_ok hlookUp]
  cases w.store.lookup c.user c.hmac with
  | found r =>
    exact .inl ⟨r, (w.context.bind fields).restore (w.context.save fields), rfl, rfl⟩
  | notStored =>
    refine .inr ⟨?_, Fault.plain .notFound, (w.context.bind fields).restore (w.context.save fields),
      rfl, trivial⟩
    intro r hr
    cases hr
  | wrongPassword =>
    refine .inr ⟨?_, Fault.refusal .forbidden "subscriberId mismatch",
      (w.context.bind fields).restore (w.context.save fields), rfl, trivial⟩
    intro r hr
    cases hr

/-- What starts with reading the subscriber is decided by what follows for the one that is found. -/
theorem classified_read {f : Subscriber → Program α} {Q : Subscriber → Prop}
    (h : ∀ r ctx, w.store.lookup c.user c.hmac = .found r →
      (Classified (World.perform rules (f r) { w with context := ctx }).1 ↔ Q r)) :
    Classified (w.perform rules (getSubscriber c >>= f)).1 ↔
      ∀ r, w.store.lookup c.user c.hmac = .found r → Q r := by
  obtain ⟨r, ctx, hr, hread⟩ | ⟨hnone, e, ctx, hread, he⟩ := perform_getSubscriber_cases rules w c
  · rw [perform_bind_of_ok hread, h r ctx hr]
    constructor
    · intro hQ r' hr'
      obtain rfl := Lookup.found.inj (hr.symm.trans hr')
      exact hQ
    · intro hQ
      exact hQ r hr
  · rw [perform_bind_of_error hread]
    exact iff_of_true (classified_error.2 he) fun r hr => absurd hr (hnone r)

theorem classified_getSubscriber : Classified (w.perform rules (getSubscriber c)).1 := by
  obtain ⟨r, ctx, -, hread⟩ | ⟨-, e, ctx, hread, he⟩ := perform_getSubscriber_cases rules w c
  · rw [hread]
    exact classified_ok r
  · rw [hread]
    exact classified_error.2 he

/-- Canceling at a processor in use is never refused otherwise than by the processor. -/
theorem classified_cancelRemote {customer : Customer}
    (h : (w.registry.find? customer.provider).isSome) :
    Classified (w.perform rules (cancelRemote customer)).1 := by
  obtain ⟨e, he⟩ := Option.isSome_iff_exists.1 h
  rw [cancelRemote_eq]
  have hfound : w.perform rules (Program.ask (.processorOf customer.provider)) = (.ok (), w) :=
    asking_of_some he _
  rw [perform_bind_of_ok hfound, perform_andThen, perform_ask]
  have hcancel : Classified (w.answer rules (.cancelAll customer.provider customer.id)).1 :=
    classified_withProcessor he (e.classified_cancelAll w.clock customer.id)
  cases hr : (w.answer rules (.cancelAll customer.provider customer.id)).1 with
  | ok u => exact classified_ok _
  | error f =>
    rw [hr] at hcancel
    unfold forgive
    cases f with
    | processor e =>
      dsimp only
      split
      · exact classified_ok _
      · exact classified_error.2 trivial
    | _ => exact hcancel

theorem classified_deleteSubscriber (hw : w.Standing) :
    Classified (w.perform rules (deleteSubscriber c)).1 := by
  rw [deleteSubscriber_eq]
  refine (classified_operation (Q := True) fun ctx => iff_true_intro ?_).2 trivial
  refine classified_bind (classified_ok _) fun l hl => ?_
  have hcanceled : ∀ w' : World,
      Classified (w'.perform rules (persist (Program.ask (.canceledAt c.user c.now)))).1 :=
    fun w' => classified_change rfl
  cases l with
  | wrongPassword | notStored => exact classified_error.2 trivial
  | found r =>
    have hr : w.store.lookup c.user c.hmac = .found r := Except.ok.inj hl
    dsimp only
    unfold forget
    split
    · rename_i customer hc
      refine classified_bind (classified_cancelRemote ?_) fun _ _ => hcanceled _
      exact hw.housed c.user r customer (Store.find?_of_lookup hr) hc
    · exact hcanceled _

theorem classified_attach {p : Provider} (hp : (w.registry.find? p).isSome) (platform : Platform)
    (r : Subscriber) : Classified (w.perform rules (attach c p platform r)).1 := by
  obtain ⟨e, he⟩ := Option.isSome_iff_exists.1 hp
  unfold attach
  split
  · split
    · exact classified_ok r
    · exact classified_error.2 trivial
  · have hcreate : Classified (w.withMint p fun e m => e.createCustomer m c.user platform).1 :=
      classified_withMint he (classified_ok _)
    refine classified_bind hcreate fun customer _ => ?_
    exact classified_change rfl

theorem classified_addPaymentMethod (hrules : rules.Decided) {p : Provider}
    (hp : (w.registry.find? p).isSome) (platform : Platform) :
    Classified (w.perform rules (addPaymentMethod c p platform)).1 := by
  refine (classified_operation (Q := True) fun ctx => iff_true_intro ?_).2 trivial
  refine (classified_read (Q := fun _ => True) fun r ctx' _ => iff_true_intro ?_).2 fun _ _ => trivial
  refine classified_bind (classified_attach ?_ platform r) fun s _ => ?_
  · exact hp
  split
  · rename_i customer _
    split
    · obtain ⟨t, ht⟩ := hrules.setUp p customer.id
      show Classified (rules.setUp p customer.id)
      rw [ht]
      exact classified_ok t
    · exact classified_error.2 trivial
  · exact classified_error.2 trivial

/-- A level that is not negative is what a subscription can be at. -/
theorem tier_of_nonneg {level : Int} (h : 0 ≤ level) (currency : String) :
    Tier.of level currency = .ok ⟨level, Text.lowerString currency, h⟩ := by
  simp [Tier.of, h]

/-- The fault of a negative level is not classified. -/
theorem not_classified_tier {level : Int} (h : ¬0 ≤ level) (currency : String) :
    ∃ issues, (Tier.of level currency).mapError Fault.invalid = .error (.invalid issues) := by
  simp only [Tier.of, h, dite_false]
  exact ⟨_, rfl⟩

/-- What follows once the level that a subscription is at and the one that is asked for were read. -/
def move (c : Credentials) (p : Provider) (choice : LevelChoice) (id : String) (s : Subscription)
    (current wanted : Tier) : Program Unit :=
  if current = wanted then
    .write (.debug "subscription_level_unchanged"
      [("subscription_id", .text id), ("level", .number choice.level)])
  else Program.ask (.allows current.level choice.level) >>= fun allowed =>
    if allowed = true then
      Program.ask (.updateSubscription p s choice.templateId choice.level choice.key) >>= fun updated =>
        persist (Program.ask (.levelChanged c.user c.now choice.level updated))
    else
      throw (.refusal .invalidLevel
        ("Cannot change level from " ++ Text.intString current.level ++ " to " ++
          Text.intString choice.level))

theorem changeLevel_eq (c : Credentials) (p : Provider) (choice : LevelChoice) (id : String) :
    changeLevel c p choice id =
      Program.ask (.subscription p id) >>= fun s => Program.ask (.tier p s) >>= fun current =>
        Program.ofExcept ((Tier.of choice.level choice.currency).mapError .invalid) >>=
          move c p choice id s current := rfl

theorem classified_move (hrules : rules.Decided) {p : Provider} (hp : (w.registry.find? p).isSome)
    (choice : LevelChoice) (id : String) (s : Subscription) (current wanted : Tier) :
    Classified (w.perform rules (move c p choice id s current wanted)).1 := by
  obtain ⟨e, he⟩ := Option.isSome_iff_exists.1 hp
  unfold move
  split
  · exact classified_ok _
  obtain ⟨allowed, hallowed⟩ := hrules.allows current.level choice.level
  have hallows : w.perform rules (Program.ask (.allows current.level choice.level)) =
      (.ok allowed, w) := by
    rw [← hallowed]
    rfl
  rw [perform_bind_of_ok hallows]
  split
  · have hupdate : Classified (w.withProcessor p fun e =>
        e.updateSubscription ⟨s.id, choice.templateId, choice.level⟩ choice.key).1 :=
      classified_withProcessor he (e.classified_updateSubscription _ _)
    refine classified_bind hupdate fun updated _ => ?_
    exact classified_change rfl
  · exact classified_error.2 trivial

/-- Moving a subscription is classified exactly if neither the level that it is at, if there is such a
subscription, nor the one that is asked for is negative. -/
theorem classified_changeLevel (hrules : rules.Decided) {p : Provider}
    (hp : (w.registry.find? p).isSome) (choice : LevelChoice) (id : String) :
    Classified (w.perform rules (changeLevel c p choice id)).1 ↔
      ∀ sub, w.registry.subscription? p id = some sub → 0 ≤ sub.level ∧ 0 ≤ choice.level := by
  obtain ⟨e, he⟩ := Option.isSome_iff_exists.1 hp
  rw [Registry.subscription?_of_find? he]
  have hread : w.perform rules (Program.ask (.subscription p id)) = (e.subscription id, w) :=
    asking_of_some he _
  rw [changeLevel_eq]
  cases hsub : e.subscriptions.get? id with
  | none =>
    have hmissing : w.perform rules (Program.ask (.subscription p id)) =
        (.error (e.fault ProcessorError.resourceMissing ("No such subscription: " ++ id)), w) := by
      rw [hread, Emulator.subscription, hsub]
      rfl
    rw [perform_bind_of_error hmissing]
    refine iff_of_true (classified_error.2 trivial) fun sub hsub => ?_
    cases hsub
  | some sub =>
    rw [Emulator.subscription_eq_ok.2 hsub] at hread
    rw [perform_bind_of_ok hread]
    have htier : w.perform rules (Program.ask (.tier p sub)) = (Emulator.tier sub, w) :=
      asking_of_some he _
    -- the level that the subscription is at is looked at before the one that is asked for
    by_cases hold : 0 ≤ sub.level
    · rw [Emulator.tier, tier_of_nonneg hold] at htier
      rw [perform_bind_of_ok htier]
      by_cases hnew : 0 ≤ choice.level
      · have hwanted : w.perform rules
            (Program.ofExcept ((Tier.of choice.level choice.currency).mapError .invalid)) =
              (.ok ⟨choice.level, Text.lowerString choice.currency, hnew⟩, w) := by
          rw [tier_of_nonneg hnew]
          rfl
        rw [perform_bind_of_ok hwanted]
        refine iff_of_true (classified_move hrules hp choice id sub ⟨_, _, hold⟩ ⟨_, _, hnew⟩) ?_
        intro sub' hsub'
        obtain rfl := Option.some.inj hsub'
        exact ⟨hold, hnew⟩
      · obtain ⟨issues, hissues⟩ := not_classified_tier hnew choice.currency
        have hwanted : w.perform rules
            (Program.ofExcept ((Tier.of choice.level choice.currency).mapError .invalid)) =
              (.error (.invalid issues), w) := by
          rw [hissues]
          rfl
        rw [perform_bind_of_error hwanted]
        exact iff_of_false (not_classified_invalid issues) fun h => hnew (h sub rfl).2
    · obtain ⟨issues, hissues⟩ := not_classified_tier hold sub.currency
      rw [Emulator.tier, hissues] at htier
      rw [perform_bind_of_error htier]
      exact iff_of_false (not_classified_invalid issues) fun h => hold (h sub rfl).1

theorem classified_opening {p : Provider} (hp : (w.registry.find? p).isSome) (customerId : String)
    (choice : LevelChoice) (last : Int) :
    Classified (w.perform rules (orRequiresAction (Program.ask (.createSubscription p customerId
      choice.templateId choice.level last)) >>= fun id =>
        persist (Program.ask (.subscriptionCreated c.user id c.now choice.level)))).1 := by
  obtain ⟨e, he⟩ := Option.isSome_iff_exists.1 hp
  have hcreate : Classified (w.withMint p fun e m =>
      e.createSubscription m customerId choice.templateId choice.level last).1 :=
    classified_withMint he (e.classified_createSubscription _ _ _ _ _)
  refine classified_bind (classified_orRequiresAction hcreate) fun id _ => ?_
  exact classified_change rfl

/-- Making a subscription is classified exactly if the creation that was noted last, where it is
looked at, can be written in seconds. -/
theorem classified_subscribe {p : Provider} (hp : (w.registry.find? p).isSome)
    (choice : LevelChoice) (s : Subscriber) :
    Classified (w.perform rules (subscribe c p choice s)).1 ↔
      ∀ customer, s.customer = some customer → customer.provider = p →
        ∃ last, s.lastCreated = .ok last := by
  unfold subscribe Subscriber.lastCreated
  cases hc : s.customer with
  | none => exact iff_of_true (classified_error.2 trivial) fun customer h => by cases h
  | some customer =>
    dsimp only
    split
    · rename_i hprovider
      have hall : ∀ {Q : Prop}, (∀ customer', some customer = some customer' →
          customer'.provider = p → Q) ↔ Q := by
        intro Q
        constructor
        · intro h
          exact h customer rfl hprovider
        · intro h _ _ _
          exact h
      rw [hall]
      cases s.subscriptionCreatedAt with
      | none => exact iff_of_true (classified_opening hp customer.id choice 0) ⟨0, rfl⟩
      | some created =>
        show Classified (w.perform rules (Program.ofExcept (created.epochSeconds.mapError .time) >>=
          fun last => _)).1 ↔ ∃ last, created.epochSeconds = .ok last
        cases created.epochSeconds with
        | ok last => exact iff_of_true (classified_opening hp customer.id choice last) ⟨last, rfl⟩
        | error t => exact iff_of_false (not_classified_time t) nofun
    · rename_i hprovider
      refine iff_of_true (classified_error.2 trivial) fun customer' h hp' => ?_
      obtain rfl := Option.some.inj h
      exact absurd hp' hprovider

/-- What follows once a payment was noted: a credential is issued for it, and this is logged. -/
def certify (c : Credentials) (customer : Customer) (request : CredentialRequest)
    (item : ReceiptItem) (recorded : Bool) (expires : Moment) : Program Receipt := do
  let seconds ← .ofExcept (expires.epochSeconds.mapError .time)
  let credential ← sign request seconds item.level
  let event ← .ofExcept <|
    (Log.Audit.receiptIssued c.user item.id customer.provider.name item.level seconds
      (!recorded)).mapError .time
  .write event
  return ⟨credential, item, customer.provider⟩

/-- What follows once a payment was reported: it is noted, and a credential is issued for it. -/
def redeem (c : Credentials) (customer : Customer) (request : CredentialRequest)
    (item : ReceiptItem) : Program Receipt := do
  let print ← .ofExcept (fingerprint request)
  let noted ← .ask (.record ⟨item.id, customer.provider, print, c.now⟩)
  if noted.1 = false ∧ noted.2.fingerprint ≠ print then
    throw (.refusal .receiptAlreadyRedeemed ("receipt item " ++ item.id ++ " already redeemed"))
  let expires ← .ask (.expiration item)
  certify c customer request item noted.1 expires

/-- What follows once the subscriber and the request were read: the payment is asked for. -/
def bill (c : Credentials) (id : String) (customer : Customer) (request : CredentialRequest) :
    Program Receipt :=
  Program.ask (.processorOf customer.provider) >>= fun _ =>
    Program.ask (.receiptItem customer.provider id) >>= fun item => redeem c customer request item

/-- What follows once the subscriber was read. -/
def receive (c : Credentials) (bytes : Bytes) (r : Subscriber) : Program Receipt :=
  match r.subscriptionId with
  | none => missing
  | some id => readRequest bytes >>= fun request =>
    match r.customer with
    | none => missing
    | some customer => bill c id customer request

theorem createReceipt_eq (c : Credentials) (bytes : Bytes) :
    createReceipt c bytes =
      operation "create_receipt_credentials" c (getSubscriber c >>= receive c bytes) := by
  unfold createReceipt receive bill redeem certify
  rfl

end Manager

/-- A payment was noted for another credential request. -/
def Ledger.Spent (ledger : Ledger) (itemId : String) (p : Provider) (print : Bytes) : Prop :=
  ∃ entry, ledger.find? itemId p = some entry ∧ entry.fingerprint ≠ print

/-- The time can be written in seconds, and if a credential is issued that expires then, it can be
read back from them. -/
def Signer.Writes (signer : Signer) (request : CredentialRequest) (level : Int) (expires : Moment) :
    Prop :=
  ∃ seconds, expires.epochSeconds = .ok seconds ∧
    ((Credential.issue signer request seconds level).isOk →
      (Moment.ofEpochSeconds seconds).isOk)

namespace Manager

open World

variable {α : Type} {rules : Rules} {w : World} {c : Credentials}

/-- A request that verifies is signed, and any other one is refused. -/
theorem perform_sign (rules : Rules) (w : World) (request : CredentialRequest) (seconds level : Int) :
    (∃ credential, Credential.issue w.signer request seconds level = .ok credential ∧
      w.perform rules (sign request seconds level) = (.ok credential, w)) ∨
    ((∃ v, Credential.issue w.signer request seconds level = .error v) ∧
      ∃ f, w.perform rules (sign request seconds level) = (.error f, w) ∧ f.Classified) := by
  have hissue : w.perform rules (Program.ask (.issue request seconds level)) =
    ((Credential.issue w.signer request seconds level).mapError .verification, w) := rfl
  rw [sign, perform_andThen, hissue]
  cases Credential.issue w.signer request seconds level with
  | ok credential => exact .inl ⟨credential, rfl, rfl⟩
  | error v => exact .inr ⟨⟨v, rfl⟩, _, rfl, trivial⟩

/-- Noting a payment answers whether it was new and with which request it was noted. -/
theorem answer_record (rules : Rules) (w : World) (entry : Issuance) :
    ∃ noted w', w.perform rules (Program.ask (.record entry)) = (.ok noted, w') ∧
      w'.signer = w.signer ∧ w'.ledger = (w.ledger.record entry).state ∧
      ((noted.1 = false ∧ noted.2.fingerprint ≠ entry.fingerprint) ↔
        w.ledger.Spent entry.itemId entry.provider entry.fingerprint) := by
  have hrecord : w.perform rules (Program.ask (.record entry)) =
    w.withLedger (w.ledger.record entry) := rfl
  rw [hrecord]
  unfold Ledger.record Ledger.Spent withLedger
  -- a payment that was not noted yet is noted with this request, so it cannot be another's
  cases w.ledger.find? entry.itemId entry.provider with
  | none => exact ⟨_, _, rfl, signer_writeAll _ _, ledger_writeAll _ _, by simp⟩
  | some e => exact ⟨_, _, rfl, signer_writeAll _ _, ledger_writeAll _ _, by simp⟩

/-- Issuing a credential is classified exactly if its expiration can be written. -/
theorem classified_certify (customer : Customer) (request : CredentialRequest) (item : ReceiptItem)
    (recorded : Bool) (expires : Moment) :
    Classified (w.perform rules (certify c customer request item recorded expires)).1 ↔
      w.signer.Writes request item.level expires := by
  unfold certify Signer.Writes
  cases expires.epochSeconds with
  | error t =>
    have hseconds : w.perform rules (Program.ofExcept ((Except.error t).mapError .time)) =
      ((.error (.time t) : Except Fault Int), w) := rfl
    rw [perform_bind_of_error hseconds]
    exact iff_of_false (not_classified_time t) nofun
  | ok seconds =>
    have hseconds : w.perform rules (Program.ofExcept ((Except.ok seconds).mapError .time)) =
      (.ok seconds, w) := rfl
    have hwrites : (∃ n, (Except.ok seconds : Except Calendar.TimeError Int) = .ok n ∧
        ((Credential.issue w.signer request n item.level).isOk →
          (Moment.ofEpochSeconds n).isOk)) ↔
        ((Credential.issue w.signer request seconds item.level).isOk →
          (Moment.ofEpochSeconds seconds).isOk) := by
      simp
    rw [perform_bind_of_ok hseconds, hwrites]
    -- the expiration is read back from its seconds for the log, which is after signing
    obtain ⟨credential, hissue, hsign⟩ | ⟨⟨v, hissue⟩, f, hsign, hf⟩ :=
      perform_sign rules w request seconds item.level
    · rw [perform_bind_of_ok hsign, hissue]
      unfold Log.Audit.receiptIssued
      cases Moment.ofEpochSeconds seconds with
      | ok m => exact iff_of_true (classified_ok _) fun _ => rfl
      | error t => exact iff_of_false (not_classified_time t) fun h => nomatch h rfl
    · rw [perform_bind_of_error hsign, hissue]
      exact iff_of_true (classified_error.2 hf) fun h => nomatch h

/-- Issuing a credential for a payment that was reported is classified exactly if the payment was
noted for another request or its expiration can be written. -/
theorem classified_redeem (hrules : rules.Decided) {bytes : Bytes} {request : CredentialRequest}
    (hrequest : CredentialRequest.decode bytes = .ok request) (customer : Customer)
    (item : ReceiptItem) :
    Classified (w.perform rules (redeem c customer request item)).1 ↔
      (¬w.ledger.Spent item.id customer.provider (Digest.sha256 bytes) →
        ∀ expires, rules.expiration item = .ok expires →
          w.signer.Writes request item.level expires) := by
  have hprint : w.perform rules (Program.ofExcept (fingerprint request)) =
      (.ok (Digest.sha256 bytes), w) := by
    rw [fingerprint, CredentialRequest.fingerprint?,
      CredentialRequest.serialize?_of_decode hrequest]
    rfl
  obtain ⟨noted, w', hrecord, hsigner, -, hspent⟩ := answer_record rules w
    ⟨item.id, customer.provider, Digest.sha256 bytes, c.now⟩
  unfold redeem
  rw [perform_bind_of_ok hprint, perform_bind_of_ok hrecord]
  split
  · rename_i hother
    exact iff_of_true (classified_error.2 trivial) fun hnot => absurd (hspent.1 hother) hnot
  rename_i hsame
  obtain ⟨expires, hexpires⟩ := hrules.expiration item
  have hexpiration : w'.perform rules (Program.ask (.expiration item)) = (.ok expires, w') := by
    rw [← hexpires]
    rfl
  rw [perform_bind_of_ok hexpiration, classified_certify, hsigner]
  constructor
  · intro h _ expires' hexpires'
    obtain rfl := Except.ok.inj (hexpires.symm.trans hexpires')
    exact h
  · intro h
    have hnot : ¬w.ledger.Spent item.id customer.provider (Digest.sha256 bytes) :=
      fun hother => hsame (hspent.2 hother)
    exact h hnot expires hexpires

end Manager

/-- A request for a receipt comes to a billing cycle of a running subscription. -/
structure World.Bills (w : World) (c : Credentials) (bytes : Bytes) (request : CredentialRequest)
    (customer : Customer) (e : Emulator) (sub : Subscription) (cycle : Nat) : Prop where
  found : ∃ r id, w.store.lookup c.user c.hmac = .found r ∧ r.customer = some customer ∧
    r.subscriptionId = some id ∧ e.activeSubscription id = .ok sub
  decoded : CredentialRequest.decode bytes = .ok request
  processor : w.registry.find? customer.provider = some e
  cycle : e.billingPeriod.period.cyclesElapsed sub.createdAt w.clock = .ok cycle

/-- The payment for a billing cycle can be reported: its level is not negative and the cycle starts at
a date.  And the expiration of the credential, if one is to be issued, can be written. -/
def World.Pays (rules : Rules) (w : World) (bytes : Bytes) (request : CredentialRequest)
    (customer : Customer) (e : Emulator) (sub : Subscription) (cycle : Nat) : Prop :=
  ∃ (level_nonneg : 0 ≤ sub.level) (paidAt : Moment),
    Emulator.cycleStart sub e.billingPeriod.period cycle = .ok paidAt ∧
    (¬w.ledger.Spent (e.billCycle w.mint sub cycle).1 customer.provider (Digest.sha256 bytes) →
      ∀ expires, rules.expiration ⟨(e.billCycle w.mint sub cycle).1, paidAt, sub.level,
        level_nonneg⟩ = .ok expires → w.signer.Writes request sub.level expires)

/-- The payment that a request for a receipt comes to, if it comes to one, can be reported and
written. -/
def World.Accounts (rules : Rules) (w : World) (c : Credentials) (bytes : Bytes) : Prop :=
  ∀ request customer e sub cycle, w.Bills c bytes request customer e sub cycle →
    w.Pays rules bytes request customer e sub cycle

/-- The log fields do not count. -/
theorem World.accounts_within {rules : Rules} {w : World} {c : Credentials} {bytes : Bytes}
    (ctx : Log.Context Log.Field) :
    World.Accounts rules { w with context := ctx } c bytes ↔ w.Accounts rules c bytes := by
  constructor
  · intro h request customer e sub cycle hbills
    exact h request customer e sub cycle
      ⟨hbills.found, hbills.decoded, hbills.processor, hbills.cycle⟩
  · intro h request customer e sub cycle hbills
    exact h request customer e sub cycle
      ⟨hbills.found, hbills.decoded, hbills.processor, hbills.cycle⟩

/-- Where no subscription was made after the present moment, the count of billing cycles has an
answer. -/
theorem Period.cyclesElapsed_of_notAfter (p : Period) {start now : Moment}
    (h : start.NotAfter now) (hnow : now.offset.isSome) :
    ∃ cycle, p.cyclesElapsed start now = .ok cycle := by
  obtain ⟨hstart, hle⟩ := h
  obtain ⟨o, ho⟩ := Option.isSome_iff_exists.1 hstart
  obtain ⟨o', ho'⟩ := Option.isSome_iff_exists.1 hnow
  have hsince : now.since start = .ok (now.utcMicros - start.utcMicros) := by
    simp [Moment.since, ho, ho']
  have hnonneg : ¬now.utcMicros - start.utcMicros < 0 := by omega
  simp [cyclesElapsed_eq, hsince, hnonneg]

/-- What a processor reports of the latest payment. -/
theorem Emulator.receiptItem_answer {e : Emulator} {m : Mint} {id : String} {sub : Subscription}
    {cycle : Nat} (hactive : e.activeSubscription id = .ok sub)
    (hcycle : e.billingPeriod.period.cyclesElapsed sub.createdAt m.now = .ok cycle) :
    (e.receiptItem m id).answer =
      report sub e.billingPeriod.period cycle (e.billCycle m sub cycle).1 := by
  simp only [receiptItem, hactive, hcycle]

/-- A payment is reported if the billing cycle starts at a date and the level is not negative. -/
theorem Emulator.report_eq_ok_iff {s : Subscription} {period : Period} {cycle : Nat} {id : String}
    {item : ReceiptItem} :
    report s period cycle id = .ok item ↔ ∃ (level_nonneg : 0 ≤ s.level) (paidAt : Moment),
      cycleStart s period cycle = .ok paidAt ∧ item = ⟨id, paidAt, s.level, level_nonneg⟩ := by
  constructor
  · intro h
    obtain ⟨hstart, rfl, hlevel⟩ := report_eq_ok h
    refine ⟨hlevel ▸ item.level_nonneg, item.paidAt, hstart, ?_⟩
    cases item
    congr
  · rintro ⟨hlevel, paidAt, hstart, rfl⟩
    have hof : ReceiptItem.of id paidAt s.level = .ok ⟨id, paidAt, s.level, hlevel⟩ := dif_pos hlevel
    unfold report
    rw [hstart]
    change (ReceiptItem.of id paidAt s.level).mapError Fault.invalid = _
    rw [hof]
    rfl

/-- What keeps a payment from being reported is not classified. -/
theorem Emulator.not_classified_report {s : Subscription} {period : Period} {cycle : Nat}
    {item : String} {f : Fault} (h : report s period cycle item = .error f) : ¬f.Classified := by
  unfold report at h
  cases hc : cycleStart s period cycle with
  | error t =>
    rw [hc] at h
    obtain rfl := Except.error.inj h
    exact id
  | ok paidAt =>
    rw [hc] at h
    have hof : (ReceiptItem.of item paidAt s.level).mapError .invalid = .error f := h
    unfold ReceiptItem.of at hof
    split at hof
    · cases hof
    · obtain rfl := Except.error.inj hof
      exact id

namespace World

variable {rules : Rules} {w : World} {bytes : Bytes} {request : CredentialRequest}
  {customer : Customer} {e : Emulator} {sub : Subscription} {cycle : Nat}

/-- Of a payment that is reported only what is written counts. -/
theorem pays_iff_of_report {item : ReceiptItem} (h : Emulator.report sub e.billingPeriod.period cycle
      (e.billCycle w.mint sub cycle).1 = .ok item) :
    w.Pays rules bytes request customer e sub cycle ↔
      (¬w.ledger.Spent item.id customer.provider (Digest.sha256 bytes) →
        ∀ expires, rules.expiration item = .ok expires →
          w.signer.Writes request item.level expires) := by
  obtain ⟨hlevel, paidAt, hstart, rfl⟩ := Emulator.report_eq_ok_iff.1 h
  constructor
  · rintro ⟨hlevel', paidAt', hstart', hwrites⟩
    obtain rfl := Except.ok.inj (hstart.symm.trans hstart')
    exact hwrites
  · intro hwrites
    exact ⟨hlevel, paidAt, hstart, hwrites⟩

theorem not_pays_of_report {f : Fault} (h : Emulator.report sub e.billingPeriod.period cycle
      (e.billCycle w.mint sub cycle).1 = .error f) :
    ¬w.Pays rules bytes request customer e sub cycle := by
  rintro ⟨hlevel, paidAt, hstart, -⟩
  have hok := h.symm.trans (Emulator.report_eq_ok_iff.2 ⟨hlevel, paidAt, hstart, rfl⟩)
  cases hok

end World

namespace Manager

open World

variable {α : Type} {rules : Rules} {w : World} {c : Credentials}

theorem classified_bill (hrules : rules.Decided) (hw : w.Dated) {bytes : Bytes}
    {request : CredentialRequest} (hrequest : CredentialRequest.decode bytes = .ok request)
    {customer : Customer} {e : Emulator} (he : w.registry.find? customer.provider = some e)
    (id : String) :
    Classified (w.perform rules (bill c id customer request)).1 ↔
      ∀ sub cycle, e.activeSubscription id = .ok sub →
        e.billingPeriod.period.cyclesElapsed sub.createdAt w.clock = .ok cycle →
        w.Pays rules bytes request customer e sub cycle := by
  have hfound : w.perform rules (Program.ask (.processorOf customer.provider)) = (.ok (), w) :=
    asking_of_some he _
  have hitem : w.perform rules (Program.ask (.receiptItem customer.provider id)) = _ :=
    withMint_of_some he fun e m => e.receiptItem m id
  unfold bill
  rw [perform_bind_of_ok hfound]
  cases hactive : e.activeSubscription id with
  | error f =>
    have hanswer : (e.receiptItem w.mint id).answer = .error f := by
      rw [Emulator.receiptItem, hactive]
      rfl
    rw [hanswer] at hitem
    rw [perform_bind_of_error hitem]
    refine iff_of_true (classified_error.2 (e.classified_activeSubscription id f hactive)) ?_
    intro sub cycle hsub
    cases hsub
  | ok sub =>
    have hnotAfter : sub.createdAt.NotAfter w.clock :=
      hw.subscriptions _ e he id sub (Emulator.activeSubscription_eq_ok.1 hactive).1
    obtain ⟨cycle, hcycle⟩ :=
      e.billingPeriod.period.cyclesElapsed_of_notAfter hnotAfter hw.clock
    rw [Emulator.receiptItem_answer hactive hcycle] at hitem
    cases hreport : Emulator.report sub e.billingPeriod.period cycle
      (e.billCycle w.mint sub cycle).1 with
    | error f =>
      rw [hreport] at hitem
      rw [perform_bind_of_error hitem]
      refine iff_of_false (fun h => ?_) fun h => ?_
      · exact Emulator.not_classified_report hreport (classified_error.1 h)
      · exact not_pays_of_report hreport (h sub cycle rfl hcycle)
    | ok item =>
      rw [hreport] at hitem
      rw [perform_bind_of_ok hitem, classified_redeem hrules hrequest customer item,
        ledger_writeAll, signer_writeAll]
      rw [← pays_iff_of_report hreport]
      constructor
      · intro h sub' cycle' hsub' hcycle'
        obtain rfl := Except.ok.inj hsub'
        obtain rfl := Except.ok.inj (hcycle.symm.trans hcycle')
        exact h
      · intro h
        exact h sub cycle rfl hcycle

/-- What follows for a subscriber that was read is classified exactly if the payment that it comes to
can be reported and written. -/
theorem classified_receive (hrules : rules.Decided) (hw : w.Standing) {bytes : Bytes}
    {r : Subscriber} (hr : w.store.lookup c.user c.hmac = .found r) :
    Classified (w.perform rules (receive c bytes r)).1 ↔ w.Accounts rules c bytes := by
  -- the record that was read is the one that a request for a receipt comes to
  have same : ∀ {request customer e sub cycle}, w.Bills c bytes request customer e sub cycle →
      r.customer = some customer ∧ ∃ id, r.subscriptionId = some id ∧
        e.activeSubscription id = .ok sub := by
    rintro request customer e sub cycle ⟨⟨r', id, hr', hcustomer, hid, hactive⟩, -, -, -⟩
    obtain rfl := Lookup.found.inj (hr.symm.trans hr')
    exact ⟨hcustomer, id, hid, hactive⟩
  unfold receive
  -- wherever the request ends early it is refused, and then there is no payment that it comes to
  split
  · rename_i hnone
    refine iff_of_true (classified_error.2 trivial) fun request customer e sub cycle hbills => ?_
    obtain ⟨-, id, hid, -⟩ := same hbills
    rw [hnone] at hid
    cases hid
  rename_i id hid
  have hread : w.perform rules (readRequest bytes) = _ :=
    perform_andThen (Program.ask (.decode bytes)) _
  have hdecode : w.perform rules (Program.ask (.decode bytes)) =
    ((CredentialRequest.decode bytes).mapError .request, w) := rfl
  rw [hdecode] at hread
  cases hrequest : CredentialRequest.decode bytes with
  | error f =>
    rw [hrequest] at hread
    rw [perform_bind_of_error hread]
    refine iff_of_true (classified_error.2 trivial) fun request customer e sub cycle hbills => ?_
    cases hrequest.symm.trans hbills.decoded
  | ok request =>
    rw [hrequest] at hread
    rw [perform_bind_of_ok hread]
    split
    · rename_i hnone
      refine iff_of_true (classified_error.2 trivial) fun _ customer e sub cycle hbills => ?_
      cases hnone.symm.trans (same hbills).1
    · rename_i customer hcustomer
      obtain ⟨e, he⟩ := Option.isSome_iff_exists.1
        (hw.housed c.user r customer (Store.find?_of_lookup hr) hcustomer)
      rw [classified_bill hrules hw.dated hrequest he]
      constructor
      · intro h request' customer' e' sub cycle hbills
        obtain ⟨hcustomer', id', hid', hactive⟩ := same hbills
        obtain rfl := Option.some.inj (hcustomer.symm.trans hcustomer')
        obtain rfl := Option.some.inj (hid.symm.trans hid')
        obtain rfl := Option.some.inj (he.symm.trans hbills.processor)
        obtain rfl := Except.ok.inj (hrequest.symm.trans hbills.decoded)
        exact h sub cycle hactive hbills.cycle
      · intro h sub cycle hactive hcycle
        exact h request customer e sub cycle
          ⟨⟨r, id, hr, hcustomer, hid, hactive⟩, hrequest, he, hcycle⟩

/-- A request for a receipt is classified exactly if the payment that it comes to can be reported and
written. -/
theorem classified_createReceipt (hrules : rules.Decided) (hw : w.Standing) (bytes : Bytes) :
    Classified (w.perform rules (createReceipt c bytes)).1 ↔ w.Accounts rules c bytes := by
  rw [createReceipt_eq]
  refine classified_operation fun ctx => ?_
  have hread := classified_read (Q := fun _ => w.Accounts rules c bytes)
    (w := { w with context := ctx }) fun r ctx' hr =>
      (classified_receive hrules (hw.within ctx') hr).trans (World.accounts_within ctx')
  refine hread.trans ?_
  constructor
  · intro h request customer e sub cycle hbills
    obtain ⟨r, id, hr, -⟩ := hbills.found
    exact h r hr request customer e sub cycle hbills
  · intro h r _
    exact h

end Manager

/-! ### Requests -/

/-- What a change of level for a subscriber as it was read comes to can be said.  Where there is a
subscription to move, neither its level nor the one that is asked for is negative; where one is to be
made, the creation that was noted last can be written in seconds. -/
def World.Movable (w : World) (s : Subscriber) (p : Provider) (choice : LevelChoice) : Prop :=
  match s.subscriptionId with
  | some id => ∀ sub, w.registry.subscription? p id = some sub → 0 ≤ sub.level ∧ 0 ≤ choice.level
  | none => ∀ customer, s.customer = some customer → customer.provider = p →
      ∃ last, s.lastCreated = .ok last

theorem Manager.classified_updateLevel {rules : Rules} {w : World} (hrules : rules.Decided)
    {p : Provider} (hp : (w.registry.find? p).isSome) (c : Credentials) (s : Subscriber)
    (choice : LevelChoice) :
    Classified (w.perform rules (updateLevel c s p choice)).1 ↔ w.Movable s p choice := by
  refine classified_operation fun ctx => ?_
  unfold World.Movable
  cases s.subscriptionId with
  | some id => exact classified_changeLevel (w := { w with context := ctx }) hrules hp choice id
  | none => exact classified_subscribe (w := { w with context := ctx }) hp choice s

namespace Request

/-- The processor that a request names, if it names one, is in use. -/
def Finds (registry : Registry) : Request → Prop
  | .addPaymentMethod _ p _ | .updateLevel _ _ p _ | .readAndUpdateLevel _ p _ =>
    (registry.find? p).isSome
  | _ => True

/-- Everything that a request hands on from one collaborator to another is as its type demands. -/
def Sound (rules : Rules) (w : World) : Request → Prop
  | .updateLevel _ s p choice => w.Movable s p choice
  | .readAndUpdateLevel c p choice =>
    ∀ r, w.store.lookup c.user c.hmac = .found r → w.Movable r p choice
  | .createReceipt c bytes => w.Accounts rules c bytes
  | _ => True

/-- A request to collaborators as they are reached answers, is refused or hands on the fault of a
processor, exactly if it is sound. -/
theorem classified_iff {rules : Rules} {w : World} (hrules : rules.Decided) (hw : w.Standing)
    {r : Request} (hr : r.Finds w.registry) :
    Classified (w.perform rules r.program).1 ↔ r.Sound rules w := by
  cases r with
  | updateSubscriber c => exact iff_true_intro classified_updateSubscriber
  | getSubscriber c => exact iff_true_intro classified_getSubscriber
  | deleteSubscriber c => exact iff_true_intro (classified_deleteSubscriber hw)
  | addPaymentMethod c p platform =>
    exact iff_true_intro (classified_addPaymentMethod hrules hr platform)
  | updateLevel c s p choice => exact classified_updateLevel hrules hr c s choice
  | readAndUpdateLevel c p choice =>
    exact classified_read fun s ctx _ =>
      classified_updateLevel (w := { w with context := ctx }) hrules hr c s choice
  | createReceipt c bytes => exact classified_createReceipt hrules hw bytes

end Request

namespace System

/-- What a system comes to while the clock is not set back. -/
theorem standing_play {w : World} (hw : w.Fresh) (hclock : w.clock.offset.isSome)
    {moves : List (Move (Rules × Luck))} (hmoves : Move.Steady w.clock moves) :
    ((start w).play .inMemory moves).course.world.Standing := by
  have hdated : (start w).course.world.Dated := hw.dated hclock
  have hhoused := housed_play hw moves
  refine ⟨dated_play hdated hmoves, fun user r c hr hc => ?_⟩
  rw [hhoused.registered]
  exact hhoused.customers user r c hr hc

/-- From wherever a system has come to, if the clock was never set back, a request that names a
processor in use answers, is refused or hands on the fault of a processor, exactly if it is sound. -/
theorem classified_iff_sound {w : World} (hw : w.Fresh) (hclock : w.clock.offset.isSome)
    {moves : List (Move (Rules × Luck))} (hmoves : Move.Steady w.clock moves) {rules : Rules}
    (hrules : rules.Decided) {r : Request} (hr : r.Finds w.registry) :
    let s := ((start w).play .inMemory moves).course
    Classified (s.world.perform rules r.program).1 ↔ r.Sound rules s.world := by
  intro s
  have hfinds : r.Finds s.world.registry := by
    cases r with
    | addPaymentMethod c p platform => exact ((housed_play hw moves).registered p).trans hr
    | updateLevel c s p choice => exact ((housed_play hw moves).registered p).trans hr
    | readAndUpdateLevel c p choice => exact ((housed_play hw moves).registered p).trans hr
    | _ => trivial
  exact Request.classified_iff hrules (standing_play hw hclock hmoves) hfinds

end System

namespace Sample

/-- The rules of the catalog, but that all credentials expire at one time. -/
def decidedRules : Rules := { asShipped.1 with expiration := fun _ => .ok .epoch }

theorem decided_decidedRules : decidedRules.Decided where
  allows _ _ := ⟨_, rfl⟩
  expiration _ := ⟨_, rfl⟩
  setUp _ _ := ⟨_, rfl⟩

/-- The subscriber asks for a level below all others, but for the template of one that there is. -/
def below : Request :=
  .readAndUpdateLevel credentials .stripe ⟨-1, "usd", "second", "price_donation_500_usd"⟩

theorem steady_subscribe : Move.Steady World.shipped.clock (oneByOne asShipped (subscribe 500)) :=
  trivial

end Sample

open Sample in
/-- A move to a level that there is answers or is refused; one to a level below all others is neither
answered nor refused. -/
theorem System.classified_iff_sound_of_subscribed :
    let s := ((start .shipped).play .inMemory (oneByOne asShipped (subscribe 500))).course
    (toLevel 1000 "second").Finds World.shipped.registry ∧ below.Finds World.shipped.registry ∧
      Classified (s.world.perform decidedRules (toLevel 1000 "second").program).1 ∧
      ¬Classified (s.world.perform decidedRules below.program).1 := by
  intro s
  have hr : s.world.store.lookup credentials.user credentials.hmac = .found Sample.subscribed := by
    decide +kernel
  have hlevels : (s.world.registry.subscription? .stripe "emulator_sub_0000000000000002_0").any
      (·.level = 500) := by decide +kernel
  have hfinds : (World.shipped.registry.find? .stripe).isSome := by decide +kernel
  obtain ⟨sub, hsub, hlevel⟩ := (Option.any_eq_true _ _).1 hlevels
  dsimp only [s] at hr hsub
  dsimp only [s]
  have hiff := fun r => System.classified_iff_sound (r := r) World.fresh_shipped rfl steady_subscribe
    decided_decidedRules
  refine ⟨hfinds, hfinds, (hiff (toLevel 1000 "second") hfinds).2 ?_, fun h => ?_⟩
  · intro r' hr'
    obtain rfl := Lookup.found.inj (hr.symm.trans hr')
    intro sub' hsub'
    obtain rfl := Option.some.inj (hsub.symm.trans hsub')
    have h500 : sub.level = 500 := of_decide_eq_true hlevel
    constructor
    · omega
    · decide
  · have hmovable := (hiff below hfinds).1 h Sample.subscribed hr
    exact absurd (hmovable sub hsub).2 (by decide)

open Sample in
/-- After a subscription at a level, a move to a level below all others is neither answered nor
refused, although nobody failed and the clock was not set back. -/
theorem System.not_classified_of_below :
    let s := ((start .shipped).play .inMemory (oneByOne asShipped (subscribe 500))).course
    World.shipped.Fresh ∧ World.shipped.clock.offset.isSome ∧
      Move.Steady World.shipped.clock (oneByOne asShipped (subscribe 500)) ∧
      decidedRules.Decided ∧ below.Finds World.shipped.registry ∧
      ¬Classified (s.world.perform decidedRules below.program).1 := by
  intro s
  have hfinds : (World.shipped.registry.find? .stripe).isSome := by decide +kernel
  have hnot : ¬Classified (s.world.perform decidedRules below.program).1 := by decide +kernel
  exact ⟨World.fresh_shipped, rfl, steady_subscribe, decided_decidedRules, hfinds, hnot⟩

end Patronage
