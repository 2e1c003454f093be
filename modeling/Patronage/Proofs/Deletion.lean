import Patronage.Proofs.Single
import Patronage.Proofs.Trial
/-!
# Deleting a subscriber

A subscriber is deleted at its processor first and in the store last.  A processor that does not
know the customer is taken to have nothing to cancel, and it has nothing: no processor has a
subscription without its customer.  Main statements:

* `System.filed_play` — every subscription belongs to a customer that its processor has;
* `Course.delete_eq_ok_iff` — when a deletion answers;
* `Course.world_of_delete`, `Course.store_of_delete` — what it leaves if it answers, and if canceling
  at the processor fails;
* `Course.delete_after_passes` — a deletion that is tried again does what it would have done at once.
-/

namespace Patronage

open Manager Program

/-! ### Customers of subscriptions -/

namespace Emulator

/-- Every subscription belongs to a customer that the processor has. -/
def Filed (e : Emulator) : Prop :=
  ∀ {id sub}, e.subscriptions.get? id = some sub → (e.customers.get? sub.customerId).isSome

/-- Whatever an operation does, no subscription loses its customer. -/
theorem Shift.filed {m : Mint} {p : Provider} {e : Emulator} {c : Call} {s : Emulator × TokenSource}
    {d : Option String} (h : e.Shift m p c s d) (he : e.Filed) : s.1.Filed := by
  intro id sub hsub
  obtain ⟨id₀, old, hold, hcustomer, -⟩ | ⟨hknown, -⟩ := h.subscription_cases hsub
  · rw [hcustomer]
    exact h.isSome_customer (he hold)
  · exact h.isSome_customer hknown

end Emulator

/-- No processor has a subscription without a customer. -/
def Course.Filed (s : Course) : Prop := ∀ {p e}, s.world.registry.find? p = some e → e.Filed

theorem Course.Filed.alike {s s' : Course} (h : s.Filed) (ha : s.Alike s') : s'.Filed := by
  intro p e he
  rw [ha.world.registry] at he
  exact h he

theorem Course.Filed.after {s : Course} (h : s.Filed) (rules : Rules) (c : Call) :
    (s.after rules c).Filed :=
  forall_after (P := fun _ _ e => e.Filed) h rules c id fun _ hs hf => hs.filed hf

theorem World.Fresh.filed {w : World} (h : w.Fresh) : Course.Filed ⟨w, []⟩ := by
  intro p e he id sub hsub
  rw [(h.registry he).2.1] at hsub
  cases hsub

/-- However requests take turns, no processor has a subscription without a customer. -/
theorem System.filed_play {w : World} (hw : w.Fresh) (moves : List (Move (Rules × Luck))) :
    ((start w).play .inMemory moves).course.Filed :=
  forall_play_inMemory (P := Course.Filed) (fun ha h => h.alike ha)
    (fun rules c _ h => h.after rules c) hw.filed moves

/-- Once a processor was asked to cancel what a customer has, nothing of the customer runs, even if
the processor does not know the customer. -/
theorem World.idle_cancelAll {w : World} (hw : Course.Filed ⟨w, []⟩) (rules : Rules) {c : Customer}
    (hp : (w.registry.find? c.provider).isSome) (id : String) :
    ¬(w.answer rules (.cancelAll c.provider c.id)).2.registry.Runs c id := by
  obtain ⟨e, he⟩ := Option.isSome_iff_exists.1 hp
  have ho : w.answer rules (.cancelAll c.provider c.id) =
    w.withProcessor c.provider fun e => e.cancelAll w.clock c.id := rfl
  cases hc : e.customers.get? c.id with
  | some rc =>
    refine (cancelAll_answer rules w c).1 ?_ id
    rw [ho, withProcessor_of_some he]
    simp [Emulator.cancelAll, Emulator.customer, hc, Outcome.ok]
  | none =>
    rw [ho, withProcessor_of_some he]
    simp only [Emulator.cancelAll, Emulator.customer, hc, Option.elim_none, Outcome.fail,
      registry_writeAll]
    rintro ⟨sub, hsub, hcustomer, -⟩
    rw [Registry.subscription?_set, if_pos rfl] at hsub
    have hfiled := hw he hsub
    rw [hcustomer, hc] at hfiled
    cases hfiled

/-! ### One attempt -/

/-- What follows canceling at a processor: that the customer is unknown there is no failure. -/
def Manager.forgive (c : Customer) : Except Fault Unit → Program Unit
  | .error (.processor e) =>
    if e.code = ProcessorError.resourceMissing then
      .write (.info "remote_customer_missing"
        [("processor", .text c.provider.name), ("customer_id", .text c.id)])
    else throw (.processor e)
  | r => .ofExcept r

theorem Manager.cancelRemote_eq (c : Customer) :
    cancelRemote c = Program.ask (.processorOf c.provider) >>= fun _ =>
      (Program.ask (.cancelAll c.provider c.id)).andThen (forgive c) := by
  unfold cancelRemote
  congr 1
  funext _
  congr 1
  funext r
  cases r with
  | ok u => rfl
  | error f => cases f <;> rfl

/-- Everything was canceled, or there is nothing to cancel. -/
def Forgivable (r : Except Fault Unit) : Prop :=
  r = .ok () ∨ ∃ e, r = .error (.processor e) ∧ e.code = ProcessorError.resourceMissing

/-- A fault from outside is not forgiven. -/
theorem Mishap.not_forgivable (m : Mishap) : ¬Forgivable (.error m.fault) := by
  rintro (h | ⟨e, he, hcode⟩)
  · cases h
  · exact m.honest e (Except.error.inj he) hcode

/-- The processor of a customer is registered, and nothing befalls the calls to it. -/
structure Luck.Reaches (luck : Call → Luck) (r : Registry) (c : Customer) : Prop where
  found : luck (.processorOf c.provider) = .fine
  canceled : luck (.cancelAll c.provider c.id) = .fine
  registered : (r.find? c.provider).isSome

namespace Course

variable {s : Course} (rules : Rules) (luck : Call → Luck)

theorem attempt_forgive (s : Course) (c : Customer) (r : Except Fault Unit) :
    ((s.attempt rules luck (forgive c r)).1 = .ok () ↔ Forgivable r) ∧
      s.Alike (s.attempt rules luck (forgive c r)).2 := by
  unfold forgive Forgivable
  split
  · rename_i e
    split
    · rename_i hcode
      exact ⟨⟨fun _ => .inr ⟨e, rfl, hcode⟩, fun _ => rfl⟩, .write s _⟩
    · rename_i hcode
      refine ⟨⟨nofun, ?_⟩, .refl s⟩
      rintro (h | ⟨e', he', hcode'⟩)
      · cases h
      · cases he'
        exact absurd hcode' hcode
  · rename_i hne
    refine ⟨⟨.inl, ?_⟩, .refl s⟩
    rintro (h | ⟨e, he, -⟩)
    · exact h
    · exact absurd he (hne e)

/-- A processor is found if it is registered. -/
theorem processorOf_eq_ok_iff {p : Provider} {l : Luck} :
    (s.ask rules l (.processorOf p)).1 = .ok () ↔
      l = .fine ∧ (s.world.registry.find? p).isSome := by
  have hanswer : (s.world.answer rules (.processorOf p)).1 =
    s.world.registry.get p >>= fun _ => .ok () := rfl
  rw [ask_eq_ok_iff, hanswer, Registry.get]
  cases s.world.registry.find? p with
  | none =>
    constructor
    · rintro ⟨-, h⟩
      cases h
    · rintro ⟨-, h⟩
      cases h
  | some e =>
    constructor
    · exact fun h => ⟨h.1, rfl⟩
    · exact fun h => ⟨h.1, rfl⟩

/-- A registered processor cancels what a customer has, or it does not know the customer. -/
theorem forgivable_cancelAll {c : Customer} (h : (s.world.registry.find? c.provider).isSome) :
    Forgivable (s.world.answer rules (.cancelAll c.provider c.id)).1 := by
  obtain ⟨e, he⟩ := Option.isSome_iff_exists.1 h
  have ho : s.world.answer rules (.cancelAll c.provider c.id) =
    s.world.withProcessor c.provider fun e => e.cancelAll s.world.clock c.id := rfl
  rw [ho, World.withProcessor_of_some he]
  unfold Emulator.cancelAll Emulator.customer
  cases e.customers.get? c.id with
  | none => exact .inr ⟨_, rfl, rfl⟩
  | some rc => exact .inl rfl

/-- Canceling at a processor answers exactly if the processor is reached. -/
theorem cancelRemote_eq_ok_iff {c : Customer} :
    (s.attempt rules luck (cancelRemote c)).1 = .ok () ↔ Luck.Reaches luck s.world.registry c := by
  rw [cancelRemote_eq, attempt_bind_eq_ok]
  constructor
  · rintro ⟨_, hfound, h⟩
    obtain ⟨hluck, hsome⟩ := (processorOf_eq_ok_iff rules).1 hfound
    rw [attempt_andThen] at h
    have hforgivable := (attempt_forgive rules luck _ c _).1.1 h
    refine ⟨hluck, ?_, hsome⟩
    cases hcancel : luck (.cancelAll c.provider c.id) with
    | fine => rfl
    | before m | after m =>
      rw [attempt_ask, attempt_ask, hcancel] at hforgivable
      exact absurd hforgivable m.not_forgivable
  · intro h
    have hfound := (processorOf_eq_ok_iff rules).2 ⟨h.found, h.registered⟩
    refine ⟨(), hfound, ?_⟩
    rw [attempt_andThen]
    refine (attempt_forgive rules luck _ c _).1.2 ?_
    rw [attempt_ask, attempt_ask, h.found, h.canceled]
    exact forgivable_cancelAll rules h.registered

/-- Once canceling at a processor has answered, nothing of the customer runs any more. -/
theorem idle_of_cancelRemote (hs : s.Filed) {c : Customer}
    (h : (s.attempt rules luck (cancelRemote c)).1 = .ok ()) (id : String) :
    ¬(s.attempt rules luck (cancelRemote c)).2.world.registry.Runs c id := by
  have hreaches := (cancelRemote_eq_ok_iff rules luck).1 h
  have hfound : (s.attempt rules luck (Program.ask (.processorOf c.provider))).1 = .ok () :=
    (processorOf_eq_ok_iff rules).2 ⟨hreaches.found, hreaches.registered⟩
  rw [cancelRemote_eq, attempt_bind_ok s rules luck hfound, attempt_andThen,
    (attempt_forgive rules luck _ c _).2.world.registry, attempt_ask, attempt_ask, hreaches.found,
    hreaches.canceled]
  exact World.idle_cancelAll (w := s.world) hs rules hreaches.registered id

theorem store_cancelRemote (s : Course) (c : Customer) :
    (s.attempt rules luck (cancelRemote c)).2.world.store = s.world.store := by
  refine attempt_of_uses (I := fun s' => s'.world.store = s.world.store) rules luck
    (fun ha h => ha.world.store.trans h) ?_ (uses_cancelRemote c) rfl
  intro s' call hstops h
  refine (store_ask s' rules (luck call) ?_).trans h
  cases call with
  | processorOf | cancelAll => exact id
  | _ => exact hstops.elim

/-- What the store refuses is classified, and that is all. -/
theorem attempt_persist {α : Type} (s : Course) (p : Program α) :
    (s.attempt rules luck (persist p)).2 = (s.attempt rules luck p).2 ∧
      ∀ a, (s.attempt rules luck (persist p)).1 = .ok a ↔ (s.attempt rules luck p).1 = .ok a := by
  unfold persist
  rw [attempt_andThen]
  generalize s.attempt rules luck p = o
  obtain ⟨r, s'⟩ := o
  dsimp only
  split
  · exact ⟨rfl, fun a => ⟨nofun, nofun⟩⟩
  · exact ⟨rfl, fun a => .rfl⟩

end Course

/-- What follows once a subscriber that is to be deleted was found. -/
def Manager.forget (c : Credentials) (r : Subscriber) : Program Unit :=
  match r.customer with
  | some customer => cancelRemote customer >>= fun _ => persist (.ask (.canceledAt c.user c.now))
  | none => persist (.ask (.canceledAt c.user c.now))

theorem Manager.deleteSubscriber_eq (c : Credentials) :
    deleteSubscriber c = operation "delete_subscriber" c
      (Program.ask (.lookUp c.user c.hmac) >>= fun
        | .found r => forget c r
        | _ => missing) := by
  unfold deleteSubscriber
  congr 2
  funext l
  cases l with
  | wrongPassword | notStored => rfl
  | found r =>
    unfold forget
    dsimp only
    cases r.customer <;> rfl

/-- Nothing befalls the calls of a deletion, and the processor of the customer, if there is one, is
registered. -/
structure Luck.Deletes (luck : Call → Luck) (registry : Registry) (c : Credentials)
    (r : Subscriber) : Prop where
  found : luck (.lookUp c.user c.hmac) = .fine
  reaches : ∀ customer, r.customer = some customer → Luck.Reaches luck registry customer
  canceled : luck (.canceledAt c.user c.now) = .fine

namespace Course

variable {s : Course} (rules : Rules) (luck : Call → Luck) {c : Credentials} {r : Subscriber}

/-- A stored subscriber is canceled in the store if nothing befalls the call. -/
theorem cancel_eq_ok_iff (hr : s.Reads c.user r) :
    (s.attempt rules luck (persist (Program.ask (.canceledAt c.user c.now)))).1 = .ok () ↔
      luck (.canceledAt c.user c.now) = .fine := by
  have hanswer : (s.world.answer rules (.canceledAt c.user c.now)).1 = .ok () := by
    have hfind : s.world.store.find? c.user = some r := hr
    show (s.world.store.canceledAt c.user c.now).answer = _
    simp [Store.canceledAt, Store.update, hfind, Outcome.ok]
  rw [(attempt_persist rules luck s _).2, attempt_ask, ask_eq_ok_iff]
  exact ⟨And.left, fun h => ⟨h, hanswer⟩⟩

/-- Canceling in the store changes the store and leaves the processors as they are. -/
theorem world_of_cancel
    (h : (s.attempt rules luck (persist (Program.ask (.canceledAt c.user c.now)))).1 = .ok ()) :
    let o := s.attempt rules luck (persist (Program.ask (.canceledAt c.user c.now)))
    o.2.world.store = (s.world.store.canceledAt c.user c.now).state ∧
      o.2.world.registry = s.world.registry := by
  intro o
  have hask := ((attempt_persist rules luck s _).2 ()).1 h
  rw [attempt_ask] at hask
  have ho : o.2 = s.after rules (.canceledAt c.user c.now) := by
    rw [← (ask_eq_ok hask).2]
    exact (attempt_persist rules luck s _).1
  rw [ho]
  exact ⟨World.store_writeAll _ _, World.registry_writeAll _ _⟩

theorem Reads.cancelRemote (h : s.Reads c.user r) (customer : Customer) :
    (s.attempt rules luck (Manager.cancelRemote customer)).2.Reads c.user r := by
  rwa [Reads, store_cancelRemote]

theorem forget_eq_ok_iff (hr : s.Reads c.user r) :
    (s.attempt rules luck (forget c r)).1 = .ok () ↔
      (∀ customer, r.customer = some customer → Luck.Reaches luck s.world.registry customer) ∧
        luck (.canceledAt c.user c.now) = .fine := by
  unfold forget
  split
  · rename_i customer hcustomer
    rw [attempt_bind_eq_ok]
    constructor
    · rintro ⟨_, hcancel, h⟩
      refine ⟨fun customer' h' => ?_, (cancel_eq_ok_iff rules luck (hr.cancelRemote _ _ _)).1 h⟩
      obtain rfl := Option.some.inj (hcustomer.symm.trans h')
      exact (cancelRemote_eq_ok_iff rules luck).1 hcancel
    · rintro ⟨hreaches, hluck⟩
      exact ⟨(), (cancelRemote_eq_ok_iff rules luck).2 (hreaches customer hcustomer),
        (cancel_eq_ok_iff rules luck (hr.cancelRemote _ _ _)).2 hluck⟩
  · rename_i hnone
    rw [cancel_eq_ok_iff rules luck hr]
    refine ⟨fun h => ⟨fun customer hc => ?_, h⟩, And.right⟩
    cases hnone.symm.trans hc

/-- Once a subscriber that was found is deleted, it is canceled in the store, and nothing of its
customer runs any more. -/
theorem world_of_forget (hs : s.Filed)
    (h : (s.attempt rules luck (forget c r)).1 = .ok ()) :
    let o := s.attempt rules luck (forget c r)
    o.2.world.store = (s.world.store.canceledAt c.user c.now).state ∧
      ∀ customer, r.customer = some customer → ∀ id, ¬o.2.world.registry.Runs customer id := by
  unfold forget at h ⊢
  split at h
  · rename_i customer hcustomer
    obtain ⟨_, hcancel, hstore⟩ := (attempt_bind_eq_ok s rules luck).1 h
    obtain ⟨hst, hregistry⟩ := world_of_cancel rules luck hstore
    intro o
    have ho : o = (s.attempt rules luck (Manager.cancelRemote customer)).2.attempt rules luck
        (persist (Program.ask (.canceledAt c.user c.now))) :=
      attempt_bind_ok s rules luck hcancel
    rw [ho, hst, hregistry, store_cancelRemote]
    refine ⟨rfl, fun customer' h' id => ?_⟩
    obtain rfl := Option.some.inj (hcustomer.symm.trans h')
    exact idle_of_cancelRemote rules luck hs hcancel id
  · rename_i hnone
    refine ⟨(world_of_cancel rules luck h).1, fun customer hc => ?_⟩
    cases hnone.symm.trans hc

/-- If canceling at the processor fails, whether or not it took effect, the store stays as it is. -/
theorem store_of_forget {customer : Customer} (hc : r.customer = some customer)
    (hluck : luck (.cancelAll customer.provider customer.id) ≠ .fine) :
    (s.attempt rules luck (forget c r)).2.world.store = s.world.store := by
  unfold forget
  rw [hc]
  cases hcancel : (s.attempt rules luck (Manager.cancelRemote customer)).1 with
  | ok u => exact absurd ((cancelRemote_eq_ok_iff rules luck).1 hcancel).canceled hluck
  | error f =>
    rw [attempt_bind_error s rules luck hcancel]
    exact store_cancelRemote rules luck s customer

/-- The course that a deletion meets once it has found the subscriber. -/
def foundBy (s : Course) (rules : Rules) (c : Credentials) : Course :=
  (s.within (s.world.context.bind (.ofList
    [("subscriber", .text (Subscriber.tag c.user)), ("operation", .text "delete_subscriber")]))).after
      rules (.lookUp c.user c.hmac)

/-- Whatever befalls it, a deletion does what follows once the subscriber was found, or nothing. -/
theorem attempt_deleteSubscriber (hr : s.world.store.lookup c.user c.hmac = .found r) :
    let o := s.attempt rules luck (deleteSubscriber c)
    let o' := (s.foundBy rules c).attempt rules luck (forget c r)
    (luck (.lookUp c.user c.hmac) = .fine ∧ o.1 = o'.1 ∧ o'.2.Alike o.2) ∨
      (luck (.lookUp c.user c.hmac) ≠ .fine ∧ o.1 ≠ .ok () ∧ o.2.world.store = s.world.store) := by
  intro o o'
  have ho : o = s.attempt rules luck (operation "delete_subscriber" c
      (Program.ask (.lookUp c.user c.hmac) >>= fun
        | .found r => forget c r
        | _ => missing)) := by rw [← deleteSubscriber_eq]
  unfold operation at ho
  rw [attempt_within] at ho
  by_cases hluck : luck (.lookUp c.user c.hmac) = .fine
  · refine .inl ⟨hluck, ?_⟩
    rw [attempt_bind_ok _ rules luck (a := .found r) (by rw [attempt_ask, hluck, ← hr]; rfl)] at ho
    rw [attempt_ask, hluck] at ho
    rw [ho]
    exact ⟨rfl, .within _ _⟩
  · refine .inr ⟨hluck, ?_⟩
    cases hl : luck (.lookUp c.user c.hmac) with
    | fine => exact absurd hl hluck
    | before m | after m =>
      rw [attempt_bind_error _ rules luck (e := m.fault) (by rw [attempt_ask, hl]; rfl)] at ho
      rw [attempt_ask, hl] at ho
      rw [ho]
      exact ⟨nofun, rfl⟩

/-- A deletion answers exactly if nothing befalls its calls and the processor, if there is one, is
registered. -/
theorem delete_eq_ok_iff (hr : s.world.store.lookup c.user c.hmac = .found r) :
    (s.attempt rules luck (deleteSubscriber c)).1 = .ok () ↔ Luck.Deletes luck s.world.registry c r := by
  have hreads : (s.foundBy rules c).Reads c.user r := Store.find?_of_lookup hr
  have hforget := forget_eq_ok_iff rules luck hreads
  obtain ⟨hluck, ho, -⟩ | ⟨hluck, hne, -⟩ := attempt_deleteSubscriber rules luck hr
  · rw [ho, hforget]
    constructor
    · rintro ⟨hreaches, hcanceled⟩
      exact ⟨hluck, hreaches, hcanceled⟩
    · intro h
      exact ⟨h.reaches, h.canceled⟩
  · exact ⟨fun h => absurd h hne, fun h => absurd h.found hluck⟩

/-- Once a deletion has answered, the subscriber is canceled in the store, and nothing of its
customer runs any more. -/
theorem world_of_delete (hs : s.Filed) (hr : s.world.store.lookup c.user c.hmac = .found r)
    (h : (s.attempt rules luck (deleteSubscriber c)).1 = .ok ()) :
    let o := s.attempt rules luck (deleteSubscriber c)
    o.2.world.store = (s.world.store.canceledAt c.user c.now).state ∧
      ∀ customer, r.customer = some customer → ∀ id, ¬o.2.world.registry.Runs customer id := by
  have hfiled : (s.foundBy rules c).Filed := hs
  obtain ⟨-, ho, halike⟩ | ⟨-, hne, -⟩ := attempt_deleteSubscriber rules luck hr
  · intro o
    rw [halike.world.store, halike.world.registry]
    exact world_of_forget rules luck hfiled (ho.symm.trans h)
  · exact absurd h hne

/-- If canceling at the processor fails, whether or not it took effect, the deletion fails and
leaves the store as it is. -/
theorem store_of_delete (hr : s.world.store.lookup c.user c.hmac = .found r) {customer : Customer}
    (hc : r.customer = some customer)
    (hluck : luck (.cancelAll customer.provider customer.id) ≠ .fine) :
    let o := s.attempt rules luck (deleteSubscriber c)
    o.1 ≠ .ok () ∧ o.2.world.store = s.world.store := by
  intro o
  constructor
  · intro h
    exact hluck (((delete_eq_ok_iff rules luck hr).1 h).reaches customer hc).canceled
  · obtain ⟨-, -, halike⟩ | ⟨-, -, hstore⟩ := attempt_deleteSubscriber rules luck hr
    · exact halike.world.store.trans (store_of_forget rules luck hc hluck)
    · exact hstore

end Course

/-! ### Attempts that fail -/

/-- Time passes, or a deletion fails to cancel what the customer has at its processor. -/
def Trial.FailsToCancel (user hmac : Bytes) (customer : Customer) : Trial → Prop
  | .request _ luck (.deleteSubscriber c) =>
    c.user = user ∧ c.hmac = hmac ∧ luck (.cancelAll customer.provider customer.id) ≠ .fine
  | .request .. => False
  | .setClock _ => True

namespace Course

variable {s : Course} {r : Subscriber} {customer : Customer}

theorem Filed.attempt {α : Type} (h : s.Filed) (rules : Rules) (luck : Call → Luck)
    (p : Program α) : (s.attempt rules luck p).2.Filed :=
  attempt_of_calls (I := Course.Filed) rules luck (fun ha h => h.alike ha)
    (fun h => h.after rules _) p h

/-- Deletions that fail to cancel at the processor leave the store as it is. -/
theorem passes_of_failsToCancel {user hmac : Bytes} {ts : List Trial} (hs : s.Filed)
    (hr : s.world.store.lookup user hmac = .found r) (hc : r.customer = some customer)
    (hts : ∀ t ∈ ts, t.FailsToCancel user hmac customer) :
    (s.passes ts).Filed ∧ (s.passes ts).world.store = s.world.store ∧
      ∀ p, ((s.passes ts).world.registry.find? p).isSome = (s.world.registry.find? p).isSome := by
  induction ts generalizing s with
  | nil => exact ⟨hs, rfl, fun _ => rfl⟩
  | cons t ts ih =>
    obtain ⟨ht, hts⟩ := List.forall_mem_cons.1 hts
    have hpass : (s.pass t).Filed ∧ (s.pass t).world.store = s.world.store ∧
        ∀ p, ((s.pass t).world.registry.find? p).isSome =
          (s.world.registry.find? p).isSome := by
      cases t with
      | setClock now => exact ⟨hs, rfl, fun _ => rfl⟩
      | request rules luck request =>
        refine ⟨hs.attempt rules luck _, ?_, s.registered_attempt rules luck _⟩
        cases request with
        | deleteSubscriber c =>
          obtain ⟨rfl, rfl, hluck⟩ := ht
          exact (store_of_delete rules luck hr hc hluck).2
        | _ => exact ht.elim
    obtain ⟨hfiled, hstore, hregistered⟩ := hpass
    obtain ⟨hfiled', hstore', hregistered'⟩ := ih hfiled (by rwa [hstore]) hts
    exact ⟨hfiled', hstore'.trans hstore, fun p => (hregistered' p).trans (hregistered p)⟩

/-- A deletion that answers after others have failed would have answered at once, and it leaves the
same store. -/
theorem delete_after_passes {c : Credentials} {ts : List Trial} (hs : s.Filed)
    (hr : s.world.store.lookup c.user c.hmac = .found r) (hc : r.customer = some customer)
    (hts : ∀ t ∈ ts, t.FailsToCancel c.user c.hmac customer) (rules : Rules) (luck : Call → Luck)
    (h : ((s.passes ts).attempt rules luck (deleteSubscriber c)).1 = .ok ()) :
    (s.attempt rules luck (deleteSubscriber c)).1 = .ok () ∧
      ((s.passes ts).attempt rules luck (deleteSubscriber c)).2.world.store =
        (s.attempt rules luck (deleteSubscriber c)).2.world.store := by
  obtain ⟨hfiled, hstore, hregistered⟩ := passes_of_failsToCancel hs hr hc hts
  have hr' : (s.passes ts).world.store.lookup c.user c.hmac = .found r := by rwa [hstore]
  have hdeletes := (delete_eq_ok_iff rules luck hr').1 h
  have hok : (s.attempt rules luck (deleteSubscriber c)).1 = .ok () := by
    refine (delete_eq_ok_iff rules luck hr).2 ⟨hdeletes.found, fun customer' h' => ?_,
      hdeletes.canceled⟩
    obtain ⟨hfound, hcanceled, hsome⟩ := hdeletes.reaches customer' h'
    exact ⟨hfound, hcanceled, (hregistered _).symm.trans hsome⟩
  refine ⟨hok, ?_⟩
  rw [(world_of_delete rules luck hfiled hr' h).1, (world_of_delete rules luck hs hr hok).1, hstore]

end Course

end Patronage
