import Patronage.Proofs.Single
import Patronage.Proofs.Transcript
/-!
# Failed requests and the store

Every request writes to the store at most once, and the write is the last thing it does: whatever
fails before it, or the write itself, leaves the store as it was.  The exception is a request to add
a payment method, which stores a customer before the payment method is set up.  Nothing is assumed
of processors and the other collaborators; of the store, that what it answers is true and that a
write that fails has no effect.  Main statements:

* `Request.tells_program_sparing` — the calls that a failed request made have spared the store;
* `System.spared_of_failed` — so they have however requests take turns;
* `System.store_of_failed` — a failed request leaves the store as it was, or with its customer.
-/

namespace Patronage

open Manager

/-! ### Answers that tell of no write -/

/-- The answer shows that the call left the store as it was: the call does not write, or it failed,
or there is a subscriber with another tag, or the subscriber kept another customer. -/
def Heard.Spares : Heard → Prop
  | ⟨.create .., .ok o⟩ => o = none
  | ⟨.setCustomer _ c _, .ok s⟩ => s.customer ≠ some c
  | ⟨.accessedAt .., .ok _⟩ | ⟨.canceledAt .., .ok _⟩ | ⟨.subscriptionCreated .., .ok _⟩
  | ⟨.levelChanged .., .ok _⟩ => False
  | _ => True

/-- All answers show so. -/
def Spared (h : List Heard) : Prop := ∀ x ∈ h, x.Spares

theorem Heard.spares_of_not_stores {c : Call} (hc : ¬c.Stores) (a : Except Fault c.Answer) :
    Heard.Spares ⟨c, a⟩ := by
  cases c with
  | create | accessedAt | canceledAt | setCustomer | subscriptionCreated | levelChanged =>
    exact absurd trivial hc
  | _ => cases a <;> trivial

theorem Heard.spares_error (c : Call) (f : Fault) : Heard.Spares ⟨c, .error f⟩ := by
  cases c <;> trivial

theorem spared_nil : Spared [] := fun _ hx => absurd hx List.not_mem_nil

theorem spared_concat {h : List Heard} {x : Heard} : Spared (h ++ [x]) ↔ Spared h ∧ x.Spares := by
  simp [Spared, or_imp, forall_and]

theorem spared_cons {h : List Heard} {x : Heard} : Spared (x :: h) ↔ x.Spares ∧ Spared h := by
  simp [Spared]

/-- Writing what is there changes nothing. -/
theorem Assoc.insert_of_get? {κ α : Type} [DecidableEq κ] {m : Assoc κ α} {k : κ} {a : α}
    (h : m.get? k = some a) : m.insert k a = m := by
  obtain ⟨es⟩ := m
  simp only [get?, insert, mk.injEq] at h ⊢
  induction es with
  | nil => cases h
  | cons e es ih =>
    by_cases hk : e.1 = k
    · subst hk
      obtain rfl : e.2 = a := by simpa [find] using h
      simp [write]
    · simp only [write, hk, if_false, List.cons.injEq, true_and]
      exact ih (by simpa [find, hk] using h)

/-- A write that fails has no effect. -/
theorem World.store_of_error {rules : Rules} {w : World} {c : Call} {f : Fault}
    (h : (w.answer rules c).1 = .error f) : (w.answer rules c).2.store = w.store := by
  have update : ∀ {α : Type} {user : Bytes} {change : Subscriber → Subscriber}
      {report : Subscriber → Subscriber → α × Log.Entry},
      (w.store.update user change report).answer = .error f →
        (w.store.update user change report).state = w.store := by
    intro α user change report h
    cases hs : w.store.find? user with
    | none => rw [Store.update_eq_fail hs]; rfl
    | some s => simp [Store.update, hs, Outcome.ok] at h
  by_cases hc : c.Stores
  · cases c with
    | create user password now =>
      simp only [answer, withStore, Store.create] at h
      split at h
      · split at h <;> cases h
      · cases h
    | accessedAt | canceledAt | setCustomer | subscriptionCreated | levelChanged =>
      exact (store_writeAll _ _).trans (update h)
    | _ => exact hc.elim
  · exact store_answer rules hc

/-- What shows that the store was left as it was can be trusted. -/
theorem World.store_of_spares {rules : Rules} {w : World} {c : Call}
    (h : Heard.Spares ⟨c, (w.answer rules c).1⟩) : (w.answer rules c).2.store = w.store := by
  cases ha : (w.answer rules c).1 with
  | error f => exact store_of_error ha
  | ok a =>
    rw [ha] at h
    cases c with
    | create user password now =>
      obtain rfl : a = none := h
      refine (store_writeAll _ _).trans ?_
      change (w.store.create user password now).answer = .ok none at ha
      unfold Store.create at ha ⊢
      split at ha
      · split at ha
        · cases ha
        · rename_i hne
          rw [if_neg hne]
          rfl
      · cases ha
    | setCustomer user c now =>
      refine (store_writeAll _ _).trans ?_
      change (w.store.setCustomer user c now).answer = .ok a at ha
      change a.customer ≠ some c at h
      unfold Store.setCustomer Store.update at ha ⊢
      split at ha
      · cases ha
      · rename_i s hs
        obtain rfl := Except.ok.inj ha
        -- whoever kept another customer had one, and is written as it is
        have hkept : s.withCustomer c now = s := by
          cases hsc : s.customer with
          | some held => simp [Subscriber.withCustomer, hsc]
          | none => exact absurd (by simp [Subscriber.withCustomer, hsc]) h
        simp only [Outcome.ok, hkept]
        exact congrArg Store.mk (Assoc.insert_of_get? hs)
    | accessedAt | canceledAt | subscriptionCreated | levelChanged => exact h.elim
    | _ => exact store_answer rules id

/-! ### Services that spare the store -/

/-- The store is its own: what is read from it is what it holds, a write fails without effect or
does what it does in memory, and no other call touches it.  Everything else is left open. -/
structure Service.SparesStore {ι : Type} (v : Service ι) : Prop where
  reads : ∀ i user hmac s, (∃ f, (v i (.lookUp user hmac) s).1 = .error f) ∨
    (v i (.lookUp user hmac) s).1 = .ok (s.world.store.lookup user hmac)
  writes : ∀ i c s, c.Stores →
    ((∃ f, (v i c s).1 = .error f) ∧ (v i c s).2.world.store = s.world.store) ∨
      ((v i c s).1 = (s.world.answer s.world.catalog.rules c).1 ∧
        (v i c s).2.world.store = (s.world.answer s.world.catalog.rules c).2.store)
  leaves : ∀ i c s, ¬c.Stores → (v i c s).2.world.store = s.world.store

namespace Service.SparesStore

variable {ι α : Type} {v : Service ι}

/-- A call leaves the store as it is if its answer shows so. -/
theorem store_of_spares (hv : v.SparesStore) {i : ι} {c : Call} {s : Course}
    (h : Heard.Spares ⟨c, (v i c s).1⟩) : (v i c s).2.world.store = s.world.store := by
  by_cases hc : c.Stores
  · obtain ⟨-, hstore⟩ | ⟨hanswer, hstore⟩ := hv.writes i c s hc
    · exact hstore
    · rw [hanswer] at h
      exact hstore.trans (World.store_of_spares h)
  · exact hv.leaves i c s hc

/-- A call does to the store nothing or one of its operations. -/
theorem store_cases (hv : v.SparesStore) (i : ι) (c : Call) (s : Course) :
    (v i c s).2.world.store = s.world.store ∨
      ∃ op, (v i c s).2.world.store = (s.world.store.apply op).state := by
  by_cases hc : c.Stores
  · obtain ⟨-, hstore⟩ | ⟨-, hstore⟩ := hv.writes i c s hc
    · exact .inl hstore
    · rw [hstore]
      exact World.store_answer_cases _ s.world c
  · exact .inl (hv.leaves i c s hc)

/-- Along every run records stay valid. -/
theorem valid_play (hv : v.SparesStore) {w : World} (hw : w.Fresh) (moves : List (Move ι)) :
    ((System.start w).play v moves).course.world.store.Valid := by
  refine System.forall_play (P := fun s => s.world.store.Valid) ?_ ?_ ?_ moves
  · intro s s' ha h
    rwa [ha.world.store]
  · intro i c s h
    obtain hstore | ⟨op, hstore⟩ := hv.store_cases i c s
    · exact hstore ▸ h
    · exact hstore ▸ h.apply op
  · show w.store.Valid
    rw [hw.store]
    exact Store.valid_empty

/-- A program leaves the store as it is if all that it hears shows so. -/
theorem store_run (hv : v.SparesStore) (i : ι) {p : Program α} {s : Course}
    (h : Spared (p.heard v i s)) : (p.run (v.host i) s).2.world.store = s.world.store := by
  induction p generalizing s with
  | done r => rfl
  | call c next ih =>
    obtain ⟨hc, hnext⟩ := spared_cons.1 h
    exact (ih _ hnext).trans (hv.store_of_spares hc)
  | enter fields next ih => exact ih _ h
  | leave saved next ih => exact ih h
  | log e next ih => exact ih h

/-- Up to a call before which all calls spared the store, the store is as it was. -/
theorem exists_of_heard (hv : v.SparesStore) (i : ι) {p : Program α} {s : Course}
    {before after : List Heard} {x : Heard} (heard : p.heard v i s = before ++ x :: after)
    (hbefore : Spared before) :
    ∃ s₁, s₁.world.store = s.world.store ∧ x.answer = (v i x.call s₁).1 ∧
      (Spared after → (p.run (v.host i) s).2.world.store = (v i x.call s₁).2.world.store) := by
  induction p generalizing s before with
  | done r => simp [Program.heard] at heard
  | call c next ih =>
    cases before with
    | nil =>
      obtain ⟨rfl, rfl⟩ := List.cons.inj heard
      exact ⟨s, rfl, rfl, fun hafter => hv.store_run i hafter⟩
    | cons y before =>
      obtain ⟨rfl, hrest⟩ := List.cons.inj heard
      obtain ⟨hy, hbefore⟩ := spared_cons.1 hbefore
      obtain ⟨s₁, hs₁, hanswer, hrun⟩ := ih _ hrest hbefore
      exact ⟨s₁, hs₁.trans (hv.store_of_spares hy), hanswer, hrun⟩
  | enter fields next ih => exact ih _ heard hbefore
  | leave saved next ih => exact ih heard hbefore
  | log e next ih => exact ih heard hbefore

end Service.SparesStore

/-! ### Programs -/

namespace Manager

open Program

variable {α : Type} {h : List Heard}

/-- If the program has failed, all that was heard has spared the store. -/
def FailsSpared (h : List Heard) (r : Except Fault α) : Prop := ∀ f, r = .error f → Spared h

theorem tells_of_not_stores {p : Program α} (hp : p.Uses fun c => ¬c.Stores) (hh : Spared h) :
    p.Tells Anything (fun h _ => Spared h) h :=
  tells_keeping hp (fun _ _ hc hh => ⟨trivial, fun a =>
    spared_concat.2 ⟨hh, Heard.spares_of_not_stores hc a⟩⟩) hh

/-- A call that is the last thing to happen to the store. -/
theorem tells_last {c : Call} (hh : Spared h) : (ask c).Tells Anything FailsSpared h :=
  tells_ask trivial fun a f hf => by
    subst hf
    exact spared_concat.2 ⟨hh, Heard.spares_error c f⟩

theorem tells_write {c : Call} (hh : Spared h) :
    (persist (ask c)).Tells Anything FailsSpared h :=
  tells_persist (tells_last hh) fun _ e he _ _ _ => he e rfl

/-- After calls that write nothing, what fails spared is all that need be known. -/
theorem tells_bind_last {β : Type} {p : Program α} {f : α → Program β}
    (hp : p.Tells Anything (fun h _ => Spared h) h)
    (hf : ∀ h a, Spared h → (f a).Tells Anything FailsSpared h) :
    (p >>= f).Tells Anything FailsSpared h :=
  hp.bind (fun _ _ hh _ _ => hh) hf

theorem uses_not_stores_getSubscriber (c : Credentials) :
    (getSubscriber c).Uses fun call => ¬call.Stores := uses_getSubscriber c id

theorem uses_not_stores_createReceipt (c : Credentials) (bytes : Bytes) :
    (createReceipt c bytes).Uses fun call => ¬call.Stores :=
  (uses_createReceipt c bytes).mono fun call hcall hstores => by
    cases call with
    | create | accessedAt | canceledAt | setCustomer | subscriptionCreated | levelChanged =>
      exact hcall
    | _ => exact hstores

theorem tells_updateSubscriber_sparing (c : Credentials) (hh : Spared h) :
    (updateSubscriber c).Tells Anything FailsSpared h := by
  refine Tells.within (tells_bind_last (tells_of_not_stores (uses_ask id) hh) fun h l hh => ?_) _
  cases l with
  | wrongPassword => exact fun _ _ => hh
  | notStored =>
    have hcreate : (ask (.create c.user c.hmac c.now)).Tells Anything
        (fun h r => FailsSpared h r ∧ (r = .ok none → Spared h)) h :=
      tells_ask trivial fun a => ⟨fun f hf => by
          subst hf
          exact spared_concat.2 ⟨hh, Heard.spares_error _ f⟩,
        fun ha => by
          subst ha
          exact spared_concat.2 ⟨hh, rfl⟩⟩
    refine hcreate.bind (fun _ e he _ _ => he.1 e rfl) fun h created hcreated => ?_
    -- who is not made a record is refused, and nothing was written for it
    cases created with
    | none => exact fun _ _ => hcreated.2 rfl
    | some s => exact fun _ hf => nomatch hf
  | found s => exact tells_write hh

theorem tells_deleteSubscriber_sparing (c : Credentials) (hh : Spared h) :
    (deleteSubscriber c).Tells Anything FailsSpared h := by
  refine Tells.within (tells_bind_last (tells_of_not_stores (uses_ask id) hh) fun h l hh => ?_) _
  cases l with
  | wrongPassword | notStored => exact fun _ _ => hh
  | found s =>
    dsimp only
    split
    · rename_i customer _
      have hremote : (cancelRemote customer).Uses fun call => ¬call.Stores :=
        (uses_cancelRemote customer).mono fun call hcall => by
          cases call with
          | processorOf | cancelAll => exact id
          | _ => exact hcall.elim
      exact tells_bind_last (tells_of_not_stores hremote hh) fun h _ hh => tells_write hh
    · exact tells_write hh

theorem tells_changeLevel_sparing (c : Credentials) (p : Provider) (choice : LevelChoice)
    (id : String) (hh : Spared h) : (changeLevel c p choice id).Tells Anything FailsSpared h := by
  have quiet : ∀ {call : Call} {h : List Heard}, ¬call.Stores → Spared h →
      (ask call).Tells Anything (fun h _ => Spared h) h := fun hcall hh =>
    tells_of_not_stores (uses_ask hcall) hh
  refine tells_bind_last (quiet (fun hs => hs) hh) fun h s hh => ?_
  refine tells_bind_last (quiet (fun hs => hs) hh) fun h current hh => ?_
  refine tells_bind_last (tells_of_not_stores (uses_ofExcept _) hh) fun h wanted hh => ?_
  split
  · exact fun _ _ => hh
  refine tells_bind_last (quiet (fun hs => hs) hh) fun h allowed hh => ?_
  split
  · exact tells_bind_last (quiet (fun hs => hs) hh) fun h _ hh => tells_write hh
  · exact fun _ _ => hh

theorem tells_subscribe_sparing (c : Credentials) (p : Provider) (choice : LevelChoice)
    (s : Subscriber) (hh : Spared h) : (subscribe c p choice s).Tells Anything FailsSpared h := by
  rcases subscribe_cases c p choice s with ⟨f, hfail⟩ | ⟨customer, -, rfl, hsubscribe⟩
  · rw [hfail]
    exact fun _ _ => hh
  · rw [hsubscribe]
    refine tells_bind_last (tells_of_not_stores (uses_ofExcept _) hh) fun h last hh => ?_
    have hcreate : (orRequiresAction (ask (.createSubscription customer.provider customer.id
        choice.templateId choice.level last))).Uses fun call => ¬call.Stores :=
      uses_orRequiresAction (uses_ask id)
    exact tells_bind_last (tells_of_not_stores hcreate hh) fun h id hh => tells_write hh

theorem tells_updateLevel_sparing (c : Credentials) (s : Subscriber) (p : Provider)
    (choice : LevelChoice) (hh : Spared h) :
    (updateLevel c s p choice).Tells Anything FailsSpared h := by
  unfold updateLevel operation
  refine Tells.within ?_ _
  split
  · exact tells_changeLevel_sparing c p choice _ hh
  · exact tells_subscribe_sparing c p choice s hh

/-- A request to add a payment method heard that the subscriber has no customer, that a customer was
made and stored, and then only that the payment method was not set up. -/
def Stranded (c : Credentials) (p : Provider) (platform : Platform) (f : Fault)
    (h : List Heard) : Prop :=
  ∃ (found stored : Subscriber) (made held : Customer),
    found.customer = none ∧ stored.customer = some held ∧
      h = [⟨.lookUp c.user c.hmac, .ok (.found found)⟩,
        ⟨.createCustomer p c.user platform, .ok made⟩,
        ⟨.setCustomer found.user ⟨made.id, p⟩ c.now, .ok stored⟩,
        ⟨.setUp p held.id, .error f⟩]

/-- One thing holds of what a program returned, or another if it failed. -/
def Answered {α : Type} (told : α → Prop) (failed : Prop) : Except Fault α → Prop
  | .ok a => told a
  | .error _ => failed

/-- A request to add a payment method that has failed has spared the store or is stranded. -/
theorem tells_addPaymentMethod_sparing (c : Credentials) (p : Provider) (platform : Platform) :
    (addPaymentMethod c p platform).Tells Anything
      (fun h r => ∀ f, r = .error f → Spared h ∨ Stranded c p platform f h) [] := by
  have hget : (getSubscriber c).Tells Anything
      (fun h => Answered (fun s => h = [⟨.lookUp c.user c.hmac, .ok (.found s)⟩]) (Spared h))
      [] := by
    have hask : (ask (.lookUp c.user c.hmac)).Tells Anything
        (fun h a => h = [⟨.lookUp c.user c.hmac, a⟩]) [] := tells_ask trivial fun _ => rfl
    refine Tells.within (hask.bind ?_ ?_) _
    · rintro h e rfl
      exact spared_cons.2 ⟨Heard.spares_error _ e, spared_nil⟩
    · rintro h l rfl
      cases l with
      | found s => exact rfl
      | notStored | wrongPassword => exact spared_cons.2 ⟨trivial, spared_nil⟩
  refine Tells.within (hget.bind (fun _ _ hh _ _ => .inl hh) ?_) _
  rintro h found rfl
  have hfound : Spared [⟨.lookUp c.user c.hmac, .ok (.found found)⟩] :=
    spared_cons.2 ⟨trivial, spared_nil⟩
  have hattach : (attach c p platform found).Tells Anything
      (fun h => Answered (fun s => Spared h ∨ ∃ made, found.customer = none ∧
          h = [⟨.lookUp c.user c.hmac, .ok (.found found)⟩,
            ⟨.createCustomer p c.user platform, .ok made⟩,
            ⟨.setCustomer found.user ⟨made.id, p⟩ c.now, .ok s⟩]) (Spared h))
      [⟨.lookUp c.user c.hmac, .ok (.found found)⟩] := by
    unfold attach
    split
    · split
      · exact .inl hfound
      · exact hfound
    · rename_i hnone
      have hcreate : (ask (.createCustomer p c.user platform)).Tells Anything
          (fun h r => h = [⟨.lookUp c.user c.hmac, .ok (.found found)⟩,
            ⟨.createCustomer p c.user platform, r⟩])
          [⟨.lookUp c.user c.hmac, .ok (.found found)⟩] := tells_ask trivial fun _ => rfl
      refine hcreate.bind ?_ ?_
      · rintro h e rfl
        exact spared_cons.2 ⟨trivial, spared_cons.2 ⟨trivial, spared_nil⟩⟩
      · rintro h made rfl
        refine tells_persist (tells_ask trivial fun a => ?_) fun _ _ he _ => he
        cases a with
        | ok s => exact .inr ⟨made, hnone, rfl⟩
        | error e =>
          exact spared_cons.2 ⟨trivial, spared_cons.2 ⟨trivial, spared_cons.2
            ⟨trivial, spared_nil⟩⟩⟩
  refine hattach.bind (fun _ _ hh _ _ => .inl hh) fun h stored hh => ?_
  obtain hh | ⟨made, hnone, rfl⟩ := hh
  · split
    · split
      · exact tells_ask trivial fun a f _ =>
          .inl (spared_concat.2 ⟨hh, Heard.spares_of_not_stores id a⟩)
      · exact fun _ _ => .inl hh
    · exact fun _ _ => .inl hh
  · -- a subscriber that is not at this processor now was not given the new customer
    have hspared : stored.customer ≠ some ⟨made.id, p⟩ →
        Spared [⟨.lookUp c.user c.hmac, .ok (.found found)⟩,
          ⟨.createCustomer p c.user platform, .ok made⟩,
          ⟨.setCustomer found.user ⟨made.id, p⟩ c.now, .ok stored⟩] := fun hne =>
      spared_cons.2 ⟨trivial, spared_cons.2 ⟨trivial, spared_cons.2 ⟨hne, spared_nil⟩⟩⟩
    split
    · rename_i held hheld
      split
      · refine tells_ask trivial fun a f hf => .inr ?_
        subst hf
        exact ⟨found, stored, made, held, hnone, hheld, rfl⟩
      · rename_i hprovider
        refine fun _ _ => .inl (hspared fun heq => hprovider ?_)
        rw [Option.some.inj (hheld.symm.trans heq)]
    · rename_i hheld
      exact fun _ _ => .inl (hspared (by simp [hheld]))

end Manager

/-! ### Requests -/

namespace Request

/-- How a request may end after what it has heard, as far as the store goes. -/
def EndsSparing : (r : Request) → List Heard → Except Fault r.Answer → Prop
  | .addPaymentMethod c p platform, h, res =>
    ∀ f, res = .error f → Spared h ∨ Stranded c p platform f h
  | .getSubscriber _, h, _ | .createReceipt .., h, _ => Spared h
  | .updateSubscriber _, h, res | .deleteSubscriber _, h, res | .updateLevel .., h, res
  | .readAndUpdateLevel .., h, res => FailsSpared h res

/-- Whatever a request hears, if it fails it has spared the store, or it was stranded between its
customer and the payment method. -/
theorem tells_program_sparing (r : Request) : r.program.Tells Anything r.EndsSparing [] := by
  cases r with
  | updateSubscriber c => exact tells_updateSubscriber_sparing c spared_nil
  | getSubscriber c => exact tells_of_not_stores (uses_not_stores_getSubscriber c) spared_nil
  | deleteSubscriber c => exact tells_deleteSubscriber_sparing c spared_nil
  | addPaymentMethod c p platform => exact tells_addPaymentMethod_sparing c p platform
  | updateLevel c s p choice => exact tells_updateLevel_sparing c s p choice spared_nil
  | readAndUpdateLevel c p choice =>
    exact tells_bind_last (tells_of_not_stores (uses_not_stores_getSubscriber c) spared_nil)
      fun h s hh => tells_updateLevel_sparing c s p choice hh
  | createReceipt c bytes =>
    exact tells_of_not_stores (uses_not_stores_createReceipt c bytes) spared_nil

end Request

/-! ### Systems -/

namespace System

variable {ι : Type} {v : Service ι}

/-- However requests take turns, and whatever collaborators answer, a request that has failed spared
the store with each of its calls, or it was stranded between its customer and the payment method. -/
theorem spared_of_failed {w : World} {moves : List (Move ι)} {k : Nat} {t : Task}
    (ht : ((start w).play v moves).tasks[k]? = some t) {f : Fault}
    (hf : t.rest = .done (.error f)) :
    Spared (heardBy k ((start w).transcript v moves)) ∨ ∃ c p platform,
      t.request = .addPaymentMethod c p platform ∧
        Stranded c p platform f (heardBy k ((start w).transcript v moves)) := by
  have htells := (recorded_play Request.tells_program_sparing w moves).tells ht
  rw [hf] at htells
  obtain ⟨r, rest, ctx⟩ := t
  cases r with
  | addPaymentMethod c p platform =>
    obtain hspared | hstranded := htells f rfl
    · exact .inl hspared
    · exact .inr ⟨c, p, platform, rfl, hstranded⟩
  | getSubscriber | createReceipt => exact .inl htells
  | updateSubscriber | deleteSubscriber | updateLevel | readAndUpdateLevel =>
    exact .inl (htells f rfl)

/-- A request that was stranded stored its customer for a subscriber that had none. -/
theorem store_of_stranded (hv : v.SparesStore) {i : ι} {s : Course} (hs : s.world.store.Valid)
    {c : Credentials} {p : Provider} {platform : Platform} {f : Fault}
    (h : Stranded c p platform f ((addPaymentMethod c p platform).heard v i s)) :
    ∃ record customer, s.world.store.find? c.user = some record ∧ record.customer = none ∧
      ((addPaymentMethod c p platform).heard v i s).getLast? =
        some ⟨.setUp p customer.id, .error f⟩ ∧ customer.provider = p ∧
      ((addPaymentMethod c p platform).run (v.host i) s).2.world.store =
        (s.world.store.setCustomer c.user customer c.now).state := by
  obtain ⟨found, stored, made, held, hnone, hheld, heard⟩ := h
  have hfind : s.world.store.find? c.user = some found := by
    obtain ⟨s₁, hs₁, hanswer, -⟩ := hv.exists_of_heard i (show _ = [] ++ _ :: _ from heard)
      spared_nil
    obtain ⟨e, hfailed⟩ | hread := hv.reads i c.user c.hmac s₁
    · cases hanswer.trans hfailed
    · rw [← hs₁]
      exact Store.find?_of_lookup (Except.ok.inj (hanswer.trans hread)).symm
  have huser : found.user = c.user := hs.user hfind
  have hbefore : Spared [⟨.lookUp c.user c.hmac, .ok (.found found)⟩,
      ⟨.createCustomer p c.user platform, .ok made⟩] :=
    spared_cons.2 ⟨trivial, spared_cons.2 ⟨trivial, spared_nil⟩⟩
  obtain ⟨s₁, hs₁, hanswer, hrun⟩ := hv.exists_of_heard i
    (show _ = [_, _] ++ _ :: _ from heard) hbefore
  have hlast := hrun (spared_cons.2 ⟨trivial, spared_nil⟩)
  obtain ⟨⟨e, hfailed⟩, -⟩ | ⟨hmemory, hstore⟩ := hv.writes i
    (.setCustomer found.user ⟨made.id, p⟩ c.now) s₁ trivial
  · cases hanswer.trans hfailed
  · have hset := hanswer.trans hmemory
    change .ok stored = (s₁.world.store.setCustomer found.user ⟨made.id, p⟩ c.now).answer at hset
    rw [hs₁, huser] at hset
    -- the subscriber had no customer, so it was given the one that was made
    obtain rfl : held = ⟨made.id, p⟩ := by
      simp only [Store.setCustomer, Store.update, hfind, Outcome.ok, Except.ok.injEq] at hset
      simpa [hset, Subscriber.withCustomer, hnone, eq_comm] using hheld
    refine ⟨found, ⟨made.id, p⟩, hfind, hnone, by rw [heard]; rfl, rfl, ?_⟩
    refine (hlast.trans hstore).trans ((World.store_writeAll _ _).trans ?_)
    show (s₁.world.store.setCustomer found.user ⟨made.id, p⟩ c.now).state = _
    rw [hs₁, huser]

/-- Whatever processors, the issuer and the rules of the callers do, a request that fails leaves the
store exactly as it was; but one to add a payment method keeps the customer that it stored, for a
subscriber that had none, if setting the payment method up is what failed.  Reading a subscriber
and issuing a credential never change the store. -/
theorem store_of_failed (hv : v.SparesStore) {w : World} (hw : w.Fresh) (moves : List (Move ι))
    (i : ι) (r : Request) :
    let s := ((start w).play v moves).course
    let o := r.program.run (v.host i) s
    (∀ f, o.1 = .error f → o.2.world.store = s.world.store ∨
      ∃ c p platform record customer, r = .addPaymentMethod c p platform ∧
        s.world.store.find? c.user = some record ∧ record.customer = none ∧
        (r.program.heard v i s).getLast? = some ⟨.setUp p customer.id, .error f⟩ ∧
        customer.provider = p ∧
        o.2.world.store = (s.world.store.setCustomer c.user customer c.now).state) ∧
    ((∃ c, r = .getSubscriber c) ∨ (∃ c bytes, r = .createReceipt c bytes) →
      o.2.world.store = s.world.store) := by
  intro s o
  have htells := (Request.tells_program_sparing r).heard v i s
  rw [List.nil_append] at htells
  refine ⟨fun f hf => ?_, ?_⟩
  · cases r with
    | addPaymentMethod c p platform =>
      obtain hspared | hstranded := htells f hf
      · exact .inl (hv.store_run i hspared)
      · obtain ⟨record, customer, h⟩ :=
          store_of_stranded hv (hv.valid_play hw moves) hstranded
        exact .inr ⟨c, p, platform, record, customer, rfl, h⟩
    | getSubscriber | createReceipt => exact .inl (hv.store_run i htells)
    | updateSubscriber | deleteSubscriber | updateLevel | readAndUpdateLevel =>
      exact .inl (hv.store_run i (htells f hf))
  · rintro (⟨c, rfl⟩ | ⟨c, bytes, rfl⟩)
    · exact hv.store_run i htells
    · exact hv.store_run i htells

end System

/-! ### A sample -/

instance : (c : Call) → Decidable c.Stores
  | .create .. | .accessedAt .. | .canceledAt .. | .setCustomer .. | .subscriptionCreated ..
  | .levelChanged .. => isTrue trivial
  | .lookUp .. | .processorOf .. | .createCustomer .. | .subscription .. | .tier ..
  | .createSubscription .. | .updateSubscription .. | .receiptItem .. | .cancelAll .. | .record ..
  | .decode .. | .issue .. | .allows .. | .expiration .. | .setUp .. => isFalse id

/-- The collaborators in memory, some calls of which fail: a write to the store without effect, and
any other call after it took effect. -/
def Service.failing : Service (Call → Option Fault) := fun faults c s =>
  match faults c with
  | none => s.ask s.world.catalog.rules .fine c
  | some f => (.error f, if c.Stores then s else s.after s.world.catalog.rules c)

theorem Service.sparesStore_failing : Service.failing.SparesStore where
  reads faults user hmac s := by
    unfold failing
    split
    · exact .inr rfl
    · rename_i f _
      exact .inl ⟨f, rfl⟩
  writes faults c s hc := by
    unfold failing
    split
    · exact .inr ⟨rfl, rfl⟩
    · rename_i f _
      exact .inl ⟨⟨f, rfl⟩, by rw [if_pos hc]⟩
  leaves faults c s hc := by
    unfold failing
    split
    · exact World.store_answer _ hc
    · rw [if_neg hc]
      exact World.store_answer _ hc

namespace Sample

/-- Payment methods are not set up. -/
def noSetUp : Call → Option Fault
  | .setUp p _ => some (.processor ⟨p, "setup_unavailable", none⟩)
  | _ => none

end Sample

open Sample in
/-- The subscriber keeps the customer that was stored before its payment method was refused. -/
theorem System.store_of_failed_of_noSetUp :
    let s := ((start .shipped).play .failing
      (oneByOne noSetUp [.updateSubscriber credentials])).course
    let r : Request := .addPaymentMethod credentials .stripe .ios
    let o := r.program.run (Service.failing.host noSetUp) s
    o.2.world.store ≠ s.world.store ∧ ∃ f customer, o.1 = .error f ∧
      (r.program.heard .failing noSetUp s).getLast? = some ⟨.setUp .stripe customer.id, .error f⟩ ∧
      o.2.world.store =
        (s.world.store.setCustomer credentials.user customer credentials.now).state := by
  intro s r o
  have hchanged : o.2.world.store ≠ s.world.store := by decide +kernel
  have hfailed : o.1.isOk = false := by decide +kernel
  refine ⟨hchanged, ?_⟩
  cases hf : o.1 with
  | ok a =>
    rw [hf] at hfailed
    cases hfailed
  | error f =>
    obtain hsame | ⟨c, p, platform, record, customer, hr, -, -, hlast, -, hstore⟩ :=
      (store_of_failed Service.sparesStore_failing World.fresh_shipped
        (oneByOne noSetUp [.updateSubscriber credentials]) noSetUp r).1 f hf
    · exact absurd hsame hchanged
    · obtain ⟨rfl, rfl, rfl⟩ := Request.addPaymentMethod.inj hr
      exact ⟨f, customer, rfl, hlast, hstore⟩

end Patronage
