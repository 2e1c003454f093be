import Patronage.Proofs.Naming
/-!
# What the store keeps of its records

The store offers one way to read a record, one to make it and five to change it, and each of these
changes fields of its own.  `Subscriber.Step` lists what can become of a record; whoever keeps
something of records goes through this list and never through the operations.  Main statements:

* `Store.find?_apply_cases` — an operation makes a record or takes one step with it;
* `Subscriber.Step.continues`, `Subscriber.Step.coherent` — what a step keeps;
* `Store.records_run` — what is true of records, answers and refusals along every run;
* `System.continues_play`, `System.valid_play` — records while requests take turns.
-/

namespace Patronage

namespace Subscriber

/-- What an operation may make of a record. -/
inductive Step (s : Subscriber) : Subscriber → Prop
  | same : s.Step s
  | accessed (now : Moment) : s.Step (s.accessed now)
  | canceled (now : Moment) : s.Step (s.canceled now)
  | attached (c : Customer) (now : Moment) : s.Step (s.withCustomer c now)
  | subscribed (id : String) (level : Int) (now : Moment) : s.Step (s.subscribed id level now)
  | moved (id : String) (level : Int) (now : Moment) : s.Step (s.movedTo id level now)

/-- A record of the same subscriber: it was made with the same tag at the same time, and a customer
is the same one since the same time. -/
structure Continues (s s' : Subscriber) : Prop where
  user : s'.user = s.user
  password : s'.password = s.password
  createdAt : s'.createdAt = s.createdAt
  customer : s.customer.isSome →
    s'.customer = s.customer ∧ s'.customerUpdatedAt = s.customerUpdatedAt

/-- A record with a customer exactly if it has a time for it, and with a subscription exactly if it
has a level for it. -/
structure Coherent (s : Subscriber) : Prop where
  customer : s.customer.isSome ↔ s.customerUpdatedAt.isSome
  subscription : s.subscriptionId.isSome ↔ s.subscriptionLevel.isSome

variable {s s' s'' : Subscriber}

theorem Continues.refl (s : Subscriber) : s.Continues s := ⟨rfl, rfl, rfl, fun _ => ⟨rfl, rfl⟩⟩

theorem Continues.trans (h : s.Continues s') (h' : s'.Continues s'') : s.Continues s'' := by
  refine ⟨h'.user.trans h.user, h'.password.trans h.password, h'.createdAt.trans h.createdAt, ?_⟩
  intro hc
  obtain ⟨hcustomer, htime⟩ := h.customer hc
  obtain ⟨hcustomer', htime'⟩ := h'.customer (hcustomer ▸ hc)
  exact ⟨hcustomer'.trans hcustomer, htime'.trans htime⟩

/-- A customer stays. -/
theorem Continues.customer_eq (h : s.Continues s') {c : Customer} (hc : s.customer = some c) :
    s'.customer = some c := by
  have hsome : s.customer.isSome := by simp [hc]
  exact (h.customer hsome).1.trans hc

/-- Whatever an operation makes of a record, it is the same subscriber's. -/
theorem Step.continues (h : s.Step s') : s.Continues s' := by
  cases h with
  | same => exact .refl s
  | accessed | canceled | subscribed | moved => exact ⟨rfl, rfl, rfl, fun _ => ⟨rfl, rfl⟩⟩
  | attached c now =>
    unfold withCustomer
    split
    · exact .refl s
    · rename_i hnone
      refine ⟨rfl, rfl, rfl, fun hc => ?_⟩
      simp [hnone] at hc

theorem coherent_new (user password : Bytes) (now : Moment) : (new user password now).Coherent :=
  ⟨Iff.rfl, Iff.rfl⟩

/-- Whatever an operation makes of a record, its fields go together as before. -/
theorem Step.coherent (h : s.Step s') (hs : s.Coherent) : s'.Coherent := by
  cases h with
  | same => exact hs
  | accessed => exact ⟨hs.customer, hs.subscription⟩
  | canceled => exact ⟨hs.customer, Iff.rfl⟩
  | subscribed | moved => exact ⟨hs.customer, Iff.rfl⟩
  | attached c now =>
    unfold withCustomer
    split
    · exact hs
    · exact ⟨Iff.rfl, hs.subscription⟩

end Subscriber

namespace Store

/-- What the store can be asked for. -/
inductive Operation
  | lookUp (user hmac : Bytes)
  | create (user password : Bytes) (now : Moment)
  | accessedAt (user : Bytes) (now : Moment)
  | canceledAt (user : Bytes) (now : Moment)
  /-- With a record, whenever and wherever that was read; its identity is all that counts. -/
  | setCustomer (record : Subscriber) (c : Customer) (now : Moment)
  | subscriptionCreated (user : Bytes) (id : String) (now : Moment) (level : Int)
  | levelChanged (user : Bytes) (now : Moment) (level : Int) (id : String)

namespace Operation

/-- What an operation answers unless it fails. -/
abbrev Answer : Operation → Type
  | .lookUp .. => Lookup
  | .create .. => Option Subscriber
  | .setCustomer .. => Subscriber
  | .accessedAt .. | .canceledAt .. | .subscriptionCreated .. | .levelChanged .. => Unit

/-- The subscriber whose record an operation changes. -/
def updates? : Operation → Option Bytes
  | .lookUp .. | .create .. => none
  | .accessedAt user _ | .canceledAt user _ | .subscriptionCreated user .. | .levelChanged user .. =>
    some user
  | .setCustomer record .. => some record.user

end Operation

/-- What the store does when it is asked. -/
def apply (store : Store) : (op : Operation) → Outcome Store op.Answer
  | .lookUp user hmac => .ok store (store.lookup user hmac) []
  | .create user password now => store.create user password now
  | .accessedAt user now => store.accessedAt user now
  | .canceledAt user now => store.canceledAt user now
  | .setCustomer record c now => store.setCustomer record.user c now
  | .subscriptionCreated user id now level => store.subscriptionCreated user id now level
  | .levelChanged user now level id => store.levelChanged user now level id

/-- The store after some operations, whether they succeeded or failed. -/
def run (store : Store) (ops : List Operation) : Store :=
  ops.foldl (fun store op => (store.apply op).state) store

variable {store : Store}

@[simp] theorem run_nil (store : Store) : store.run [] = store := rfl

@[simp] theorem run_cons (store : Store) (op : Operation) (ops : List Operation) :
    store.run (op :: ops) = (store.apply op).state.run ops := rfl

/-! ### One operation -/

/-- A change that is a step for every record is one for the record that is found. -/
theorem step_update {α : Type} (store : Store) (user v : Bytes) {change : Subscriber → Subscriber}
    (h : ∀ s : Subscriber, s.Step (change s)) (report : Subscriber → Subscriber → α × Log.Entry) :
    Option.Rel Subscriber.Step (store.find? v) ((store.update user change report).state.find? v) := by
  rw [get?_update]
  cases store.find? v with
  | none =>
    have hnone : (if user = v then Option.map change none else none) = none := by split <;> rfl
    rw [hnone]
    exact .none
  | some s =>
    by_cases hu : user = v
    · rw [if_pos hu]
      exact .some (h s)
    · rw [if_neg hu]
      exact .some .same

theorem step_refl (o : Option Subscriber) : Option.Rel Subscriber.Step o o := by
  cases o with
  | none => exact .none
  | some s => exact .some .same

/-- Making a record changes what is found only where nothing was found. -/
theorem find?_create (store : Store) (user password v : Bytes) (now : Moment) :
    (store.create user password now).state.find? v =
      if user = v ∧ store.find? v = none then some (.new user password now)
      else store.find? v := by
  unfold create
  by_cases hu : user = v
  · subst hu
    cases hs : store.find? user with
    | some s => dsimp only; split <;> simp [Outcome.ok, hs]
    | none => simp [Outcome.ok, find?]
  · cases hs : store.find? user with
    | some s => dsimp only; split <;> simp [Outcome.ok, hu]
    | none => simp [Outcome.ok, find?, hu]

/-- An operation makes the record of a subscriber that has none, or it takes one step with what it
finds. -/
theorem find?_apply_cases (store : Store) (op : Operation) (v : Bytes) :
    (∃ password now, op = .create v password now ∧ store.find? v = none ∧
      (store.apply op).state.find? v = some (.new v password now)) ∨
    Option.Rel Subscriber.Step (store.find? v) ((store.apply op).state.find? v) := by
  cases op with
  | lookUp user hmac => exact .inr (step_refl _)
  | create user password now =>
    have hcreate := find?_create store user password v now
    by_cases hnew : user = v ∧ store.find? v = none
    · obtain ⟨rfl, hnone⟩ := hnew
      exact .inl ⟨password, now, rfl, hnone, hcreate.trans (if_pos ⟨rfl, hnone⟩)⟩
    · rw [if_neg hnew] at hcreate
      exact .inr (hcreate ▸ step_refl _)
  | accessedAt user now => exact .inr (step_update store user v (fun _ => .accessed now) _)
  | canceledAt user now => exact .inr (step_update store user v (fun _ => .canceled now) _)
  | setCustomer record c now =>
    exact .inr (step_update store record.user v (fun _ => .attached c now) _)
  | subscriptionCreated user id now level =>
    exact .inr (step_update store user v (fun _ => .subscribed id level now) _)
  | levelChanged user now level id =>
    exact .inr (step_update store user v (fun _ => .moved id level now) _)

/-- An operation keeps every record. -/
theorem continues_apply {v : Bytes} {s : Subscriber} (hs : store.find? v = some s)
    (op : Operation) : ∃ s', (store.apply op).state.find? v = some s' ∧ s.Continues s' := by
  obtain ⟨_, _, _, hnone, _⟩ | hstep := find?_apply_cases store op v
  · rw [hs] at hnone
    cases hnone
  · obtain ⟨s', hs', h⟩ := OptionRel.exists_of_left hstep hs
    exact ⟨s', hs', h.continues⟩

/-- Every record is filed under its own identity, and its fields go together. -/
structure Valid (store : Store) : Prop where
  user : ∀ {v s}, store.find? v = some s → s.user = v
  coherent : ∀ {v s}, store.find? v = some s → s.Coherent

theorem valid_empty : Valid .empty := ⟨nofun, nofun⟩

/-- An operation leaves every record valid. -/
theorem Valid.apply (h : store.Valid) (op : Operation) : (store.apply op).state.Valid := by
  have valid : ∀ {v s'}, (store.apply op).state.find? v = some s' → s'.user = v ∧ s'.Coherent := by
    intro v s' hs'
    obtain ⟨password, now, -, -, hnew⟩ | hstep := find?_apply_cases store op v
    · obtain rfl := Option.some.inj (hs'.symm.trans hnew)
      exact ⟨rfl, Subscriber.coherent_new v password now⟩
    · obtain ⟨s, hs, hss'⟩ := OptionRel.exists_of_right hstep hs'
      exact ⟨hss'.continues.user.trans (h.user hs), hss'.coherent (h.coherent hs)⟩
  exact ⟨fun hs' => (valid hs').1, fun hs' => (valid hs').2⟩

/-- An update of a subscriber that is not stored is refused and changes nothing. -/
theorem apply_of_not_stored {op : Operation} {user : Bytes} (hop : op.updates? = some user)
    (hnone : store.find? user = none) :
    (store.apply op).state = store ∧
      (store.apply op).answer = .error (.notStored (Subscriber.tag user)) := by
  cases op with
  | lookUp | create => cases hop
  | accessedAt | canceledAt | setCustomer | subscriptionCreated | levelChanged =>
    obtain rfl := Option.some.inj hop
    have hfail := fun α => @update_eq_fail α store _ hnone
    constructor
    · exact congrArg Outcome.state (hfail _ _ _)
    · exact congrArg Outcome.answer (hfail _ _ _)

/-- Looking up hands out the stored record, and only to its own tag. -/
theorem lookup_eq_found {user hmac : Bytes} {s : Subscriber} :
    store.lookup user hmac = .found s ↔ store.find? user = some s ∧ s.password = hmac := by
  unfold lookup
  cases hs : store.find? user with
  | none => simp
  | some s' =>
    by_cases htag : s'.password = hmac
    · simp only [htag, if_true, Lookup.found.injEq, Option.some.injEq]
      exact ⟨fun h => ⟨h, h ▸ htag⟩, And.left⟩
    · simp only [htag, if_false, Option.some.injEq, reduceCtorEq, false_iff, not_and]
      exact fun h => h ▸ htag

/-- Making a record hands out the new one, or the stored one, and that only to its own tag. -/
theorem create_eq_some {user password : Bytes} {now : Moment} {s : Subscriber} :
    (store.create user password now).answer = .ok (some s) ↔
      (store.find? user = some s ∧ s.password = password) ∨
        (store.find? user = none ∧ s = .new user password now) := by
  unfold create
  cases hs : store.find? user with
  | none => simp [Outcome.ok, eq_comm]
  | some s' =>
    by_cases htag : s'.password = password
    · simp only [htag, if_true, Outcome.ok, Except.ok.injEq, Option.some.injEq, reduceCtorEq,
        false_and, or_false]
      exact ⟨fun h => ⟨h, h ▸ htag⟩, And.left⟩
    · simp only [htag, if_false, Outcome.ok, Except.ok.injEq, Option.some.injEq, reduceCtorEq,
        false_and, or_false, false_iff, not_and]
      exact fun h => h ▸ htag

/-! ### Many operations -/

/-- Records stay valid along every run. -/
theorem Valid.run (h : store.Valid) (ops : List Operation) : (store.run ops).Valid := by
  induction ops generalizing store with
  | nil => exact h
  | cons op ops ih => exact ih (h.apply op)

/-- Every run keeps every record. -/
theorem continues_run {v : Bytes} {s : Subscriber} (hs : store.find? v = some s)
    (ops : List Operation) : ∃ s', (store.run ops).find? v = some s' ∧ s.Continues s' := by
  induction ops generalizing store s with
  | nil => exact ⟨s, hs, .refl s⟩
  | cons op ops ih =>
    obtain ⟨s₁, hs₁, h₁⟩ := continues_apply hs op
    obtain ⟨s₂, hs₂, h₂⟩ := ih hs₁
    exact ⟨s₂, hs₂, h₁.trans h₂⟩

/-- Along every run a record is filed under its own identity, its fields go together, and whatever
happens later it stays the same subscriber's; records are handed out as they are stored, or as they
are made, and only to their own tags; and an update of a subscriber that is not stored is refused
and changes nothing. -/
theorem records_run (ops : List Operation) :
    let store := Store.run .empty ops
    (∀ user s, store.find? user = some s → s.user = user ∧ s.Coherent ∧
      ∀ later, ∃ s', (store.run later).find? user = some s' ∧ s.Continues s') ∧
    (∀ user hmac s, (store.apply (.lookUp user hmac)).answer = .ok (.found s) ↔
      store.find? user = some s ∧ s.password = hmac) ∧
    (∀ user password now s, (store.apply (.create user password now)).answer = .ok (some s) ↔
      (store.find? user = some s ∧ s.password = password) ∨
        (store.find? user = none ∧ s = .new user password now)) ∧
    ∀ op user, op.updates? = some user → store.find? user = none →
      (store.apply op).state = store ∧
        (store.apply op).answer = .error (.notStored (Subscriber.tag user)) := by
  intro store
  have hvalid : store.Valid := valid_empty.run ops
  refine ⟨fun user s hs => ?_, fun user hmac s => ?_, fun user password now s => create_eq_some,
    fun op user hop hnone => apply_of_not_stored hop hnone⟩
  · exact ⟨hvalid.user hs, hvalid.coherent hs, fun later => continues_run hs later⟩
  · have hanswer : (store.apply (.lookUp user hmac)).answer = .ok (store.lookup user hmac) := rfl
    rw [hanswer, Except.ok.injEq]
    exact lookup_eq_found

end Store

namespace Sample

/-- A subscriber is made, given a customer and a subscription, and canceled. -/
def cancelRecord : List Store.Operation :=
  [.create credentials.user credentials.hmac .epoch,
    .setCustomer (.new credentials.user [] .epoch) ⟨"emulator_cus_1", .stripe⟩ .epoch,
    .subscriptionCreated credentials.user "emulator_sub_1" .epoch 500,
    .canceledAt credentials.user .epoch]

end Sample

open Sample in
/-- The subscriber is not given another customer later, nor made anew. -/
theorem Store.records_run_of_cancelRecord :
    let store := Store.run .empty cancelRecord
    let later : List Store.Operation :=
      [.create credentials.user [0xcc] .epoch,
        .setCustomer (.new credentials.user [] .epoch) ⟨"emulator_cus_2", .braintree⟩ .epoch,
        .levelChanged credentials.user .epoch 1000 "emulator_sub_1"]
    ∃ s, store.find? credentials.user = some s ∧ s.subscriptionId = none ∧
      s.customer = some ⟨"emulator_cus_1", .stripe⟩ ∧
      ∃ s', (store.run later).find? credentials.user = some s' ∧ s.Continues s' ∧
        s'.subscriptionLevel = some 1000 := by
  intro store later
  have hfind : (store.find? credentials.user).isSome := by decide +kernel
  obtain ⟨s, hs⟩ := Option.isSome_iff_exists.1 hfind
  obtain ⟨-, -, hkept⟩ := (records_run cancelRecord).1 credentials.user s hs
  obtain ⟨s', hs', hcontinues⟩ := hkept later
  have hbefore : (store.find? credentials.user).map (fun s => (s.subscriptionId, s.customer)) =
      some (none, some ⟨"emulator_cus_1", .stripe⟩) := by decide +kernel
  have hafter : ((store.run later).find? credentials.user).map (·.subscriptionLevel) =
      some (some 1000) := by decide +kernel
  rw [hs, Option.map_some, Option.some.injEq, Prod.mk.injEq] at hbefore
  rw [hs', Option.map_some, Option.some.injEq] at hafter
  exact ⟨s, hs, hbefore.1, hbefore.2, s', hs', hcontinues, hafter⟩

/-! ### Worlds -/

namespace World

/-- A call asks the store for one operation at most. -/
theorem store_answer_cases (rules : Rules) (w : World) (c : Call) :
    (w.answer rules c).2.store = w.store ∨
      ∃ op, (w.answer rules c).2.store = (w.store.apply op).state := by
  by_cases hstores : c.Stores
  · right
    cases c with
    | create user password now => exact ⟨.create user password now, store_writeAll _ _⟩
    | accessedAt user now => exact ⟨.accessedAt user now, store_writeAll _ _⟩
    | canceledAt user now => exact ⟨.canceledAt user now, store_writeAll _ _⟩
    | setCustomer user c now =>
      exact ⟨.setCustomer (.new user [] now) c now, store_writeAll _ _⟩
    | subscriptionCreated user id now level =>
      exact ⟨.subscriptionCreated user id now level, store_writeAll _ _⟩
    | levelChanged user now level id =>
      exact ⟨.levelChanged user now level id, store_writeAll _ _⟩
    | _ => exact hstores.elim
  · exact .inl (store_answer rules hstores)

/-- A call keeps every record. -/
theorem continues_answer (rules : Rules) {w : World} (c : Call) {user : Bytes} {s : Subscriber}
    (hs : w.store.find? user = some s) :
    ∃ s', (w.answer rules c).2.store.find? user = some s' ∧ s.Continues s' := by
  obtain h | ⟨op, h⟩ := store_answer_cases rules w c
  · exact ⟨s, by rw [h, hs], .refl s⟩
  · rw [h]
    exact Store.continues_apply hs op

/-- A call leaves every record valid. -/
theorem valid_answer (rules : Rules) {w : World} (c : Call) (hw : w.store.Valid) :
    (w.answer rules c).2.store.Valid := by
  obtain h | ⟨op, h⟩ := store_answer_cases rules w c
  · exact h ▸ hw
  · exact h ▸ hw.apply op

end World

namespace System

/-- However requests take turns, whatever is stored stays the same subscriber's. -/
theorem continues_play {s : System} {user : Bytes} {r : Subscriber}
    (hr : s.course.world.store.find? user = some r) (moves : List (Move (Rules × Luck))) :
    ∃ r', (s.play .inMemory moves).course.world.store.find? user = some r' ∧ r.Continues r' := by
  let P : Course → Prop := fun s => ∃ r', s.world.store.find? user = some r' ∧ r.Continues r'
  refine forall_play_inMemory (P := P) ?_ ?_ ⟨r, hr, .refl r⟩ moves
  · rintro s s' ha ⟨r', hr', hrr'⟩
    refine ⟨r', ?_, hrr'⟩
    rw [ha.world.store]
    exact hr'
  · rintro rules c s ⟨r', hr', hrr'⟩
    obtain ⟨r'', hr'', hr'r''⟩ := World.continues_answer rules c hr'
    exact ⟨r'', hr'', hrr'.trans hr'r''⟩

/-- However requests take turns, every record is filed under its own identity and its fields go
together. -/
theorem valid_play {w : World} (hw : w.Fresh) (moves : List (Move (Rules × Luck))) :
    ((start w).play .inMemory moves).course.world.store.Valid := by
  have hstart : (start w).course.world.store.Valid := by
    rw [show (start w).course.world.store = .empty from hw.store]
    exact Store.valid_empty
  refine forall_play_inMemory (P := fun s => s.world.store.Valid) ?_ ?_ hstart moves
  · intro s s' ha hs
    exact ha.world.store.symm ▸ hs
  · intro rules c s hs
    exact World.valid_answer rules c hs

end System

end Patronage
