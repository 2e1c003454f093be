import Mathlib.Data.List.Nodup
import Patronage.Proofs.History
import Patronage.Proofs.Inscription
import Patronage.Proofs.Renaming
/-!
# The audit trail told again

An `Account` is what the audit trail tells of a subscriber: whether it is stored, its customer, its
subscription and its cancellation.  Replaying reads the events that carry the subscriber's tag, in
order, and nothing else.  Main statements:

* `Account.Told.faithful` — what one operation writes carries the account on;
* `Store.told_apply` — every operation writes what it does with a record, and nothing besides;
* `Store.replay_trail` — the trail of a run tells what is stored at its end.
-/

namespace Patronage

open Log

theorem Provider.ofName?_name (p : Provider) : Provider.ofName? p.name = some p := by
  cases p <;> decide

/-! ### Reading events -/

namespace Log.Event

/-- The text in a field of an event. -/
def text? (e : Entry) (k : String) : Option String :=
  match e.fields.get? k with
  | some (.text s) => some s
  | _ => none

/-- The number in a field of an event. -/
def number? (e : Entry) (k : String) : Option Int :=
  match e.fields.get? k with
  | some (.number n) => some n
  | _ => none

/-- The customer that an event names. -/
def customer? (e : Entry) : Option Customer :=
  match e.text? "customer_id", (e.text? "processor").bind Provider.ofName? with
  | some id, some provider => some ⟨id, provider⟩
  | _, _ => none

/-- The names of the events that an account is read from. -/
def telling : List String :=
  ["subscriber_created", "processor_customer_set", "subscription_level_changed",
    "subscriber_canceled"]

/-- The event tells something of a subscriber. -/
def TellsOf (user : Bytes) (e : Entry) : Prop :=
  e.name ∈ telling ∧ e.text? "subscriber" = some (Subscriber.tag user)

instance (user : Bytes) (e : Entry) : Decidable (e.TellsOf user) :=
  inferInstanceAs (Decidable (_ ∧ _))

end Log.Event

/-- What is told of a stored subscriber. -/
structure Account where
  customer : Option Customer
  subscriptionId : Option String
  subscriptionLevel : Option Int
  canceledAt : Option Moment
deriving DecidableEq

namespace Account

/-- What is to be told of a record. -/
def ofRecord (s : Subscriber) : Account :=
  ⟨s.customer, s.subscriptionId, s.subscriptionLevel, s.canceledAt⟩

/-- What is told of a subscriber that has only been stored. -/
def new : Account := ⟨none, none, none, none⟩

/-- What an event makes of what was told before it. -/
def read (told : Option Account) (e : Entry) : Option Account :=
  if e.name = "subscriber_created" then some new
  else told.map fun a =>
    if e.name = "processor_customer_set" then { a with customer := e.customer? }
    else if e.name = "subscription_level_changed" then
      { a with subscriptionId := e.text? "subscription_id",
               subscriptionLevel := e.number? "new_level" }
    else if e.name = "subscriber_canceled" then
      { a with canceledAt := (e.text? "canceled_at").bind Moment.ofText?,
               subscriptionId := none, subscriptionLevel := none }
    else a

/-- What events tell, one after the other. -/
def replay (es : List Entry) : Option Account := es.foldl read none

/-- The events of a log that tell something of a subscriber. -/
def trail (user : Bytes) (es : List Entry) : List Entry := es.filter fun e => e.TellsOf user

/-- The new level of the last change of level, unless a cancellation came since. -/
def lastLevel (es : List Entry) : Option Int :=
  (es.reverse.find? fun e =>
    e.name = "subscription_level_changed" ∨ e.name = "subscriber_canceled").bind fun e =>
      if e.name = "subscription_level_changed" then e.number? "new_level" else none

theorem replay_concat (es : List Entry) (e : Entry) : replay (es ++ [e]) = read (replay es) e := by
  simp [replay, List.foldl_append]

theorem lastLevel_concat (es : List Entry) (e : Entry) :
    lastLevel (es ++ [e]) =
      if e.name = "subscription_level_changed" then e.number? "new_level"
      else if e.name = "subscriber_canceled" then none
      else lastLevel es := by
  simp only [lastLevel, List.reverse_append, List.reverse_singleton, List.singleton_append,
    List.find?_cons]
  split <;> split <;> simp_all

/-! ### What is written -/

variable (user : Bytes) (now : Moment)

theorem read_created (told : Option Account) : read told (Audit.created user now) = some new := rfl

theorem read_customerSet (a : Account) (c : Customer) (won : Bool) :
    read (some a) (Audit.customerSet user c.provider.name c.id won) =
      some { a with customer := some c } := by
  have hcustomer : (Audit.customerSet user c.provider.name c.id won).customer? = some c := by
    have hid : (Audit.customerSet user c.provider.name c.id won).text? "customer_id" = some c.id :=
      rfl
    have hprocessor : (Audit.customerSet user c.provider.name c.id won).text? "processor" =
      some c.provider.name := rfl
    simp only [Event.customer?, hid, hprocessor, Option.bind_some, Provider.ofName?_name]
  exact congrArg (fun o => some { a with customer := o }) hcustomer

theorem read_levelChanged (a : Account) (id : String) (old : Option Int) (level : Int)
    (reason : Option String) :
    read (some a) (Audit.levelChanged user id old level reason) =
      some { a with subscriptionId := some id, subscriptionLevel := some level } := rfl

theorem read_canceled (a : Account) (had : Bool) :
    read (some a) (Audit.canceled user now had) =
      some { a with
        canceledAt := some now
        subscriptionId := none
        subscriptionLevel := none } := by
  have hread : read (some a) (Audit.canceled user now had) =
    some { a with
      canceledAt := ((Audit.canceled user now had).text? "canceled_at").bind Moment.ofText?
      subscriptionId := none
      subscriptionLevel := none } := rfl
  have htext : (Audit.canceled user now had).text? "canceled_at" = some now.toText := rfl
  rw [hread, htext, Option.bind_some, Moment.ofText?_toText]

/-- What is written of a subscriber while an account becomes another one. -/
inductive Told : Option Account → List Entry → Option Account → Prop
  | nothing (told : Option Account) : Told told [] told
  | created (now : Moment) : Told none [Audit.created user now] (some new)
  | customerSet (a : Account) (c : Customer) (won : Bool) :
    Told (some a) [Audit.customerSet user c.provider.name c.id won]
      (some { a with customer := some c })
  | levelChanged (a : Account) (id : String) (level : Int) (reason : Option String) :
    Told (some a) [Audit.levelChanged user id a.subscriptionLevel level reason]
      (some { a with subscriptionId := some id, subscriptionLevel := some level })
  | canceled (a : Account) (now : Moment) (had : Bool) :
    Told (some a) [Audit.canceled user now had]
      (some { a with canceledAt := some now, subscriptionId := none, subscriptionLevel := none })

/-- Every change of level names the level that was last told before it. -/
def Chained (es : List Entry) : Prop :=
  ∀ before e after, es = before ++ e :: after → e.name = "subscription_level_changed" →
    e.fields.get? "old_level" = some (.optionalNumber (lastLevel before))

/-- Events that tell an account and chain its levels. -/
structure Faithful (es : List Entry) (told : Option Account) : Prop where
  replay : replay es = told
  level : lastLevel es = told.bind (·.subscriptionLevel)
  chained : Chained es

theorem faithful_nil : Faithful [] none := ⟨rfl, rfl, by simp [Chained]⟩

theorem Chained.concat {es : List Entry} (h : Chained es) {e : Entry}
    (he : e.name = "subscription_level_changed" →
      e.fields.get? "old_level" = some (.optionalNumber (lastLevel es))) : Chained (es ++ [e]) := by
  intro before b after hsplit hb
  obtain ⟨rfl, rfl, -⟩ | ⟨front, hes, -⟩ := concat_eq_append_cons.1 hsplit
  · exact he hb
  · exact h before b front hes hb

variable {user}

/-- What one operation writes carries an account on. -/
theorem Told.faithful {told told' : Option Account} {new : List Entry}
    (h : Told user told new told') {es : List Entry} (hes : Faithful es told) :
    Faithful (es ++ new) told' := by
  obtain ⟨hreplay, hlevel, hchained⟩ := hes
  cases h with
  | nothing => exact (List.append_nil es).symm ▸ ⟨hreplay, hlevel, hchained⟩
  | created now =>
    have hne : "subscriber_created" ≠ "subscription_level_changed" := by decide
    refine ⟨?_, ?_, hchained.concat fun h => absurd h hne⟩
    · rw [replay_concat, hreplay, read_created]
    · rw [lastLevel_concat]
      exact hlevel
  | customerSet a c won =>
    have hne : "processor_customer_set" ≠ "subscription_level_changed" := by decide
    refine ⟨?_, ?_, hchained.concat fun h => absurd h hne⟩
    · rw [replay_concat, hreplay, read_customerSet]
    · rw [lastLevel_concat]
      exact hlevel
  | levelChanged a id level reason =>
    refine ⟨?_, ?_, hchained.concat fun _ => ?_⟩
    · rw [replay_concat, hreplay, read_levelChanged]
    · rw [lastLevel_concat]
      rfl
    · rw [hlevel]
      rfl
  | canceled a now had =>
    have hne : "subscriber_canceled" ≠ "subscription_level_changed" := by decide
    refine ⟨?_, ?_, hchained.concat fun h => absurd h hne⟩
    · rw [replay_concat, hreplay, read_canceled]
    · rw [lastLevel_concat]
      rfl

end Account

namespace Store

open Account

/-- What operations log, one after the other. -/
def log (store : Store) : List Operation → List Entry
  | [] => []
  | op :: ops => (store.apply op).events ++ (store.apply op).state.log ops

/-- What is to be told of a subscriber. -/
def account (store : Store) (user : Bytes) : Option Account := (store.find? user).map .ofRecord

variable {store : Store} {v : Bytes}

/-! ### One operation -/

/-- An update reports what it found and what it made of it. -/
theorem events_update {α : Type} (store : Store) (user : Bytes) (change : Subscriber → Subscriber)
    (report : Subscriber → Subscriber → α × Entry) :
    (store.update user change report).events =
      ((store.find? user).map fun s => (report s (change s)).2).toList := by
  unfold update
  cases store.find? user <;> rfl

/-- Every event of an operation carries the tag of the subscriber it is about. -/
theorem text?_of_mem_events {op : Operation} {e : Entry} (he : e ∈ (store.apply op).events) :
    e.text? "subscriber" = some (Subscriber.tag op.user) := by
  have update : ∀ {α : Type} {user : Bytes} {change : Subscriber → Subscriber}
      {report : Subscriber → Subscriber → α × Entry},
      e ∈ (store.update user change report).events →
      (∀ s, (report s (change s)).2.text? "subscriber" = some (Subscriber.tag user)) →
      e.text? "subscriber" = some (Subscriber.tag user) := by
    intro α user change report hmem hreport
    rw [events_update] at hmem
    cases hfind : store.find? user with
    | none => simp [hfind] at hmem
    | some s =>
      obtain rfl : e = (report s (change s)).2 := by simpa [hfind] using hmem
      exact hreport s
  cases op with
  | lookUp user hmac => cases he
  | create user password now =>
    change e ∈ (store.create user password now).events at he
    unfold create at he
    split at he
    · split at he
      · cases he
      · obtain rfl := List.mem_singleton.1 he
        rfl
    · obtain rfl := List.mem_singleton.1 he
      rfl
  | accessedAt | canceledAt | setCustomer | subscriptionCreated | levelChanged =>
    exact update he fun s => rfl

/-- Tags stand for the first four bytes. -/
theorem take_eq_of_tag_eq {u v : Bytes} (h : Subscriber.tag u = Subscriber.tag v) :
    u.take 4 = v.take 4 := by
  rw [Subscriber.tag_eq, Subscriber.tag_eq, String.ofList_inj] at h
  have hread := congrArg Bytes.ofHexChars? h
  rwa [Bytes.ofHexChars?_hexChars, Bytes.ofHexChars?_hexChars, Option.some.injEq] at hread

theorem trail_of_tells {user : Bytes} {e : Entry} (name : String) (hname : e.name = name)
    (htelling : name ∈ Event.telling) (htag : e.text? "subscriber" = some (Subscriber.tag user)) :
    trail user [e] = [e] := by
  have htells : e.TellsOf user := ⟨hname ▸ htelling, htag⟩
  simp [trail, htells]

theorem trail_of_not_telling {user : Bytes} {e : Entry} (name : String) (hname : e.name = name)
    (htelling : name ∉ Event.telling) : trail user [e] = [] := by
  have htells : ¬e.TellsOf user := fun h => htelling (hname ▸ h.1)
  simp [trail, htells]

/-- An update tells what its report tells of the record that is found. -/
theorem told_update {α : Type} {user : Bytes} {change : Subscriber → Subscriber}
    {report : Subscriber → Subscriber → α × Entry}
    (h : ∀ s, Told user (some (.ofRecord s)) (trail user [(report s (change s)).2])
      (some (.ofRecord (change s)))) :
    Told user (store.account user) (trail user (store.update user change report).events)
      ((store.update user change report).state.account user) := by
  rw [events_update, account, account, get?_update, if_pos rfl]
  cases store.find? user with
  | none => exact .nothing none
  | some s => exact h s

/-- What an operation writes of its own subscriber is what becomes of the record. -/
theorem told_apply_self (store : Store) (op : Operation) :
    Told op.user (store.account op.user) (trail op.user (store.apply op).events)
      ((store.apply op).state.account op.user) := by
  cases op with
  | lookUp user hmac => exact .nothing _
  | create user password now =>
    change Told user (store.account user) (trail user (store.create user password now).events)
      ((store.create user password now).state.account user)
    rw [account, account, find?_create]
    unfold create
    cases store.find? user with
    | some s =>
      rw [if_neg (by simp)]
      dsimp only
      split
      · exact .nothing _
      · have hconflict : trail user [Audit.createConflict user] = [] :=
          trail_of_not_telling "subscriber_create_conflict" rfl (by decide)
        exact hconflict.symm ▸ .nothing _
    | none =>
      rw [if_pos ⟨rfl, rfl⟩]
      have hcreated : trail user [Audit.created user now] = [Audit.created user now] :=
        trail_of_tells "subscriber_created" rfl (by decide) rfl
      exact hcreated.symm ▸ .created now
  | accessedAt user now =>
    refine told_update fun s => ?_
    have haccessed : trail user [Audit.accessed user now] = [] :=
      trail_of_not_telling "subscriber_accessed" rfl (by decide)
    exact haccessed.symm ▸ .nothing _
  | canceledAt user now =>
    refine told_update fun s => ?_
    rw [trail_of_tells "subscriber_canceled" rfl (by decide) rfl]
    exact .canceled (.ofRecord s) now _
  | setCustomer record c now =>
    refine told_update fun s => ?_
    rw [trail_of_tells "processor_customer_set" rfl (by decide) rfl]
    -- a customer that was given before is the one that is told again
    obtain ⟨held, hheld, haccount⟩ : ∃ held, (s.withCustomer c now).customer.getD c = held ∧
        Account.ofRecord (s.withCustomer c now) =
          { Account.ofRecord s with customer := some held } := by
      unfold Subscriber.withCustomer
      split
      · rename_i held hs
        exact ⟨held, by rw [hs, Option.getD_some], by simp [ofRecord, hs]⟩
      · exact ⟨c, rfl, rfl⟩
    rw [haccount]
    dsimp only
    rw [hheld]
    exact .customerSet (.ofRecord s) held _
  | subscriptionCreated user id now level =>
    refine told_update fun s => ?_
    rw [trail_of_tells "subscription_level_changed" rfl (by decide) rfl]
    exact .levelChanged (.ofRecord s) id level _
  | levelChanged user now level id =>
    refine told_update fun s => ?_
    rw [trail_of_tells "subscription_level_changed" rfl (by decide) rfl]
    exact .levelChanged (.ofRecord s) id level _

/-- An operation leaves the records of all other subscribers as they are. -/
theorem find?_apply_of_ne {op : Operation} (h : op.user ≠ v) :
    (store.apply op).state.find? v = store.find? v := by
  cases hs : store.find? v with
  | some s => rw [find?_apply_of_some hs, Operation.effect, if_neg h]
  | none =>
    refine Option.eq_none_iff_forall_ne_some.2 fun s hs' => ?_
    obtain ⟨password, now, rfl, -⟩ := find?_apply_of_none hs op hs'
    exact h rfl

/-- What an operation writes that carries a subscriber's tag is what becomes of the subscriber's
record, unless the operation is about another subscriber with that tag. -/
theorem told_apply (store : Store) {op : Operation} (h : op.user.take 4 = v.take 4 → op.user = v) :
    Told v (store.account v) (trail v (store.apply op).events)
      ((store.apply op).state.account v) := by
  by_cases hu : op.user = v
  · subst hu
    exact told_apply_self store op
  · have hnone : trail v (store.apply op).events = [] := by
      refine List.filter_eq_nil_iff.2 fun e he => ?_
      rw [decide_eq_true_iff]
      rintro ⟨-, htag⟩
      rw [text?_of_mem_events he, Option.some.injEq] at htag
      exact hu (h (take_eq_of_tag_eq htag))
    rw [hnone, account, account, find?_apply_of_ne hu]
    exact .nothing _

/-! ### Many operations -/

theorem faithful_log {es : List Entry} (ops : List Operation)
    (h : ∀ op ∈ ops, op.user.take 4 = v.take 4 → op.user = v)
    (hes : Faithful es (store.account v)) :
    Faithful (es ++ trail v (store.log ops)) ((store.run ops).account v) := by
  induction ops generalizing store es with
  | nil =>
    have hnil : es ++ trail v (store.log []) = es := List.append_nil es
    rwa [hnil]
  | cons op ops ih =>
    have htold := told_apply store (h op List.mem_cons_self)
    have hrest := ih (fun op hop => h op (List.mem_cons_of_mem _ hop)) (htold.faithful hes)
    rw [List.append_assoc] at hrest
    have hsplit : trail v (store.log (op :: ops)) =
      trail v (store.apply op).events ++ trail v ((store.apply op).state.log ops) :=
      List.filter_append ..
    rw [hsplit]
    exact hrest

/-- Among subscribers that differ in their first four bytes, the trail of a run tells what is stored
of each: replaying it gives its account, if there is one, and every change of level in it names the
level of the change before, or none if there was no such change or a cancellation came since. -/
theorem replay_trail {users : List Bytes} (hapart : (users.map (·.take 4)).Nodup)
    {ops : List Operation} (hops : ∀ op ∈ ops, op.user ∈ users) {user : Bytes}
    (huser : user ∈ users) :
    replay (trail user (log .empty ops)) = ((run .empty ops).find? user).map .ofRecord ∧
      ∀ before e after, trail user (log .empty ops) = before ++ e :: after →
        e.name = "subscription_level_changed" →
        e.fields.get? "old_level" = some (.optionalNumber (lastLevel before)) := by
  have hown : ∀ op ∈ ops, op.user.take 4 = user.take 4 → op.user = user := fun op hop htake =>
    List.inj_on_of_nodup_map hapart (hops op hop) huser htake
  have hfaithful : Faithful ([] ++ trail user (log .empty ops)) ((run .empty ops).account user) :=
    faithful_log ops hown faithful_nil
  exact ⟨hfaithful.replay, hfaithful.chained⟩

end Store

namespace Sample

/-- Somebody else is stored meanwhile; a second tag, a second customer and a subscriber that is not
stored are refused; and the subscription that was resumed is moved. -/
def auditRecord : List Store.Operation :=
  resumeRecord ++
    [.create [1, 2, 3, 4, 5] [6] .epoch,
      .create credentials.user [0xcc] .epoch,
      .levelChanged [2] .epoch 500 "emulator_sub_3",
      .setCustomer (.new credentials.user [] .epoch) ⟨"emulator_cus_2", .braintree⟩ .epoch,
      .levelChanged credentials.user .epoch 2000 "emulator_sub_2"]

end Sample

open Sample in
/-- The trail of one subscriber among three. -/
theorem Store.replay_trail_of_auditRecord :
    Account.replay (Account.trail credentials.user (log .empty auditRecord)) =
        some ⟨some ⟨"emulator_cus_1", .stripe⟩, some "emulator_sub_2", some 2000, some .epoch⟩ ∧
      Account.Chained (Account.trail credentials.user (log .empty auditRecord)) := by
  have hstored : ((run .empty auditRecord).find? credentials.user).map Account.ofRecord =
      some ⟨some ⟨"emulator_cus_1", .stripe⟩, some "emulator_sub_2", some 2000, some .epoch⟩ := by
    decide +kernel
  have hapart : ([credentials.user, [1, 2, 3, 4, 5], [2]].map (·.take 4)).Nodup := by decide
  have hops : ∀ op ∈ auditRecord, op.user ∈ [credentials.user, [1, 2, 3, 4, 5], [2]] := by decide
  obtain ⟨hreplay, hchained⟩ := replay_trail hapart hops List.mem_cons_self
  exact ⟨hreplay.trans hstored, hchained⟩

end Patronage
