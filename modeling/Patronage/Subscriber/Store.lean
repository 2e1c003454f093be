import Patronage.Fault
import Patronage.Log.Audit
/-!
# The store of subscribers

Subscribers by identity.  Every write concerns one subscriber and is conditional: storing a
subscriber that exists answers with it only if the tag agrees, a customer is given only to a
subscriber without one, and updates of an identity that is not stored fail.  Main statements:

* `Store.get?_update` — an update changes its own subscriber and no other;
* `Store.update_eq_fail` — an update of an identity that is not stored changes nothing.
-/

namespace Patronage

open Log

/-- Subscribers by identity. -/
structure Store where
  subscribers : Assoc Bytes Subscriber
deriving DecidableEq

/-- What looking a subscriber up answers. -/
inductive Lookup
  | found (s : Subscriber)
  | notStored
  | wrongPassword
deriving DecidableEq

namespace Store

/-- The store without subscribers. -/
def empty : Store := ⟨.empty⟩

/-- The subscriber with an identity, no tag being checked. -/
def find? (store : Store) (user : Bytes) : Option Subscriber := store.subscribers.get? user

/-- The number of subscribers. -/
def size (store : Store) : Nat := store.subscribers.size

/-- The store in one line. -/
def summary (store : Store) : String := s!"InMemorySubscriberStore(subscribers={store.size})"

/-- Looks a subscriber up and checks its tag. -/
def lookup (store : Store) (user hmac : Bytes) : Lookup :=
  match store.find? user with
  | none => .notStored
  | some s => if s.password = hmac then .found s else .wrongPassword

/-- Stores a new subscriber and answers with it.  If the identity is stored already, the answer is
that subscriber if the tag agrees, and nothing else. -/
def create (store : Store) (user password : Bytes) (now : Moment) :
    Outcome Store (Option Subscriber) :=
  match store.find? user with
  | some s =>
    if s.password = password then .ok store (some s) []
    else .ok store none [Audit.createConflict user]
  | none =>
    let s := Subscriber.new user password now
    .ok ⟨store.subscribers.insert user s⟩ (some s) [Audit.created user now]

/-- Changes a stored subscriber; answers and logs what `report` makes of it before and after. -/
def update {α : Type} (store : Store) (user : Bytes) (change : Subscriber → Subscriber)
    (report : Subscriber → Subscriber → α × Entry) : Outcome Store α :=
  match store.find? user with
  | none => .fail store (.notStored (Subscriber.tag user))
  | some s =>
    let r := report s (change s)
    .ok ⟨store.subscribers.insert user (change s)⟩ r.1 [r.2]

/-- Notes a request. -/
def accessedAt (store : Store) (user : Bytes) (now : Moment) : Outcome Store Unit :=
  store.update user (·.accessed now) fun _ _ => ((), Audit.accessed user now)

/-- Cancels a subscriber. -/
def canceledAt (store : Store) (user : Bytes) (now : Moment) : Outcome Store Unit :=
  store.update user (·.canceled now) fun s _ =>
    ((), Audit.canceled user now s.customer.isSome)

/-- Gives a subscriber a customer if it has none and answers with the subscriber as it is then. -/
def setCustomer (store : Store) (user : Bytes) (c : Customer) (now : Moment) :
    Outcome Store Subscriber :=
  store.update user (·.withCustomer c now) fun before after =>
    let held := after.customer.getD c
    (after, Audit.customerSet user held.provider.name held.id before.customer.isNone)

/-- Notes a new subscription. -/
def subscriptionCreated (store : Store) (user : Bytes) (id : String) (now : Moment) (level : Int) :
    Outcome Store Unit :=
  store.update user (·.subscribed id level now) fun s _ =>
    ((), Audit.levelChanged user id s.subscriptionLevel level (some "subscription_created"))

/-- Notes that a subscription was moved to a level. -/
def levelChanged (store : Store) (user : Bytes) (now : Moment) (level : Int) (id : String) :
    Outcome Store Unit :=
  store.update user (·.movedTo id level now) fun s _ =>
    ((), Audit.levelChanged user id s.subscriptionLevel level (some "level_changed"))

/-! ### Laws -/

variable {α : Type}

/-- An update changes its own subscriber and no other. -/
theorem get?_update (store : Store) (user other : Bytes) (change : Subscriber → Subscriber)
    (report : Subscriber → Subscriber → α × Entry) :
    (store.update user change report).state.find? other =
      if user = other then (store.find? other).map change else store.find? other := by
  unfold update
  cases h : store.find? user with
  | none =>
    by_cases hu : user = other
    · subst hu; simp [Outcome.fail, h]
    · simp [Outcome.fail, hu]
  | some s =>
    by_cases hu : user = other
    · subst hu; simp [Outcome.ok, find?, Assoc.get?_insert] at *; simp [h]
    · simp [Outcome.ok, find?, hu]

/-- An update of an identity that is not stored changes nothing. -/
theorem update_eq_fail {store : Store} {user : Bytes} (h : store.find? user = none)
    (change : Subscriber → Subscriber) (report : Subscriber → Subscriber → α × Entry) :
    store.update user change report = .fail store (.notStored (Subscriber.tag user)) := by
  simp [update, h]

end Store

end Patronage
