import Patronage.Credential.Issuer
import Patronage.Ledger
import Patronage.Processor.Emulator
import Patronage.Subscriber.Store
/-!
# Programs over collaborators

The operations of the manager are written as programs: trees of calls to collaborators, each with
what follows for every answer or fault.  A program does nothing by itself; a `Host` says what each
call does, and `Program.run` runs a program on a host.  Between two calls anything may happen, so a
program also says exactly where operations can interleave.  Main statements:

* `Program.run_bind` — running one program after another;
* `Program.run_within` — the fields bound around a program are put back whatever its result is.
-/

namespace Patronage

open Log

/-- What the manager asks of its collaborators. -/
inductive Call
  /-- Looks a subscriber up in the store. -/
  | lookUp (user hmac : Bytes)
  /-- Stores a new subscriber. -/
  | create (user password : Bytes) (now : Moment)
  /-- Notes a request in the store. -/
  | accessedAt (user : Bytes) (now : Moment)
  /-- Cancels a subscriber in the store. -/
  | canceledAt (user : Bytes) (now : Moment)
  /-- Gives a stored subscriber a customer if it has none. -/
  | setCustomer (user : Bytes) (c : Customer) (now : Moment)
  /-- Notes a new subscription in the store. -/
  | subscriptionCreated (user : Bytes) (id : String) (now : Moment) (level : Int)
  /-- Notes in the store that a subscription was moved. -/
  | levelChanged (user : Bytes) (now : Moment) (level : Int) (id : String)
  /-- Makes sure that a provider has a processor. -/
  | processorOf (p : Provider)
  /-- Makes a customer at a processor. -/
  | createCustomer (p : Provider) (user : Bytes) (platform : Platform)
  /-- Reads a subscription from a processor. -/
  | subscription (p : Provider) (id : String)
  /-- Reads the level and currency off a subscription. -/
  | tier (p : Provider) (s : Subscription)
  /-- Makes a subscription at a processor. -/
  | createSubscription (p : Provider) (customerId templateId : String) (level last : Int)
  /-- Moves a subscription at a processor. -/
  | updateSubscription (p : Provider) (s : Subscription) (templateId : String) (level : Int)
      (key : String)
  /-- Reads the latest payment for a subscription. -/
  | receiptItem (p : Provider) (id : String)
  /-- Cancels the running subscriptions of a customer. -/
  | cancelAll (p : Provider) (customerId : String)
  /-- Notes in the ledger what a payment is redeemed with. -/
  | record (entry : Issuance)
  /-- Reads the bytes of a credential request. -/
  | decode (bytes : Bytes)
  /-- Signs a credential. -/
  | issue (r : CredentialRequest) (expiration level : Int)
  /-- Asks whether a subscription may move between two levels. -/
  | allows (old new : Int)
  /-- Asks when the credential for a payment expires. -/
  | expiration (item : ReceiptItem)
  /-- Starts adding a payment method for a customer. -/
  | setUp (p : Provider) (customerId : String)

namespace Call

/-- What a call answers unless it fails. -/
abbrev Answer : Call → Type
  | .lookUp .. => Lookup
  | .create .. => Option Subscriber
  | .setCustomer .. => Subscriber
  | .createCustomer .. => Customer
  | .subscription .. => Subscription
  | .tier .. => Tier
  | .createSubscription .. | .updateSubscription .. => String
  | .receiptItem .. => ReceiptItem
  | .record .. => Bool × Issuance
  | .decode .. => CredentialRequest
  | .issue .. => Credential
  | .allows .. => Bool
  | .expiration .. => Moment
  | .setUp .. => String
  | .accessedAt .. | .canceledAt .. | .subscriptionCreated .. | .levelChanged ..
  | .processorOf .. | .cancelAll .. => Unit

end Call

/-- A program that asks its collaborators and ends with a result or a fault. -/
inductive Program (α : Type) : Type
  /-- The end. -/
  | done (result : Except Fault α)
  /-- A call, and what follows each of its answers. -/
  | call (c : Call) (next : Except Fault c.Answer → Program α)
  /-- Binds log fields; what they replace is handed on. -/
  | enter (fields : Log.Fields Field) (next : Context.Saved Field → Program α)
  /-- Puts log fields back. -/
  | leave (saved : Context.Saved Field) (next : Program α)
  /-- Writes a log event. -/
  | log (e : Entry) (next : Program α)

namespace Program

variable {α β : Type}

/-- One program, and then another that is given its result, be that a fault. -/
def andThen : Program α → (Except Fault α → Program β) → Program β
  | .done r, f => f r
  | .call c next, f => .call c fun r => (next r).andThen f
  | .enter fields next, f => .enter fields fun s => (next s).andThen f
  | .leave saved next, f => .leave saved (next.andThen f)
  | .log e next, f => .log e (next.andThen f)

/-- One program, and then another unless it failed. -/
def bind (p : Program α) (f : α → Program β) : Program β :=
  p.andThen fun
    | .ok a => f a
    | .error e => .done (.error e)

instance : Monad Program where
  pure a := .done (.ok a)
  bind := bind

instance : MonadExcept Fault Program where
  throw e := .done (.error e)
  tryCatch p f := p.andThen fun
    | .ok a => .done (.ok a)
    | .error e => f e

/-- The program that ends with a given result. -/
def ofExcept (r : Except Fault α) : Program α := .done r

/-- The program that makes one call. -/
def ask (c : Call) : Program c.Answer := .call c .done

/-- The program that writes one log event. -/
def write (e : Entry) : Program Unit := .log e (.done (.ok ()))

/-- A program with log fields bound around it; whatever its result is, they are put back. -/
def within (fields : Log.Fields Field) (p : Program α) : Program α :=
  .enter fields fun saved => p.andThen fun r => .leave saved (.done r)

end Program

/-- What calls and log fields do, in a monad `m`. -/
structure Host (m : Type → Type) where
  call : (c : Call) → m (Except Fault c.Answer)
  enter : Log.Fields Field → m (Context.Saved Field)
  leave : Context.Saved Field → m Unit
  log : Entry → m Unit

namespace Program

variable {α β : Type} {m : Type → Type} [Monad m]

/-- Runs a program on a host. -/
def run (host : Host m) : Program α → m (Except Fault α)
  | .done r => pure r
  | .call c next => do (next (← host.call c)).run host
  | .enter fields next => do (next (← host.enter fields)).run host
  | .leave saved next => do
    host.leave saved
    next.run host
  | .log e next => do
    host.log e
    next.run host

theorem run_andThen [LawfulMonad m] (host : Host m) (p : Program α)
    (f : Except Fault α → Program β) :
    (p.andThen f).run host = p.run host >>= fun r => (f r).run host := by
  induction p with
  | done r => simp [andThen, run]
  | call c next ih => simp [andThen, run, ih]
  | enter fields next ih => simp [andThen, run, ih]
  | leave saved next ih => simp [andThen, run, ih]
  | log e next ih => simp [andThen, run, ih]

/-- Running one program after another. -/
theorem run_bind [LawfulMonad m] (host : Host m) (p : Program α) (f : α → Program β) :
    (p >>= f).run host = p.run host >>= fun
      | .ok a => (f a).run host
      | .error e => pure (.error e) := by
  show (p.andThen _).run host = _
  rw [run_andThen]
  congr 1
  funext r
  cases r <;> rfl

/-- The fields bound around a program are put back whatever its result is. -/
theorem run_within [LawfulMonad m] (host : Host m) (fields : Log.Fields Field) (p : Program α) :
    (p.within fields).run host = (do
      let saved ← host.enter fields
      let r ← p.run host
      host.leave saved
      pure r) := by
  simp [within, run, run_andThen]

end Program

end Patronage
