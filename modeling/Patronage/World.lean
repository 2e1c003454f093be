import Patronage.Catalog
import Patronage.Manager.Operations
import Patronage.Processor.Registry
/-!
# The world that operations run in

All collaborators in memory: the store of subscribers, the ledger, the emulated processors, the
catalog, a clock, the supply of tokens and the log.  `World.host` says what each call of a program
does to them; what is not a collaborator's own business, such as whether a level change is allowed,
is left to `Rules`.
-/

namespace Patronage

open Log

/-- What callers of the manager decide. -/
structure Rules where
  /-- Whether a subscription may move between two levels. -/
  allows : Int → Int → Except Fault Bool
  /-- When the credential for a payment expires. -/
  expiration : ReceiptItem → Except Fault Moment
  /-- Starts adding a payment method for a customer. -/
  setUp : Provider → String → Except Fault String

/-- The rules of a catalog; adding a payment method answers with what it is started with. -/
def Catalog.rules (c : Catalog) : Rules where
  allows old new := .ok (c.allows old new)
  expiration item := (c.expiration item).mapError .time
  setUp _ customerId := .ok customerId

/-- All collaborators in memory. -/
structure World where
  store : Store
  ledger : Ledger
  registry : Registry
  catalog : Catalog
  signer : Signer
  clock : Moment
  tokens : TokenSource
  /-- The log fields bound at the moment. -/
  context : Context Field
  /-- The events written so far. -/
  events : List Entry

namespace World

variable {α : Type}

/-- Writes an event with the log fields bound at the moment. -/
def write (w : World) (e : Entry) : World := { w with events := w.events ++ [w.context.complete e] }

/-- Writes events one after the other. -/
def writeAll (w : World) (es : List Entry) : World := es.foldl write w

/-- What processors have to hand. -/
def mint (w : World) : Mint := ⟨w.clock, w.tokens⟩

/-- The world with its clock and that of the system set to the same moment. -/
def setClocks (w : World) (now : Moment) : World :=
  { w with clock := now, tokens := w.tokens.stampedAt now.epochMillis }

/-- The world without subscribers. -/
def build (settings : Settings) (providers : List Provider) (clock : Moment) (signer : Signer) :
    Except DuplicateProvider World := do
  let emulators := providers.map (Emulator.ofSettings · settings)
  let registry ← Registry.ofList emulators
  let tokens := TokenSource.counting.stampedAt clock.epochMillis
  let w : World := ⟨.empty, .empty, registry, ⟨settings⟩, signer, clock, tokens, .empty, []⟩
  return w.writeAll <| emulators.map Emulator.initialized ++
    [registry.initialized,
      .info "subscription_manager_initialized"
        [("providers", .texts (registry.providers.map (·.name)))]]

/-! ### What calls do -/

/-- The world after an operation on the store. -/
def withStore (w : World) (o : Outcome Store α) : Except Fault α × World :=
  (o.answer, { w with store := o.state }.writeAll o.events)

/-- The world after an operation on the ledger. -/
def withLedger (w : World) (o : Outcome Ledger α) : Except Fault α × World :=
  (o.answer, { w with ledger := o.state }.writeAll o.events)

/-- The world after an operation on a processor that must be registered. -/
def withProcessor (w : World) (p : Provider) (act : Emulator → Outcome Emulator α) :
    Except Fault α × World :=
  match w.registry.get p with
  | .error f => (.error f, w)
  | .ok e =>
    let o := act e
    (o.answer, { w with registry := w.registry.set p o.state }.writeAll o.events)

/-- The world after an operation on a processor that may draw identifiers. -/
def withMint (w : World) (p : Provider)
    (act : Emulator → Mint → Outcome (Emulator × TokenSource) α) : Except Fault α × World :=
  match w.registry.get p with
  | .error f => (.error f, w)
  | .ok e =>
    let o := act e w.mint
    (o.answer,
      { w with registry := w.registry.set p o.state.1, tokens := o.state.2 }.writeAll o.events)

/-- The answer of a processor that must be registered, which nothing changes. -/
def asking (w : World) (p : Provider) (act : Emulator → Except Fault α) : Except Fault α × World :=
  (w.registry.get p >>= act, w)

/-- What a call answers, and the world after it. -/
def answer (rules : Rules) (w : World) : (c : Call) → Except Fault c.Answer × World
  | .lookUp user hmac => (.ok (w.store.lookup user hmac), w)
  | .create user password now => w.withStore (w.store.create user password now)
  | .accessedAt user now => w.withStore (w.store.accessedAt user now)
  | .canceledAt user now => w.withStore (w.store.canceledAt user now)
  | .setCustomer user c now => w.withStore (w.store.setCustomer user c now)
  | .subscriptionCreated user id now level =>
    w.withStore (w.store.subscriptionCreated user id now level)
  | .levelChanged user now level id => w.withStore (w.store.levelChanged user now level id)
  | .processorOf p => w.asking p fun _ => .ok ()
  | .createCustomer p user platform => w.withMint p fun e m => e.createCustomer m user platform
  | .subscription p id => w.asking p fun e => e.subscription id
  | .tier p s => w.asking p fun _ => Emulator.tier s
  | .createSubscription p customerId templateId level last =>
    w.withMint p fun e m => e.createSubscription m customerId templateId level last
  | .updateSubscription p s templateId level key =>
    w.withProcessor p fun e => e.updateSubscription ⟨s.id, templateId, level⟩ key
  | .receiptItem p id => w.withMint p fun e m => e.receiptItem m id
  | .cancelAll p customerId => w.withProcessor p fun e => e.cancelAll w.clock customerId
  | .record entry => w.withLedger (w.ledger.record entry)
  | .decode bytes => ((CredentialRequest.decode bytes).mapError .request, w)
  | .issue r expiration level =>
    ((Credential.issue w.signer r expiration level).mapError .verification, w)
  | .allows old new => (rules.allows old new, w)
  | .expiration item => (rules.expiration item, w)
  | .setUp p customerId => (rules.setUp p customerId, w)

/-- The host that works on a world. -/
def host (rules : Rules) : Host (StateM World) where
  call c := fun w => w.answer rules c
  enter fields := fun w => (w.context.save fields, { w with context := w.context.bind fields })
  leave saved := fun w => ((), { w with context := w.context.restore saved })
  log e := fun w => ((), w.write e)

/-- Runs an operation from start to end. -/
def perform (rules : Rules) (p : Program α) (w : World) : Except Fault α × World :=
  p.run (host rules) w

end World

end Patronage
