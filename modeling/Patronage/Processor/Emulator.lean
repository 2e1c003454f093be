import Patronage.Fault
import Patronage.Identifier
import Patronage.Processor.Report
import Patronage.Settings.Basic
/-!
# The emulated payment processor

A payment processor kept in memory: customers, their subscriptions and one payment item for each
billing cycle.  Creating a subscription is repeated without effect for the same customer and the
same previous creation; moving one to another level is repeated without effect under the same
idempotency key.  A subscription, once canceled, stays as it is.
-/

namespace Patronage

open Log Calendar

/-- A customer as the processor knows it. -/
structure RemoteCustomer where
  id : String
  user : Bytes
  platform : Platform
  /-- Whether its next subscription waits for it to confirm the payment. -/
  requiresAction : Bool
deriving DecidableEq, Repr

/-- Whether a subscription runs. -/
inductive Status
  | active | canceled
deriving DecidableEq, Repr

/-- A subscription as the processor knows it. -/
structure Subscription where
  id : String
  customerId : String
  templateId : String
  level : Int
  currency : String
  status : Status
  createdAt : Moment
  canceledAt : Option Moment
  /-- The payment item of each billing cycle billed so far. -/
  items : Assoc Nat String
deriving DecidableEq

namespace Subscription

/-- The subscription canceled. -/
def cancel (s : Subscription) (now : Moment) : Subscription :=
  { s with status := .canceled, canceledAt := some now }

/-- Whether the subscription is a running one of a customer. -/
def isActiveOf (s : Subscription) (customerId : String) : Bool :=
  s.customerId = customerId && s.status = .active

end Subscription

/-- What an idempotency key was first used for. -/
structure LevelRequest where
  subscriptionId : String
  templateId : String
  level : Int
deriving DecidableEq, Repr

/-- An emulated payment processor. -/
structure Emulator where
  provider : Provider
  /-- The lead of the identifiers it hands out. -/
  idLead : String
  billingPeriod : WrittenPeriod
  customers : Assoc String RemoteCustomer
  subscriptions : Assoc String Subscription
  /-- The subscription made for a customer and the seconds of its previous creation. -/
  createdByKey : Assoc (String × Int) String
  /-- What each idempotency key was first used for. -/
  updatedByKey : Assoc String LevelRequest
  /-- The currency of each template. -/
  templates : Assoc String String
deriving DecidableEq

/-- What an emulated processor has to hand: the moment, and the tokens left for identifiers. -/
structure Mint where
  now : Moment
  tokens : TokenSource

namespace Mint

/-- The identifier drawn next. -/
def identifier (m : Mint) (lead : String) (kind : IdKind) : String :=
  Identifier.write lead kind m.tokens.next m.tokens.nextStamp

/-- The supply after a draw. -/
def advance (m : Mint) : TokenSource := m.tokens.advance

end Mint

namespace Emulator

/-- The currency of every template of some levels; of templates that are used twice the last use
counts. -/
def templatesOf (levels : Assoc Int Level) : Assoc String String :=
  .ofList <| levels.values.flatMap fun l => l.prices.entries.map fun e => (e.2.templateId, e.1)

/-- A processor without customers. -/
def ofSettings (provider : Provider) (settings : Settings) : Emulator where
  provider := provider
  idLead := settings.emulator.idLead
  billingPeriod := settings.emulator.billingPeriod
  customers := .empty
  subscriptions := .empty
  createdByKey := .empty
  updatedByKey := .empty
  templates := templatesOf settings.levels

/-- What is logged of a new processor. -/
def initialized (e : Emulator) : Entry :=
  .info "emulated_processor_initialized"
    [("provider", .text e.provider.name), ("billing_period", .text e.billingPeriod.text),
      ("templates", .number e.templates.size)]

/-- The processor in one line. -/
def summary (e : Emulator) : String :=
  s!"EmulatedPaymentProcessor(provider={e.provider.name}, customers={e.customers.size}, " ++
    s!"subscriptions={e.subscriptions.size})"

/-- A fault that the processor reports. -/
def fault (e : Emulator) (code : String) (detail : String) : Fault :=
  .processor ⟨e.provider, code, some detail⟩

/-- A customer that must exist. -/
def customer (e : Emulator) (id : String) : Except Fault RemoteCustomer :=
  (e.customers.get? id).elim
    (.error (e.fault ProcessorError.resourceMissing ("No such customer: " ++ id))) .ok

/-- A subscription that must exist. -/
def subscription (e : Emulator) (id : String) : Except Fault Subscription :=
  (e.subscriptions.get? id).elim
    (.error (e.fault ProcessorError.resourceMissing ("No such subscription: " ++ id))) .ok

/-- The currency of a template that must exist. -/
def currencyOf (e : Emulator) (templateId : String) : Except Fault String :=
  (e.templates.get? templateId).elim
    (.error (e.fault ProcessorError.invalidTemplate ("No such price: " ++ templateId))) .ok

/-- A subscription that must exist and run. -/
def activeSubscription (e : Emulator) (id : String) : Except Fault Subscription := do
  let s ← e.subscription id
  if s.status = .active then return s
  else throw (e.fault ProcessorError.notActive s!"Subscription {id} is canceled")

/-- Makes a customer for a subscriber. -/
def createCustomer (e : Emulator) (mint : Mint) (user : Bytes) (platform : Platform) :
    Outcome (Emulator × TokenSource) Customer :=
  let id := mint.identifier e.idLead .customer
  let e' := { e with customers := e.customers.insert id ⟨id, user, platform, false⟩ }
  .ok (e', mint.advance) ⟨id, e.provider⟩
    [.info "emulated_customer_created"
      [("provider", .text e.provider.name), ("customer_id", .text id),
        ("client_platform", .text platform.word)]]

/-- The processor with a new subscription that stands for a customer and the seconds of its previous
creation. -/
def withSubscription (e : Emulator) (s : Subscription) (last : Int) : Emulator :=
  { e with
    subscriptions := e.subscriptions.insert s.id s
    createdByKey := e.createdByKey.insert (s.customerId, last) s.id }

/-- Makes a subscription for a customer, or answers with the one made before for the same seconds of
its previous creation. -/
def createSubscription (e : Emulator) (mint : Mint) (customerId templateId : String) (level : Int)
    (last : Int) : Outcome (Emulator × TokenSource) String :=
  let unchanged := (e, mint.tokens)
  match e.customer customerId, e.currencyOf templateId with
  | .error f, _ => .fail unchanged f
  | .ok _, .error f => .fail unchanged f
  | .ok c, .ok currency =>
    match e.createdByKey.get? (customerId, last) with
    -- a repeated request gets its subscription whatever has become of it
    | some id =>
      .ok unchanged id
        [.debug "emulated_subscription_create_replayed" [("subscription_id", .text id)]]
    | none =>
      if c.requiresAction then
        .fail unchanged
          (e.fault ProcessorError.requiresAction "Payment needs customer confirmation")
      else
        let id := mint.identifier e.idLead .subscription
        let s : Subscription :=
          ⟨id, customerId, templateId, level, currency, .active, mint.now, none, .empty⟩
        .ok (e.withSubscription s last, mint.advance) id
          [.info "emulated_subscription_created"
            [("provider", .text e.provider.name), ("subscription_id", .text id),
              ("customer_id", .text customerId), ("level", .number level),
              ("currency", .text currency)]]

/-- Moves a running subscription to another level. -/
def moveLevel (e : Emulator) (r : LevelRequest) (key : String) : Outcome Emulator String :=
  match e.activeSubscription r.subscriptionId, e.currencyOf r.templateId with
  | .error f, _ => .fail e f
  | .ok _, .error f => .fail e f
  | .ok s, .ok currency =>
    let s' := { s with currency, templateId := r.templateId, level := r.level }
    let e' := { e with
      subscriptions := e.subscriptions.insert s.id s'
      updatedByKey := e.updatedByKey.insert key r }
    .ok e' s.id
      [.info "emulated_subscription_updated"
        [("provider", .text e.provider.name), ("subscription_id", .text s.id),
          ("old_level", .number s.level), ("new_level", .number r.level)]]

/-- Moves a subscription to another level unless the idempotency key has been used; a key that was
used for the same answers the same, and one that was used for anything else is refused. -/
def updateSubscription (e : Emulator) (r : LevelRequest) (key : String) : Outcome Emulator String :=
  match e.updatedByKey.get? key with
  | some previous =>
    if previous = r then
      .ok e r.subscriptionId
        [.debug "emulated_subscription_update_replayed"
          [("subscription_id", .text r.subscriptionId)]]
    else
      .fail e (e.fault ProcessorError.keyInUse
        s!"Key {key} was used with different request parameters")
  | none => e.moveLevel r key

/-- The level and currency of a subscription as it was read. -/
def tier (s : Subscription) : Except Fault Tier :=
  (Tier.of s.level s.currency).mapError .invalid

/-- The start of a billing cycle, the first one having the number one. -/
def cycleStart (s : Subscription) (period : Period) (cycle : Nat) : Except TimeError Moment := do
  let span ← period.span
  s.createdAt.add (((cycle : Int) - 1) * span)

/-- On clocks that are never set a cycle starts where it does in zones. -/
theorem startOfCycle_zoned (s : Subscription) (period : Period) (cycle : Nat) :
    period.startOfCycle s.createdAt.zoned cycle = Moment.zoned <$> cycleStart s period cycle := by
  simp only [Period.startOfCycle, cycleStart, Moment.add_zoned, map_bind]

/-- The payment item of a subscription for a billing cycle, a new one if none was billed yet. -/
def billCycle (e : Emulator) (mint : Mint) (s : Subscription) (cycle : Nat) :
    String × Emulator × TokenSource :=
  match s.items.get? cycle with
  | some item => (item, e, mint.tokens)
  | none =>
    let item := mint.identifier e.idLead .item
    let s' := { s with items := s.items.insert cycle item }
    (item, { e with subscriptions := e.subscriptions.insert s.id s' }, mint.advance)

/-- What is reported of the payment for a billing cycle. -/
def report (s : Subscription) (period : Period) (cycle : Nat) (item : String) :
    Except Fault ReceiptItem := do
  let paidAt ← (cycleStart s period cycle).mapError .time
  (ReceiptItem.of item paidAt s.level).mapError .invalid

/-- The latest payment for a running subscription. -/
def receiptItem (e : Emulator) (mint : Mint) (id : String) :
    Outcome (Emulator × TokenSource) ReceiptItem :=
  match e.activeSubscription id with
  | .error f => .fail (e, mint.tokens) f
  | .ok s =>
    match e.billingPeriod.period.cyclesElapsed s.createdAt mint.now with
    | .error c => .fail (e, mint.tokens) (.cycle c)
    | .ok cycle =>
      -- the item stays billed even if the payment cannot be reported
      ⟨(e.billCycle mint s cycle).2,
        report s e.billingPeriod.period cycle (e.billCycle mint s cycle).1, []⟩

/-- The running subscriptions of a customer. -/
def activeOf (e : Emulator) (customerId : String) : List Subscription :=
  e.subscriptions.values.filter (·.isActiveOf customerId)

/-- Cancels the running subscriptions of a customer. -/
def cancelAll (e : Emulator) (now : Moment) (customerId : String) : Outcome Emulator Unit :=
  match e.customer customerId with
  | .error f => .fail e f
  | .ok _ =>
    let e' := { e with
      subscriptions :=
        e.subscriptions.mapValues fun s => if s.isActiveOf customerId then s.cancel now else s }
    .ok e' ()
      [.info "emulated_subscriptions_canceled"
        [("provider", .text e.provider.name), ("customer_id", .text customerId),
          ("subscription_ids", .texts ((e.activeOf customerId).map (·.id)))]]

/-- Makes the next subscriptions of a customer wait for it to confirm the payment, or not. -/
def requireAction (e : Emulator) (customerId : String) (required : Bool) : Outcome Emulator Unit :=
  match e.customer customerId with
  | .error f => .fail e f
  | .ok c =>
    .ok { e with customers := e.customers.insert customerId { c with requiresAction := required } }
      () []

/-- The subscriptions of a customer, in the order of their making. -/
def subscriptionsOf (e : Emulator) (customerId : String) : List Subscription :=
  e.subscriptions.values.filter (·.customerId = customerId)

end Emulator

end Patronage
