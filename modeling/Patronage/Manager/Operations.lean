import Patronage.Manager.Program
/-!
# The operations of the manager

What subscribers can ask for: to be known, to be forgotten, to add a payment method, to subscribe or
move to another level, and to get a credential for their latest payment.  Each operation is a
`Program`: its calls run strictly in order, and what has been done is not undone when a later call
fails.  Every event logged meanwhile carries the subscriber's tag and the operation's name.
-/

namespace Patronage

open Log

namespace Manager

/-- Runs an operation with the subscriber's tag and the operation's name bound. -/
def operation {α : Type} (name : String) (c : Credentials) (p : Program α) : Program α :=
  p.within (.ofList [("subscriber", .text (Subscriber.tag c.user)), ("operation", .text name)])

/-- A write to the store, in which a subscriber that is not stored is refused as not found. -/
def persist {α : Type} (p : Program α) : Program α :=
  p.andThen fun
    | .error (.notStored tag) =>
      .done (.error (.because .notFound (some (Fault.notStoredMessage tag)) (.notStored tag)))
    | r => .done r

/-- Refuses credentials whose tag is not the stored one. -/
def mismatch {α : Type} : Program α := throw (.refusal .forbidden "subscriberId mismatch")

/-- Refuses a processor other than the one a subscriber already has. -/
def conflict {α : Type} : Program α :=
  throw (.refusal .processorConflict "existing processor does not match")

/-- Refuses what is not there. -/
def missing {α : Type} : Program α := throw (.plain .notFound)

/-- Stores the subscriber, or notes the request if it is stored. -/
def updateSubscriber (c : Credentials) : Program Unit :=
  operation "update_subscriber" c do
    match ← .ask (.lookUp c.user c.hmac) with
    | .wrongPassword => mismatch
    | .notStored =>
      let created ← .ask (.create c.user c.hmac c.now)
      if created.isNone then mismatch
    | .found _ => persist (.ask (.accessedAt c.user c.now))

/-- Reads the subscriber. -/
def getSubscriber (c : Credentials) : Program Subscriber :=
  operation "get_subscriber" c do
    match ← .ask (.lookUp c.user c.hmac) with
    | .wrongPassword => mismatch
    | .notStored => missing
    | .found s => return s

/-- Cancels the subscriptions of a customer at its processor; a customer that the processor does not
know has none. -/
def cancelRemote (customer : Customer) : Program Unit := do
  .ask (.processorOf customer.provider)
  (Program.ask (.cancelAll customer.provider customer.id)).andThen fun
    | .error (.processor e) =>
      if e.code = ProcessorError.resourceMissing then
        .write (.info "remote_customer_missing"
          [("processor", .text customer.provider.name), ("customer_id", .text customer.id)])
      else throw (.processor e)
    | r => .ofExcept r

/-- Cancels the subscriptions at the processor and then the subscriber itself. -/
def deleteSubscriber (c : Credentials) : Program Unit :=
  operation "delete_subscriber" c do
    match ← .ask (.lookUp c.user c.hmac) with
    | .found s =>
      if let some customer := s.customer then cancelRemote customer
      persist (.ask (.canceledAt c.user c.now))
    | _ => missing

/-- The subscriber with a customer of a processor, which it is given if it has none. -/
def attach (c : Credentials) (p : Provider) (platform : Platform) (s : Subscriber) :
    Program Subscriber := do
  match s.customer with
  | some customer => if customer.provider = p then return s else conflict
  | none =>
    let customer ← .ask (.createCustomer p c.user platform)
    persist (.ask (.setCustomer s.user ⟨customer.id, p⟩ c.now))

/-- Makes sure that the subscriber has a customer of a processor and starts adding a payment method
for it. -/
def addPaymentMethod (c : Credentials) (p : Provider) (platform : Platform) : Program String :=
  operation "add_payment_method_to_customer" c do
    let s ← attach c p platform (← getSubscriber c)
    match s.customer with
    | some customer => if customer.provider = p then .ask (.setUp p customer.id) else conflict
    | none => conflict

/-- A level that a subscriber asks to be at. -/
structure LevelChoice where
  level : Int
  currency : String
  /-- Makes the change at most once. -/
  key : String
  templateId : String

/-- Moves an existing subscription, unless it is already as it should be. -/
def changeLevel (c : Credentials) (p : Provider) (choice : LevelChoice) (id : String) :
    Program Unit := do
  let s ← .ask (.subscription p id)
  let current ← .ask (.tier p s)
  let wanted ← .ofExcept ((Tier.of choice.level choice.currency).mapError .invalid)
  if current = wanted then
    .write (.debug "subscription_level_unchanged"
      [("subscription_id", .text id), ("level", .number choice.level)])
  else
    if ← .ask (.allows current.level choice.level) then
      let updated ← .ask (.updateSubscription p s choice.templateId choice.level choice.key)
      persist (.ask (.levelChanged c.user c.now choice.level updated))
    else
      throw (.refusal .invalidLevel
        ("Cannot change level from " ++ Text.intString current.level ++ " to " ++
          Text.intString choice.level))

/-- A subscription that waits for the customer is refused as such. -/
def orRequiresAction {α : Type} (p : Program α) : Program α :=
  p.andThen fun
    | .error (.processor e) =>
      if e.code = ProcessorError.requiresAction then
        throw (.because .paymentRequiresAction none (.processor e))
      else throw (.processor e)
    | r => .ofExcept r

/-- Makes a subscription. -/
def subscribe (c : Credentials) (p : Provider) (choice : LevelChoice) (s : Subscriber) :
    Program Unit := do
  match s.customer with
  | none => throw (.refusal .notFound "subscriber has no payment processor customer")
  | some customer =>
    if customer.provider = p then
      let last ←
        match s.subscriptionCreatedAt with
        | some created => .ofExcept (created.epochSeconds.mapError .time)
        | none => pure 0
      let id ← orRequiresAction
        (.ask (.createSubscription p customer.id choice.templateId choice.level last))
      persist (.ask (.subscriptionCreated c.user id c.now choice.level))
    else conflict

/-- Subscribes, or moves the subscription to another level.  `s` is the subscriber as it was read
before. -/
def updateLevel (c : Credentials) (s : Subscriber) (p : Provider) (choice : LevelChoice) :
    Program Unit :=
  operation "update_subscription_level_for_customer" c do
    match s.subscriptionId with
    | some id => changeLevel c p choice id
    | none => subscribe c p choice s

/-- A credential with the payment that it was issued for. -/
structure Receipt where
  credential : Credential
  item : ReceiptItem
  provider : Provider

/-- Reads a credential request; bytes that are none are refused as invalid. -/
def readRequest (bytes : Bytes) : Program CredentialRequest :=
  (Program.ask (.decode bytes)).andThen fun
    | .error (.request e) =>
      throw (.because .invalidArguments (some "invalid receipt credential request") (.request e))
    | r => .ofExcept r

/-- Signs a credential; a request that does not verify is refused as invalid. -/
def sign (r : CredentialRequest) (expiration level : Int) : Program Credential :=
  (Program.ask (.issue r expiration level)).andThen fun
    | .error (.verification e) =>
      throw (.because .invalidArguments (some "receipt credential request failed verification")
        (.verification e))
    | r => .ofExcept r

/-- The digest of a credential request. -/
def fingerprint (r : CredentialRequest) : Except Fault Bytes :=
  r.fingerprint?.elim (.error .unwritable) .ok

/-- Issues a credential for the latest payment.  The payment is noted before anything is signed: it
can be redeemed again with the same request only. -/
def createReceipt (c : Credentials) (bytes : Bytes) : Program Receipt :=
  operation "create_receipt_credentials" c do
    let s ← getSubscriber c
    match s.subscriptionId with
    | none => missing
    | some id =>
      let request ← readRequest bytes
      match s.customer with
      | none => missing
      | some customer =>
        .ask (.processorOf customer.provider)
        let item ← .ask (.receiptItem customer.provider id)
        let print ← .ofExcept (fingerprint request)
        let noted ← .ask (.record ⟨item.id, customer.provider, print, c.now⟩)
        if noted.1 = false ∧ noted.2.fingerprint ≠ print then
          throw (.refusal .receiptAlreadyRedeemed
            ("receipt item " ++ item.id ++ " already redeemed"))
        -- from here on the payment is bound to this request, also if signing fails
        let expires ← .ask (.expiration item)
        let seconds ← .ofExcept (expires.epochSeconds.mapError .time)
        let credential ← sign request seconds item.level
        let event ← .ofExcept <|
          (Audit.receiptIssued c.user item.id customer.provider.name item.level seconds
            (!noted.1)).mapError .time
        .write event
        return ⟨credential, item, customer.provider⟩

end Manager

end Patronage
