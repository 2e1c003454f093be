import Patronage.Calendar.Text
import Patronage.Schema.Field
/-!
# Subscribers

A subscriber is an anonymous identity, bytes chosen by the client, with an authentication tag.  What
is kept about it is a `Subscriber`: when it was seen, the payment processor's customer it was given,
and its subscription.  `Credentials` come with every request.  Identities are never shown whole:
`Subscriber.tag` is what stands for them.
-/

namespace Patronage

open Text Schema

/-- A payment provider. -/
inductive Provider
  | stripe | braintree | googlePlayBilling | appleAppStore
deriving DecidableEq, Repr

namespace Provider

/-- Every provider. -/
def all : List Provider := [.stripe, .braintree, .googlePlayBilling, .appleAppStore]

/-- The name of a provider. -/
def name : Provider → String
  | .stripe => "STRIPE"
  | .braintree => "BRAINTREE"
  | .googlePlayBilling => "GOOGLE_PLAY_BILLING"
  | .appleAppStore => "APPLE_APP_STORE"

/-- The number of a provider. -/
def number : Provider → Int
  | .stripe => 1
  | .braintree => 2
  | .googlePlayBilling => 3
  | .appleAppStore => 4

/-- The provider with a given name. -/
def ofName? (s : String) : Option Provider := all.find? (·.name == s)

/-- The provider with a given number. -/
def ofNumber? (n : Int) : Option Provider := all.find? (·.number == n)

/-- A provider from a value that is its number. -/
def ofValue (v : Value) : Checked Provider := choice whole ofNumber? v

end Provider

/-- The platform of a client. -/
inductive Platform
  | android | ios | desktop
deriving DecidableEq, Repr

namespace Platform

/-- The word for a platform. -/
def word : Platform → String
  | .android => "android"
  | .ios => "ios"
  | .desktop => "desktop"

/-- The platform with a given word. -/
def ofWord? (s : String) : Option Platform :=
  [Platform.android, .ios, .desktop].find? (·.word == s)

end Platform

/-- A customer of a payment processor. -/
structure Customer where
  id : String
  provider : Provider
deriving DecidableEq, Repr

namespace Customer

/-- A customer from the fields of a document. -/
def ofFields (fields : List (Value × Value)) : Checked Customer :=
  (Checked.both (required fields "customer_id" Schema.text)
    (required fields "processor" Provider.ofValue)).map fun p => ⟨p.1, p.2⟩

end Customer

/-- What a request is authorized with, and when it was made. -/
structure Credentials where
  user : Bytes
  hmac : Bytes
  now : Moment
deriving DecidableEq

/-- What is kept about a subscriber. -/
structure Subscriber where
  user : Bytes
  /-- The authentication tag that requests must carry. -/
  password : Bytes
  createdAt : Moment
  accessedAt : Moment
  canceledAt : Option Moment
  customer : Option Customer
  customerUpdatedAt : Option Moment
  subscriptionId : Option String
  subscriptionLevel : Option Int
  subscriptionCreatedAt : Option Moment
  levelChangedAt : Option Moment
deriving DecidableEq

namespace Subscriber

/-- A subscriber on its first request. -/
def new (user password : Bytes) (now : Moment) : Subscriber :=
  ⟨user, password, now, now, none, none, none, none, none, none, none⟩

/-- Whether the subscriber has been canceled. -/
def isCanceled (s : Subscriber) : Bool := s.canceledAt.isSome

/-- What stands for an identity where it is shown: the first eight digits of its bytes. -/
def tag (user : Bytes) : String := String.ofList ((Bytes.hexChars user).take 8)

/-- The subscriber after a request. -/
def accessed (s : Subscriber) (now : Moment) : Subscriber := { s with accessedAt := now }

/-- The subscriber canceled: it has no subscription any more and keeps its customer. -/
def canceled (s : Subscriber) (now : Moment) : Subscriber :=
  { s with accessedAt := now, canceledAt := some now, subscriptionId := none,
           subscriptionLevel := none }

/-- The subscriber with a customer; the customer it already has stays. -/
def withCustomer (s : Subscriber) (c : Customer) (now : Moment) : Subscriber :=
  match s.customer with
  | some _ => s
  | none => { s with customer := some c, customerUpdatedAt := some now, accessedAt := now }

/-- The subscriber with a new subscription. -/
def subscribed (s : Subscriber) (id : String) (level : Int) (now : Moment) : Subscriber :=
  { s with subscriptionId := some id, subscriptionLevel := some level,
           subscriptionCreatedAt := some now, levelChangedAt := some now, accessedAt := now }

/-- The subscriber with its subscription moved to a level. -/
def movedTo (s : Subscriber) (id : String) (level : Int) (now : Moment) : Subscriber :=
  { s with subscriptionId := some id, subscriptionLevel := some level,
           levelChangedAt := some now, accessedAt := now }

end Subscriber

end Patronage
