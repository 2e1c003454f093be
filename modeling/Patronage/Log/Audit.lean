import Patronage.Calendar.Text
import Patronage.Log.Event
import Patronage.Subscriber.Record
/-!
# The audit trail

The events that record every change of a subscriber and every credential issued.  Identities appear
only through their tags.
-/

namespace Patronage.Log.Audit

open Patronage Calendar

/-- The field of a moment. -/
def moment (m : Moment) : Field := .text m.toText

/-- The field that names a subscriber. -/
def subscriber (user : Bytes) : String × Field := ("subscriber", .text (Subscriber.tag user))

/-- A subscriber was stored. -/
def created (user : Bytes) (now : Moment) : Entry :=
  .info "subscriber_created" [subscriber user, ("created_at", moment now)]

/-- A subscriber made a request. -/
def accessed (user : Bytes) (now : Moment) : Entry :=
  .debug "subscriber_accessed" [subscriber user, ("accessed_at", moment now)]

/-- A subscriber was canceled. -/
def canceled (user : Bytes) (now : Moment) (hadCustomer : Bool) : Entry :=
  .info "subscriber_canceled"
    [subscriber user, ("canceled_at", moment now), ("had_processor_customer", .flag hadCustomer)]

/-- A customer was given to a subscriber, or found to have been given before. -/
def customerSet (user : Bytes) (processor customerId : String) (won : Bool) : Entry :=
  .info "processor_customer_set"
    [subscriber user, ("processor", .text processor), ("customer_id", .text customerId),
      ("won_race", .flag won)]

/-- A subscription was made or moved to another level. -/
def levelChanged (user : Bytes) (subscriptionId : String) (old : Option Int) (new : Int)
    (reason : Option String) : Entry :=
  .info "subscription_level_changed"
    [subscriber user, ("subscription_id", .text subscriptionId),
      ("old_level", .optionalNumber old), ("new_level", .number new),
      ("reason", reason.elim .null .text)]

/-- A credential was issued; its expiration, given in seconds, is written as a moment. -/
def receiptIssued (user : Bytes) (itemId processor : String) (level expiration : Int)
    (retried : Bool) : Except TimeError Entry := do
  let expires ← Moment.ofEpochSeconds expiration
  return .info "receipt_credential_issued"
    [subscriber user, ("item_id", .text itemId), ("processor", .text processor),
      ("level", .number level), ("expiration", moment expires), ("retried", .flag retried)]

/-- A subscriber was to be stored under an identity that has another tag. -/
def createConflict (user : Bytes) : Entry :=
  .warning "subscriber_create_conflict" [subscriber user]

end Patronage.Log.Audit
