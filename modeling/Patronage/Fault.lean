import Patronage.Log.Event
import Patronage.Period
import Patronage.Schema.Issue
import Patronage.Subscriber.Record
/-!
# Faults

Everything that can go wrong in an operation.  A `Refusal` is the answer of the manager itself: it
classifies what the caller did wrong.  All other faults come from a collaborator: the payment
processor, the store of subscribers, the issuer of credentials.  `Fault.message?` is the text that
is reported.
-/

namespace Patronage

open Calendar Text

/-- What a payment processor reports when it cannot do what it was asked. -/
structure ProcessorError where
  provider : Provider
  /-- The reason, a word that callers decide by. -/
  code : String
  detail : Option String
deriving DecidableEq, Repr

namespace ProcessorError

/-- The payment needs an action of the customer. -/
def requiresAction : String := "subscription_payment_intent_requires_action"

/-- There is no such customer or subscription. -/
def resourceMissing : String := "resource_missing"

/-- The subscription has been canceled. -/
def notActive : String := "subscription_not_active"

/-- There is no such template. -/
def invalidTemplate : String := "invalid_template"

/-- The idempotency key was used for something else. -/
def keyInUse : String := "idempotency_key_in_use"

/-- What is reported: provider, reason and, if there is any, the detail. -/
def message (e : ProcessorError) : String :=
  let detail := e.detail.getD ""
  s!"{e.provider.name}: {e.code}" ++ if detail.isEmpty then "" else s!" ({detail})"

end ProcessorError

/-- Why bytes are no credential request. -/
inductive RequestError
  | wrongLength (length : Nat)
  | unknownVersion (version : Nat)
deriving DecidableEq, Repr

/-- Why a credential is not signed. -/
inductive VerificationError
  | malformed
  | expiration (seconds : Int)
  | level (n : Int)
deriving DecidableEq, Repr

/-- What the manager refuses. -/
inductive RefusalKind
  | notFound
  | forbidden
  | invalidArguments
  | invalidLevel
  | processorConflict
  | paymentRequiresAction
  | receiptAlreadyRedeemed
deriving DecidableEq, Repr

namespace RefusalKind

/-- Every kind. -/
def all : List RefusalKind :=
  [.notFound, .forbidden, .invalidArguments, .invalidLevel, .processorConflict,
    .paymentRequiresAction, .receiptAlreadyRedeemed]

/-- What is reported of a refusal without words of its own. -/
def summary : RefusalKind → String
  | .notFound => "Subscriber or active subscription not found."
  | .forbidden => "Subscriber credentials do not match the stored record."
  | .invalidArguments => "Request arguments are malformed or failed verification."
  | .invalidLevel => "Requested subscription level is not valid for this subscriber."
  | .processorConflict => "Subscriber is already attached to a different payment processor."
  | .paymentRequiresAction => "Payment processor requires additional customer action."
  | .receiptAlreadyRedeemed =>
    "Payment item was already redeemed for a different credential request."

/-- What is reported of a refusal of no particular kind without words of its own. -/
def generalSummary : String := "Base exception for subscription management errors."

end RefusalKind

/-- The fault of a collaborator that a refusal stands for. -/
inductive Cause
  | notStored (tag : String)
  | processor (e : ProcessorError)
  | request (e : RequestError)
  | verification (e : VerificationError)
deriving DecidableEq, Repr

/-- An answer of the manager that classifies what went wrong. -/
structure Refusal where
  kind : RefusalKind
  detail : Option String
  cause : Option Cause
deriving DecidableEq, Repr

namespace Refusal

/-- What is reported: words of its own, else the summary of its kind. -/
def message (r : Refusal) : String :=
  let detail := r.detail.getD ""
  if detail.isEmpty then r.kind.summary else detail

end Refusal

/-- Everything that can go wrong in an operation. -/
inductive Fault
  | refused (r : Refusal)
  | processor (e : ProcessorError)
  /-- An update of a subscriber that is not stored; the tag stands for its identity. -/
  | notStored (tag : String)
  /-- No processor is registered for a provider. -/
  | notConfigured (p : Provider)
  | request (e : RequestError)
  | verification (e : VerificationError)
  /-- The version of a credential request is no octet. -/
  | unwritable
  /-- A value to be handed on breaks the rules of its type. -/
  | invalid (issues : List Issue)
  | cycle (e : CycleError)
  | time (e : TimeError)
deriving DecidableEq, Repr

namespace Fault

/-- A refusal without words of its own. -/
def plain (kind : RefusalKind) : Fault := .refused ⟨kind, none, none⟩

/-- A refusal with words of its own. -/
def refusal (kind : RefusalKind) (detail : String) : Fault := .refused ⟨kind, some detail, none⟩

/-- A refusal that stands for the fault of a collaborator. -/
def because (kind : RefusalKind) (detail : Option String) (cause : Cause) : Fault :=
  .refused ⟨kind, detail, some cause⟩

end Fault

/-- What is reported of bytes that are no credential request. -/
def RequestError.message : RequestError → String
  | .wrongLength n => s!"Expected 33 bytes, got {n}"
  | .unknownVersion v => s!"Unsupported request version: {v}"

/-- What is reported of a credential that is not signed. -/
def VerificationError.message : VerificationError → String
  | .malformed => "Malformed credential request"
  | .expiration n => "Invalid expiration: " ++ intString n
  | .level n => "Invalid level: " ++ intString n

/-- What is reported of a count of billing cycles without an answer, if anything. -/
def CycleError.message? : CycleError → Option String
  | .reversed => some "now must not be before start"
  | .period e => e.message?
  | .time _ => none

namespace Fault

/-- What is reported of an update of a subscriber that is not stored. -/
def notStoredMessage (tag : String) : String := "Subscriber not found: " ++ tag

/-- What is reported; some faults are reported without text. -/
def message? : Fault → Option String
  | .refused r => some r.message
  | .processor e => some e.message
  | .notStored tag => some (notStoredMessage tag)
  | .notConfigured p => some ("No processor configured for " ++ p.name)
  | .request e => some e.message
  | .verification e => some e.message
  | .cycle e => e.message?
  | .unwritable | .invalid _ | .time _ => none

end Fault

/-- What an operation did: the state it leaves, what it answers and what it logged. -/
structure Outcome (σ α : Type) where
  state : σ
  answer : Except Fault α
  events : List Log.Entry

namespace Outcome

variable {σ α : Type}

/-- An operation that answers. -/
def ok (state : σ) (a : α) (events : List Log.Entry) : Outcome σ α := ⟨state, .ok a, events⟩

/-- An operation that fails and leaves a state. -/
def fail (state : σ) (e : Fault) : Outcome σ α := ⟨state, .error e, []⟩

end Outcome

end Patronage
