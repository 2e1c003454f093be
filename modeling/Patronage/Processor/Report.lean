import Patronage.Schema.Field
import Patronage.Text.Case
/-!
# What payment processors report

The payment behind a subscription, and the level and currency that a subscription is billed at.
Levels reported are not negative and currencies are in lower case: a report that breaks a rule
cannot be made.
-/

namespace Patronage

open Text Schema

/-- A payment for a subscription. -/
structure ReceiptItem where
  /-- Names this payment among all of its provider. -/
  id : String
  paidAt : Moment
  level : Int
  level_nonneg : 0 ≤ level
deriving DecidableEq

namespace ReceiptItem

/-- A payment for a level, if that is not negative. -/
def of (id : String) (paidAt : Moment) (level : Int) : Checked ReceiptItem :=
  if h : 0 ≤ level then .ok ⟨id, paidAt, level, h⟩
  else Checked.under (.name "level") (Checked.flawed .below)

/-- A payment from the fields of a document. -/
def ofFields (fields : List (Value × Value)) : Checked ReceiptItem :=
  (Checked.both (required fields "item_id" Schema.text) <|
    Checked.both (required fields "paid_at" Schema.moment)
      (required fields "level" (wholeFrom 0))).map fun p =>
        ⟨p.1, p.2.1, p.2.2.val, p.2.2.property⟩

end ReceiptItem

/-- The level and the currency that a subscription is billed at. -/
structure Tier where
  level : Int
  currency : String
  level_nonneg : 0 ≤ level
deriving DecidableEq

namespace Tier

/-- A level, if it is not negative, with a currency in any case. -/
def of (level : Int) (currency : String) : Checked Tier :=
  if h : 0 ≤ level then .ok ⟨level, lowerString currency, h⟩
  else Checked.under (.name "level") (Checked.flawed .below)

/-- A level and a currency from the fields of a document. -/
def ofFields (fields : List (Value × Value)) : Checked Tier :=
  (Checked.both (required fields "level" (wholeFrom 0))
    (required fields "currency" Schema.text)).map fun p =>
      ⟨p.1.val, lowerString p.2, p.1.property⟩

end Tier

/-- The name of a subscription from the fields of a document. -/
def subscriptionIdOfFields (fields : List (Value × Value)) : Checked String :=
  required fields "id" Schema.text

end Patronage
