import Patronage.Fault
import Patronage.Processor.Report
import Patronage.Settings.Basic
/-!
# The catalog of levels

What the settings offer: levels and their templates, which level changes are allowed and when the
credential for a payment expires.  Main statements:

* `Catalog.allows_iff` — a change is allowed between levels of one type;
* `Catalog.reload_error` — settings that were not accepted change nothing.
-/

namespace Patronage

open Text Calendar

/-- The settings on offer. -/
structure Catalog where
  settings : Settings
deriving DecidableEq

namespace Catalog

/-- The levels on offer. -/
def levels (c : Catalog) : Assoc Int Level := c.settings.levels

/-- A level on offer. -/
def find? (c : Catalog) (level : Int) : Option Level := c.levels.get? level

/-- A level that must be on offer. -/
def get (c : Catalog) (level : Int) : Except Fault Level :=
  (c.find? level).elim
    (.error (.refusal .invalidLevel ("Subscription level not configured: " ++ intString level))) .ok

/-- The template of a level in a currency, in any case. -/
def template (c : Catalog) (level : Int) (currency : String) : Except Fault String := do
  let l ← c.get level
  match l.prices.get? (lowerString currency) with
  | some price => return price.templateId
  | none =>
    throw (.refusal .invalidArguments
      (s!"Unsupported currency {currency} for level " ++ intString level))

/-- Whether a subscription may move from one level to another. -/
def allows (c : Catalog) (old new : Int) : Bool :=
  match c.find? old, c.find? new with
  | some a, some b => a.type = b.type
  | _, _ => false

/-- What the clock of a payment shows when it is as old as both durations together. -/
def goodUntil (c : Catalog) (paidAt : ZonedTime) : Except TimeError ZonedTime := do
  let badge ← c.settings.badgeExpiration.period.span
  let good ← paidAt.add badge
  let grace ← c.settings.badgeGracePeriod.period.span
  good.add grace

/-- When the credential for a payment at some time expires: the first midnight in UTC after the
payment is as old as both durations together. -/
def expirationOf (c : Catalog) (paidAt : ZonedTime) : Except TimeError Moment := do
  let last ← c.goodUntil paidAt
  let day ← last.truncateToDay
  day.add microsPerDay

/-- When the credential for a payment expires. -/
def expiration (c : Catalog) (item : ReceiptItem) : Except TimeError Moment :=
  c.expirationOf item.paidAt.zoned

/-- The payment ages on its own clock, and the day is one in UTC. -/
theorem expiration_eq_bind (c : Catalog) (item : ReceiptItem) :
    c.expiration item = (do
      let badge ← c.settings.badgeExpiration.period.span
      let good ← item.paidAt.add badge
      let grace ← c.settings.badgeGracePeriod.period.span
      let last ← good.add grace
      let day ← last.truncateToDay
      day.add microsPerDay) := by
  simp only [expiration, expirationOf, goodUntil, Moment.add_zoned, bind_map_left, bind_assoc,
    Moment.truncateToDay_zoned]

/-- The numbers of all levels, ascending. -/
def numbers (c : Catalog) : List Int := c.levels.keys.mergeSort

/-- The catalog in one line. -/
def summary (c : Catalog) : String := s!"SubscriptionLevelRepository(levels={c.levels.size})"

/-- The catalog after reading the settings again. -/
def reload {ε : Type} (c : Catalog) (read : Except ε Settings) : Catalog × Except ε Unit :=
  match read with
  | .ok s => (⟨s⟩, .ok ())
  | .error e => (c, .error e)

/-- A change is allowed between levels of one type. -/
theorem allows_iff (c : Catalog) (old new : Int) :
    c.allows old new ↔ ∃ a b, c.find? old = some a ∧ c.find? new = some b ∧ a.type = b.type := by
  unfold allows
  cases c.find? old <;> cases c.find? new <;> simp

/-- Settings that were not accepted change nothing. -/
theorem reload_error {ε : Type} (c : Catalog) (e : ε) :
    (c.reload (.error e : Except ε Settings)).1 = c := rfl

end Catalog

end Patronage
