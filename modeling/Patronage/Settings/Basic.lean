import Patronage.Data.Assoc
import Patronage.Period
/-!
# Settings

What is on offer: levels, each with a badge and its prices by currency, how long the receipt for a
payment is good for, and how the emulated payment processor bills.  The types hold only settings
that passed every check: prices are positive, levels are not negative, and every duration is a
written period.
-/

namespace Patronage

/-- What a level entitles to. -/
inductive LevelType
  | donation | backup
deriving DecidableEq, Repr

namespace LevelType

/-- The word for a type. -/
def word : LevelType → String
  | .donation => "donation"
  | .backup => "backup"

/-- The type with a given word. -/
def ofWord? (s : String) : Option LevelType :=
  [LevelType.donation, .backup].find? fun t => t.word == s

end LevelType

/-- The price of a level in one currency. -/
structure Price where
  /-- The amount in the currency's minor unit. -/
  amount : Int
  /-- The processor's name for this level at this price. -/
  templateId : String
  amount_pos : 0 < amount
deriving DecidableEq

/-- A level that can be subscribed to. -/
structure Level where
  type : LevelType
  badge : String
  /-- Prices by currency, in lower case. -/
  prices : Assoc String Price
deriving DecidableEq

/-- How the emulated payment processor names and bills. -/
structure EmulatorSettings where
  /-- The lead of generated identifiers. -/
  idLead : String
  billingPeriod : WrittenPeriod
deriving DecidableEq

/-- All settings. -/
structure Settings where
  /-- How long a receipt is good for. -/
  badgeExpiration : WrittenPeriod
  /-- How much longer a receipt is accepted. -/
  badgeGracePeriod : WrittenPeriod
  levels : Assoc Int Level
  emulator : EmulatorSettings
  levels_nonneg : ∀ n ∈ levels.keys, 0 ≤ n
deriving DecidableEq

end Patronage
