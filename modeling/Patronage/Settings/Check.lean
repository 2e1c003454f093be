import Patronage.Schema.Field
import Patronage.Settings.Basic
/-!
# Settings from the fields of a document

Each part of the settings is checked field by field, and a document is accepted only if no part has
an issue.  Currency codes are lowered and level keys converted to numbers; where two keys become one,
the later entry counts.  Defaults: receipts are good for `P30D` and `P15D` more, there are no levels,
identifiers lead with `emulator` and the billing period is `P1M`.
-/

namespace Patronage

open Text Schema

/-- The fields of a mapping. -/
abbrev Fields := List (Value × Value)

namespace WrittenPeriod

/-- Text as a written period. -/
def check (why : String → Rejection) (v : Value) : Checked WrittenPeriod := do
  let s ← Schema.text v
  (ofText? s).elim (Checked.flawed (.rejected (why s))) .ok

/-- Thirty days. -/
def thirtyDays : WrittenPeriod := ⟨"P30D", ⟨30, .day, by decide⟩, by rfl⟩

/-- Fifteen days. -/
def fifteenDays : WrittenPeriod := ⟨"P15D", ⟨15, .day, by decide⟩, by rfl⟩

/-- One month. -/
def oneMonth : WrittenPeriod := ⟨"P1M", ⟨1, .month, Nat.zero_lt_one⟩, rfl⟩

end WrittenPeriod

namespace Price

/-- A price from its fields. -/
def ofFields (fields : Fields) : Checked Price :=
  (Checked.both (required fields "amount" (wholeAbove 0))
    (required fields "template_id" Schema.text)).map fun p => ⟨p.1.val, p.2, p.1.property⟩

/-- A price from a value. -/
def ofValue (v : Value) : Checked Price := do
  ofFields (← entries .notRecord v)

end Price

namespace Level

/-- Prices with their currency codes lowered, the later of two that become one counting. -/
def lowerCodes (prices : Assoc String Price) : Assoc String Price :=
  .ofList (prices.entries.map fun e => (lowerString e.1, e.2))

/-- Prices by currency from a value. -/
def pricesOfValue (v : Value) : Checked (Assoc String Price) := do
  let es ← entries .notMapping v
  let prices ← eachEntry Schema.text Price.ofValue es
  return lowerCodes (.ofList prices)

/-- A level from its fields. -/
def ofFields (fields : Fields) : Checked Level :=
  (Checked.both (optional fields "type" .donation (choice Schema.text LevelType.ofWord?)) <|
    Checked.both (required fields "badge" Schema.text)
      (optional fields "currencies" .empty pricesOfValue)).map fun p => ⟨p.1, p.2.1, p.2.2⟩

/-- A level from a value. -/
def ofValue (v : Value) : Checked Level := do
  ofFields (← entries .notRecord v)

end Level

namespace EmulatorSettings

/-- The settings of the emulated processor from their fields. -/
def ofFields (fields : Fields) : Checked EmulatorSettings :=
  (Checked.both (optional fields "id_prefix" "emulator" Schema.text)
    (optional fields "billing_period" .oneMonth (WrittenPeriod.check .billingPeriod))).map fun p =>
      ⟨p.1, p.2⟩

/-- The settings of the emulated processor from a value. -/
def ofValue (v : Value) : Checked EmulatorSettings := do
  ofFields (← entries .notRecord v)

/-- The settings that hold where none are given. -/
def standard : EmulatorSettings := ⟨"emulator", .oneMonth⟩

end EmulatorSettings

namespace Settings

/-- Levels by number. -/
abbrev Levels := { levels : Assoc Int Level // ∀ n ∈ levels.keys, 0 ≤ n }

/-- Levels from a value. -/
def levelsOfValue (v : Value) : Checked Levels := do
  let es ← entries .notMapping v
  let levels := Assoc.ofList (← eachEntry whole Level.ofValue es)
  if h : ∀ n ∈ levels.keys, 0 ≤ n then return ⟨levels, h⟩
  else
    -- the first one in the order of the document is reported
    let first := (levels.keys.find? (· < 0)).getD 0
    Checked.flawed (.rejected (.negativeLevel first))

/-- No levels. -/
def noLevels : Levels := ⟨.empty, by simp [Assoc.keys, Assoc.empty]⟩

/-- Settings from the fields of a document. -/
def ofFields (fields : Fields) : Checked Settings :=
  (Checked.both
    (Checked.both
      (optional fields "badge_expiration" .thirtyDays (WrittenPeriod.check .duration))
      (optional fields "badge_grace_period" .fifteenDays (WrittenPeriod.check .duration)))
    (Checked.both (optional fields "levels" noLevels levelsOfValue)
      (optional fields "emulator" .standard EmulatorSettings.ofValue))).map fun p =>
        ⟨p.1.1, p.1.2, p.2.1.val, p.2.2, p.2.1.property⟩

end Settings

end Patronage
