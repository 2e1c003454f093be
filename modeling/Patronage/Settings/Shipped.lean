import Patronage.Settings.Check
/-!
# The settings that are shipped

Three levels of donations and one of backups, priced in dollars and the first two also in euros.
Receipts are good for thirty days and fifteen more, and the emulated processor bills monthly.
-/

namespace Patronage.Settings

/-- A price whose template is named for the level's type and number and the currency. -/
def shippedPrice (type : LevelType) (level amount : Nat) (h : 0 < (amount : Int))
    (currency : String) : String × Price :=
  (currency, ⟨amount, s!"price_{type.word}_{level}_{currency}", h⟩)

/-- A donation level at its own number of cents. -/
def donation (level : Nat) (h : 0 < (level : Int)) (badge : String) (currencies : List String) :
    Int × Level :=
  (level, ⟨.donation, badge, .ofList (currencies.map (shippedPrice .donation level level h))⟩)

/-- The settings that are shipped. -/
def shipped : Settings where
  badgeExpiration := .thirtyDays
  badgeGracePeriod := .fifteenDays
  levels := .ofList [
    donation 500 (by decide) "B1" ["usd", "eur"],
    donation 1000 (by decide) "B2" ["usd", "eur"],
    donation 2000 (by decide) "B3" ["usd"],
    (201, ⟨.backup, "BACKUP", .ofList [shippedPrice .backup 201 199 (by decide) "usd"]⟩)]
  emulator := .standard
  levels_nonneg := by
    intro n hn
    have hk : n ∈ [(500 : Int), 1000, 2000, 201] := hn
    simp only [List.mem_cons, List.not_mem_nil, or_false] at hk
    omega

end Patronage.Settings
