import Patronage.Fault
/-!
# The ledger of issued receipts

A payment is redeemed at most once.  The ledger notes for each payment item of a provider which
credential request it was redeemed with; an entry, once made, is never changed.  Main statements:

* `Ledger.find?_record_of_some` — an entry stays as it is;
* `Ledger.find?_record_self` — after recording, the payment has the entry answered.
-/

namespace Patronage

open Log

/-- A payment and the credential request that it was redeemed with. -/
structure Issuance where
  itemId : String
  provider : Provider
  /-- The digest of the credential request. -/
  fingerprint : Bytes
  issuedAt : Moment
deriving DecidableEq

/-- Issuances by payment item and provider, in the order of their making. -/
structure Ledger where
  issuances : Assoc (String × Provider) Issuance
deriving DecidableEq

namespace Ledger

/-- The ledger without entries. -/
def empty : Ledger := ⟨.empty⟩

/-- The entry of a payment. -/
def find? (ledger : Ledger) (itemId : String) (provider : Provider) : Option Issuance :=
  ledger.issuances.get? (itemId, provider)

/-- The entries in the order of their making. -/
def toList (ledger : Ledger) : List Issuance := ledger.issuances.values

/-- The number of entries. -/
def size (ledger : Ledger) : Nat := ledger.issuances.size

/-- The ledger in one line. -/
def summary (ledger : Ledger) : String := s!"InMemoryIssuedReceiptsLedger(records={ledger.size})"

/-- Makes an entry unless the payment has one; answers whether it was made, and the entry that the
payment has now. -/
def record (ledger : Ledger) (entry : Issuance) : Outcome Ledger (Bool × Issuance) :=
  match ledger.find? entry.itemId entry.provider with
  | some e =>
    .ok ledger (false, e)
      [.debug "issuance_already_recorded"
        [("item_id", .text entry.itemId), ("processor", .text entry.provider.name),
          ("same_request", .flag (e.fingerprint == entry.fingerprint))]]
  | none =>
    .ok ⟨ledger.issuances.insert (entry.itemId, entry.provider) entry⟩ (true, entry) []

/-- An entry stays as it is. -/
theorem find?_record_of_some {ledger : Ledger} {itemId : String} {provider : Provider}
    {e : Issuance} (h : ledger.find? itemId provider = some e) (entry : Issuance) :
    (ledger.record entry).state.find? itemId provider = some e := by
  unfold record
  cases h' : ledger.find? entry.itemId entry.provider with
  | some _ => exact h
  | none =>
    have hne : (entry.itemId, entry.provider) ≠ (itemId, provider) := by
      intro hk
      simp only [find?, hk] at h'
      simp [find?, h'] at h
    simpa [Outcome.ok, find?, hne] using h

/-- After recording, the payment has the entry answered. -/
theorem find?_record_self (ledger : Ledger) (entry : Issuance) :
    ((ledger.record entry).state.find? entry.itemId entry.provider).map .ok =
      some ((ledger.record entry).answer.map (·.2)) := by
  unfold record
  cases h : ledger.find? entry.itemId entry.provider with
  | some e => simp [Outcome.ok, h, Except.map]
  | none => simp [Outcome.ok, find?, Except.map]

end Ledger

end Patronage
