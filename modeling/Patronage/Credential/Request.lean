import Patronage.Digest.Sha2
import Patronage.Fault
/-!
# Credential requests

A credential request is an octet for its version and a blinded nonce.  `decode` reads the bytes of a
request of the one known version and `serialize?` writes them.  Main statements:

* `CredentialRequest.serialize?_of_decode` — a request that was read is written as it was;
* `CredentialRequest.decode_of_serialize` — a well-formed request that was written is read back.
-/

namespace Patronage

/-- A request for a credential. -/
structure CredentialRequest where
  version : Int
  nonce : Bytes
deriving DecidableEq, Repr

namespace CredentialRequest

/-- The only version that is known. -/
def knownVersion : Nat := 0

/-- The length of a nonce. -/
def nonceLength : Nat := 32

/-- Whether a request has the known version and a nonce of the right length. -/
def isWellFormed (r : CredentialRequest) : Bool :=
  r.version == knownVersion && r.nonce.length == nonceLength

/-- The bytes of a request; its version must be an octet. -/
def serialize? (r : CredentialRequest) : Option Bytes :=
  if 0 ≤ r.version ∧ r.version < 256 then some (UInt8.ofNat r.version.toNat :: r.nonce) else none

/-- The digest of the bytes of a request, which tells it from every other request. -/
def fingerprint? (r : CredentialRequest) : Option Bytes :=
  r.serialize?.map Digest.sha256

/-- Reads the bytes of a request; the length is looked at before the version. -/
def decode (bytes : Bytes) : Except RequestError CredentialRequest :=
  if bytes.length ≠ nonceLength + 1 then .error (.wrongLength bytes.length)
  else
    match bytes with
    | [] => .error (.wrongLength 0)
    | v :: nonce =>
      if v.toNat = knownVersion then .ok ⟨v.toNat, nonce⟩ else .error (.unknownVersion v.toNat)

/-! ### Laws -/

theorem serialize?_of_isWellFormed {r : CredentialRequest} (h : r.isWellFormed) :
    r.serialize? = some (0 :: r.nonce) := by
  simp only [isWellFormed, Bool.and_eq_true, beq_iff_eq, knownVersion] at h
  simp [serialize?, h.1]

/-- A request that was read is written as it was. -/
theorem serialize?_of_decode {bytes : Bytes} {r : CredentialRequest} (h : decode bytes = .ok r) :
    r.serialize? = some bytes := by
  unfold decode at h
  split at h
  · cases h
  · cases bytes with
    | nil => cases h
    | cons v nonce =>
      simp only at h
      split at h
      · cases h
        have := v.toNat_lt
        simp [serialize?]
        omega
      · cases h

/-- A well-formed request that was written is read back. -/
theorem decode_of_serialize {r : CredentialRequest} (h : r.isWellFormed) :
    r.serialize?.map decode = some (.ok r) := by
  rw [serialize?_of_isWellFormed h]
  obtain ⟨version, nonce⟩ := r
  simp only [isWellFormed, Bool.and_eq_true, beq_iff_eq, knownVersion] at h
  obtain ⟨hv, hn⟩ := h
  simp [decode, hn, knownVersion, hv]

end CredentialRequest

end Patronage
