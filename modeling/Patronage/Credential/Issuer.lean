import Patronage.Credential.Request
import Patronage.Signature.Ed25519
/-!
# Issuing credentials

A credential attests that its holder paid for a level: the issuer signs the bytes of the request
followed by the expiration and the level, each in eight octets, high octet first.  Main statement:

* `Credential.payload_eq` — what an issued credential says.
-/

namespace Patronage

/-- A signed credential. -/
structure Credential where
  /-- Seconds from 1970 to its expiration. -/
  expiration : Int
  level : Int
  payload : Bytes
  signature : Bytes
deriving DecidableEq, Repr

namespace Credential

/-- The bytes handed to the client. -/
def serialize (c : Credential) : Bytes := c.payload ++ c.signature

/-- Numbers below this bound fit eight octets. -/
def wordBound : Int := 0x10000000000000000

/-- What a credential says: the request, the expiration and the level. -/
def payloadOf (request : Bytes) (expiration level : Int) : Bytes :=
  request ++ Bytes.ofNatBE 8 expiration.toNat ++ Bytes.ofNatBE 8 level.toNat

/-- What is to be signed, if the request is well-formed and both numbers fit. -/
def statement (r : CredentialRequest) (expiration level : Int) : Except VerificationError Bytes :=
  match r.isWellFormed, r.serialize? with
  | true, some bytes =>
    if ¬(0 < expiration ∧ expiration < wordBound) then .error (.expiration expiration)
    else if ¬(0 ≤ level ∧ level < wordBound) then .error (.level level)
    else .ok (payloadOf bytes expiration level)
  | _, _ => .error .malformed

/-- Signs a credential. -/
def issue (signer : Signer) (r : CredentialRequest) (expiration level : Int) :
    Except VerificationError Credential :=
  (statement r expiration level).map fun payload =>
    ⟨expiration, level, payload, signer.sign payload⟩

/-- Whether a credential was signed by an issuer. -/
def isSignedBy (signer : Signer) (c : Credential) : Bool := signer.verify c.payload c.signature

/-- What an issued credential says. -/
theorem payload_eq {signer : Signer} {r : CredentialRequest} {expiration level : Int}
    {c : Credential} (h : issue signer r expiration level = .ok c) :
    c.payload = payloadOf (0 :: r.nonce) expiration level := by
  unfold issue statement at h
  cases hw : r.isWellFormed with
  | false => rw [hw] at h; cases h
  | true =>
    rw [hw, CredentialRequest.serialize?_of_isWellFormed hw] at h
    simp only at h
    split at h
    · cases h
    · split at h
      · cases h
      · cases h; rfl

end Credential

end Patronage
