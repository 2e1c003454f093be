import Mathlib.Algebra.Group.Int.Defs
import Patronage.Proofs.Issuance
/-!
# The octets of credentials

The octets of a request and of a payload are written by joining parts of fixed lengths, so each can
be read back.  A number is written in eight octets, which not every number fits: `issue` looks at
the bounds before it writes, and what it lets through always fits.  Main statements:

* `CredentialRequest.exists_decode_iff` — the octets that are a request;
* `Credential.readPayload_of_encode?` — a payload that was written is read back;
* `Credential.exists_issue_iff` — the requests, expirations and levels that are signed;
* `Credential.octets_of_issue` — requests and payloads are read back as they were written, and a
  payload tells everything apart that it is made from.
-/

namespace Patronage

namespace Bytes

/-- A number in `k` octets, highest first; it must fit them. -/
def ofInt? (k : Nat) (n : Int) : Option Bytes :=
  if 0 ≤ n ∧ n < Nat.pow 256 k then some (ofNatBE k n.toNat) else none

theorem ofInt?_of_fits {k : Nat} {n : Int} (h0 : 0 ≤ n) (h1 : n < Nat.pow 256 k) :
    ofInt? k n = some (ofNatBE k n.toNat) :=
  if_pos ⟨h0, h1⟩

/-- Octets that a number was written in have the length asked for and write that number. -/
theorem toNatBE_of_ofInt? {k : Nat} {n : Int} {bs : Bytes} (h : ofInt? k n = some bs) :
    bs.length = k ∧ (toNatBE bs : Int) = n := by
  unfold ofInt? at h
  split at h
  · rename_i hfits
    obtain rfl := Option.some.inj h
    refine ⟨length_ofNatBE k n.toNat, ?_⟩
    rw [toNatBE_ofNatBE, Nat.mod_eq_of_lt (by omega)]
    exact Int.toNat_of_nonneg hfits.1
  · cases h

end Bytes

namespace CredentialRequest

theorem isWellFormed_iff {r : CredentialRequest} :
    r.isWellFormed ↔ r.version = 0 ∧ r.nonce.length = 32 := by
  simp [isWellFormed, knownVersion, nonceLength]

/-- The octets that are a request. -/
theorem exists_decode_iff {bytes : Bytes} :
    (∃ r, decode bytes = .ok r) ↔ bytes.length = 33 ∧ bytes.head? = some 0 := by
  unfold decode
  by_cases hlength : bytes.length = nonceLength + 1
  · rw [if_neg (not_not_intro hlength)]
    cases bytes with
    | nil => cases hlength
    | cons v nonce =>
      have hzero : v.toNat = knownVersion ↔ v = 0 := UInt8.toNat_inj (b := 0)
      dsimp only
      by_cases hv : v = 0
      · rw [if_pos (hzero.2 hv)]
        exact iff_of_true ⟨_, rfl⟩ ⟨hlength, congrArg some hv⟩
      · rw [if_neg (mt hzero.1 hv)]
        exact iff_of_false (by rintro ⟨_, ⟨⟩⟩) fun h => hv (Option.some.inj h.2)
  · rw [if_pos hlength]
    exact iff_of_false (by rintro ⟨_, ⟨⟩⟩) fun h => hlength h.1

/-- A well-formed request is read from its octets. -/
theorem decode_of_isWellFormed {r : CredentialRequest} (h : r.isWellFormed) :
    decode (0 :: r.nonce) = .ok r := by
  have hread := decode_of_serialize h
  rw [serialize?_of_isWellFormed h] at hread
  exact Option.some.inj hread

end CredentialRequest

/-- A scheme whose signatures verify. -/
def Signer.Correct (signer : Signer) : Prop :=
  ∀ message, signer.verify message (signer.sign message)

namespace Credential

/-- The octets of a payload, written part by part; each part must fit its octets. -/
def encode? (r : CredentialRequest) (expiration level : Int) : Option Bytes := do
  let request ← r.serialize?
  let expiration ← Bytes.ofInt? 8 expiration
  let level ← Bytes.ofInt? 8 level
  return request ++ expiration ++ level

/-- Reads a payload: the request, the expiration and the level. -/
def readPayload (payload : Bytes) : Except RequestError (CredentialRequest × Int × Int) :=
  (CredentialRequest.decode (payload.take 33)).map fun r =>
    (r, Bytes.toNatBE ((payload.drop 33).take 8), Bytes.toNatBE ((payload.drop 33).drop 8))

/-- A payload that was written is read back. -/
theorem readPayload_of_encode? {r : CredentialRequest} (hr : r.isWellFormed)
    {expiration level : Int} {payload : Bytes} (h : encode? r expiration level = some payload) :
    payload.length = 49 ∧ readPayload payload = .ok (r, expiration, level) := by
  unfold encode? at h
  rw [CredentialRequest.serialize?_of_isWellFormed hr] at h
  simp only [Option.bind_eq_bind, Option.bind_some, Option.bind_eq_some_iff] at h
  obtain ⟨first, hfirst, second, hsecond, hpayload⟩ := h
  obtain ⟨hfirstLength, hfirstValue⟩ := Bytes.toNatBE_of_ofInt? hfirst
  obtain ⟨hsecondLength, hsecondValue⟩ := Bytes.toNatBE_of_ofInt? hsecond
  obtain rfl : (0 :: r.nonce) ++ first ++ second = payload := Option.some.inj hpayload
  have hrequest : (0 :: r.nonce).length = 33 := by
    rw [List.length_cons, (CredentialRequest.isWellFormed_iff.1 hr).2]
  constructor
  · rw [List.length_append, List.length_append, hrequest, hfirstLength, hsecondLength]
  · unfold readPayload
    rw [List.append_assoc, List.take_left' hrequest, List.drop_left' hrequest,
      List.take_left' hfirstLength, List.drop_left' hfirstLength,
      CredentialRequest.decode_of_isWellFormed hr, hfirstValue, hsecondValue]
    rfl

/-- What a credential is signed for, and what is signed. -/
theorem issue_eq_ok {signer : Signer} {r : CredentialRequest} {expiration level : Int}
    {c : Credential} :
    issue signer r expiration level = .ok c ↔
      r.isWellFormed ∧ (0 < expiration ∧ expiration < wordBound) ∧ Fits level ∧
        c = ⟨expiration, level, payloadOf (0 :: r.nonce) expiration level,
          signer.sign (payloadOf (0 :: r.nonce) expiration level)⟩ := by
  constructor
  · intro h
    have hr := (says_of_issue h).wellFormed
    exact ⟨hr, (issue_eq_ok_iff (CredentialRequest.decode_of_isWellFormed hr)).1 h⟩
  · rintro ⟨hr, h⟩
    exact (issue_eq_ok_iff (CredentialRequest.decode_of_isWellFormed hr)).2 h

/-- The requests, expirations and levels that are signed. -/
theorem exists_issue_iff {signer : Signer} {r : CredentialRequest} {expiration level : Int} :
    (∃ c, issue signer r expiration level = .ok c) ↔
      (r.version = 0 ∧ r.nonce.length = 32) ∧ (0 < expiration ∧ expiration < 2 ^ 64) ∧
        (0 ≤ level ∧ level < 2 ^ 64) := by
  rw [← CredentialRequest.isWellFormed_iff]
  constructor
  · rintro ⟨c, hc⟩
    obtain ⟨hr, hexpiration, hlevel, -⟩ := issue_eq_ok.1 hc
    exact ⟨hr, hexpiration, hlevel⟩
  · rintro ⟨hr, hexpiration, hlevel⟩
    exact ⟨_, issue_eq_ok.2 ⟨hr, hexpiration, hlevel, rfl⟩⟩

/-- What is signed was written without a part that did not fit its octets. -/
theorem encode?_of_issue {signer : Signer} {r : CredentialRequest} {expiration level : Int}
    {c : Credential} (h : issue signer r expiration level = .ok c) :
    encode? r expiration level = some c.payload := by
  obtain ⟨hr, hexpiration, hlevel, rfl⟩ := issue_eq_ok.1 h
  -- the bounds that were looked at are those of eight octets
  have hword : wordBound = Nat.pow 256 8 := rfl
  unfold encode?
  rw [CredentialRequest.serialize?_of_isWellFormed hr,
    Bytes.ofInt?_of_fits (Int.le_of_lt hexpiration.1) (hword ▸ hexpiration.2),
    Bytes.ofInt?_of_fits hlevel.1 (hword ▸ hlevel.2)]
  rfl

theorem isSignedBy_of_issue {signer : Signer} (hsigner : signer.Correct) {r : CredentialRequest}
    {expiration level : Int} {c : Credential} (h : issue signer r expiration level = .ok c) :
    c.isSignedBy signer := by
  obtain ⟨-, -, -, rfl⟩ := issue_eq_ok.1 h
  exact hsigner _

/-- Requests and payloads are read back as they were written: the octets of a request are the
strings of 33 octets that start with a zero; signing succeeds exactly within the bounds, and then
every part of the payload fits its octets, the payload has 49 of them, it reads back as the request,
the expiration and the level, and its signature verifies; so equal payloads are made from equal
parts. -/
theorem octets_of_issue {signer : Signer} (hsigner : signer.Correct) :
    (∀ bytes, (∃ r, CredentialRequest.decode bytes = .ok r) ↔
      bytes.length = 33 ∧ bytes.head? = some 0) ∧
    (∀ bytes r, CredentialRequest.decode bytes = .ok r → r.serialize? = some bytes) ∧
    (∀ r : CredentialRequest, r.version = 0 → r.nonce.length = 32 →
      ∃ bytes, r.serialize? = some bytes ∧ CredentialRequest.decode bytes = .ok r) ∧
    (∀ r expiration level,
      ((∃ c, issue signer r expiration level = .ok c) ↔
        (r.version = 0 ∧ r.nonce.length = 32) ∧ (0 < expiration ∧ expiration < 2 ^ 64) ∧
          (0 ≤ level ∧ level < 2 ^ 64)) ∧
      ∀ c, issue signer r expiration level = .ok c →
        encode? r expiration level = some c.payload ∧ c.payload.length = 49 ∧
          readPayload c.payload = .ok (r, expiration, level) ∧ c.isSignedBy signer) ∧
    ∀ r r' expiration expiration' level level' c c',
      issue signer r expiration level = .ok c → issue signer r' expiration' level' = .ok c' →
        c.payload = c'.payload → r = r' ∧ expiration = expiration' ∧ level = level' := by
  have read : ∀ {r expiration level c}, issue signer r expiration level = .ok c →
      c.payload.length = 49 ∧ readPayload c.payload = .ok (r, expiration, level) := fun h =>
    readPayload_of_encode? (issue_eq_ok.1 h).1 (encode?_of_issue h)
  refine ⟨fun bytes => CredentialRequest.exists_decode_iff,
    fun bytes r => CredentialRequest.serialize?_of_decode, ?_, ?_, ?_⟩
  · intro r hversion hnonce
    have hr := CredentialRequest.isWellFormed_iff.2 ⟨hversion, hnonce⟩
    exact ⟨_, CredentialRequest.serialize?_of_isWellFormed hr,
      CredentialRequest.decode_of_isWellFormed hr⟩
  · intro r expiration level
    refine ⟨exists_issue_iff, fun c hc => ?_⟩
    obtain ⟨hlength, hread⟩ := read hc
    exact ⟨encode?_of_issue hc, hlength, hread, isSignedBy_of_issue hsigner hc⟩
  · intro r r' expiration expiration' level level' c c' hc hc' hpayload
    have hread := (read hc).2
    rw [hpayload, (read hc').2] at hread
    obtain ⟨rfl, rfl, rfl⟩ : r' = r ∧ expiration' = expiration ∧ level' = level := by
      simpa using hread
    exact ⟨rfl, rfl, rfl⟩

end Credential

namespace Sample

/-- The signatures of a fixed seed, each checked by signing once more. -/
def stamp : Signer :=
  let seed := List.replicate Ed25519.seedLength 7
  ⟨Ed25519.publicKey seed, Ed25519.sign seed, fun message signature =>
    signature == Ed25519.sign seed message⟩

theorem stamp_correct : stamp.Correct :=
  fun message => beq_self_eq_true (stamp.sign message)

/-- A request whose nonce is all ones. -/
def ones : CredentialRequest := ⟨0, List.replicate 32 1⟩

end Sample

open Sample in
/-- The largest expiration and the largest level that are signed. -/
theorem Credential.octets_of_issue_at_bounds :
    stamp.Correct ∧ ∃ c, issue stamp ones (2 ^ 64 - 1) (2 ^ 64 - 1) = .ok c ∧
      c.payload.length = 49 ∧ readPayload c.payload = .ok (ones, 2 ^ 64 - 1, 2 ^ 64 - 1) ∧
      c.isSignedBy stamp := by
  obtain ⟨-, -, -, hissue, -⟩ := octets_of_issue stamp_correct
  obtain ⟨hiff, hread⟩ := hissue ones (2 ^ 64 - 1) (2 ^ 64 - 1)
  obtain ⟨c, hc⟩ := hiff.2 (by decide)
  obtain ⟨-, hlength, hpayload, hsigned⟩ := hread c hc
  exact ⟨stamp_correct, c, hc, hlength, hpayload, hsigned⟩

end Patronage
