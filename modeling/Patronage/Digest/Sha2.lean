import Patronage.Text.Hex
/-!
# Message digests

The digests SHA-256 and SHA-512.  They are one construction over words of two widths: `Variant`
holds what differs, `digest` pads a message, splits it into blocks and folds them into eight
registers.  Main statements:

* `length_padded` — padding fills a whole number of blocks;
* `length_digest` — a digest has a fixed length.
-/

namespace Patronage.Digest

/-- The eight words that a digest works on. -/
structure Registers (ω : Type) where
  a : ω
  b : ω
  c : ω
  d : ω
  e : ω
  f : ω
  g : ω
  h : ω

namespace Registers

variable {ω : Type}

/-- Adds two sets of registers word by word. -/
def add [Add ω] (r s : Registers ω) : Registers ω :=
  ⟨r.a + s.a, r.b + s.b, r.c + s.c, r.d + s.d, r.e + s.e, r.f + s.f, r.g + s.g, r.h + s.h⟩

/-- The words in order. -/
def toList (r : Registers ω) : List ω := [r.a, r.b, r.c, r.d, r.e, r.f, r.g, r.h]

end Registers

/-- What the two digests differ in. -/
structure Variant (ω : Type) where
  /-- Bytes of a word. -/
  wordBytes : Nat
  /-- The word that a number denotes. -/
  ofNat : Nat → ω
  /-- The number that a word denotes. -/
  toNat : ω → Nat
  scheduleNear : ω → ω
  scheduleFar : ω → ω
  roundLow : ω → ω
  roundHigh : ω → ω
  constants : List ω
  initial : Registers ω
  wordBytes_pos : 0 < wordBytes

namespace Variant

variable {ω : Type} (v : Variant ω)

/-- Bytes of a block: sixteen words. -/
def blockBytes : Nat := 16 * v.wordBytes

/-- Zero bytes between the mark and the length. -/
def fillLength (n : Nat) : Nat :=
  (v.blockBytes - (n + 1 + 2 * v.wordBytes) % v.blockBytes) % v.blockBytes

/-- A message with a mark, zeros and its length in bits after it. -/
def padded (message : Bytes) : Bytes :=
  message ++ [0x80] ++ List.replicate (v.fillLength message.length) 0 ++
    Bytes.ofNatBE (2 * v.wordBytes) (8 * message.length)

/-- Bytes cut into pieces of a given length. -/
def pieces (n : Nat) (bs : Bytes) : List Bytes :=
  (List.range (bs.length / n)).map fun i => (bs.drop (i * n)).take n

/-- The words of a block. -/
def words (block : Bytes) : List ω :=
  (pieces v.wordBytes block).map fun w => v.ofNat (Bytes.toNatBE w)

variable [Add ω] [AndOp ω] [XorOp ω] [Complement ω]

/-- The words of a block followed by `n` derived ones; `window` holds the next sixteen. -/
def schedule : Nat → List ω → List ω
  | 0, window => window
  | n + 1, window =>
    match window[0]?, window[1]?, window[9]?, window[14]? with
    | some w₀, some w₁, some w₉, some w₁₄ =>
      w₀ :: schedule n (window.drop 1 ++ [v.scheduleNear w₁₄ + w₉ + v.scheduleFar w₁ + w₀])
    | _, _, _, _ => window

/-- One round, with its constant and its word. -/
def round (r : Registers ω) (constant word : ω) : Registers ω :=
  let choose := (r.e &&& r.f) ^^^ (~~~ r.e &&& r.g)
  let majority := (r.a &&& r.b) ^^^ (r.a &&& r.c) ^^^ (r.b &&& r.c)
  let t₁ := r.h + v.roundHigh r.e + choose + constant + word
  let t₂ := v.roundLow r.a + majority
  ⟨t₁ + t₂, r.a, r.b, r.c, r.d + t₁, r.e, r.f, r.g⟩

/-- Folds a block into the registers. -/
def compress (r : Registers ω) (block : Bytes) : Registers ω :=
  let ws := v.schedule (v.constants.length - 16) (v.words block)
  r.add ((v.constants.zip ws).foldl (fun r kw => v.round r kw.1 kw.2) r)

/-- The digest of a message. -/
def digest (message : Bytes) : Bytes :=
  let final := (pieces v.blockBytes (v.padded message)).foldl v.compress v.initial
  final.toList.flatMap fun w => Bytes.ofNatBE v.wordBytes (v.toNat w)

omit [Add ω] [AndOp ω] [XorOp ω] [Complement ω] in
/-- Padding fills a whole number of blocks. -/
theorem length_padded (message : Bytes) : (v.padded message).length % v.blockBytes = 0 := by
  have hp := v.wordBytes_pos
  have hb : 0 < v.blockBytes := by unfold blockBytes; omega
  simp only [padded, List.length_append, List.length_cons, List.length_nil, List.length_replicate,
    Bytes.length_ofNatBE, fillLength]
  generalize v.blockBytes = b at *
  have e : message.length + (0 + 1) + (b - (message.length + 1 + 2 * v.wordBytes) % b) % b +
      2 * v.wordBytes = (message.length + 1 + 2 * v.wordBytes) +
      (b - (message.length + 1 + 2 * v.wordBytes) % b) % b := by omega
  have hr := Nat.mod_lt (message.length + 1 + 2 * v.wordBytes) hb
  rw [e, Nat.add_mod, Nat.mod_mod]
  generalize (message.length + 1 + 2 * v.wordBytes) % b = r at *
  by_cases h0 : r = 0
  · subst h0; simp
  · rw [Nat.mod_eq_of_lt (show b - r < b by omega), show r + (b - r) = b by omega, Nat.mod_self]

/-- A digest has a fixed length. -/
theorem length_digest (message : Bytes) : (v.digest message).length = 8 * v.wordBytes := by
  simp [digest, Registers.toList]
  omega

end Variant

/-- Turns a word right by a number of bits. -/
def turn32 (x n : UInt32) : UInt32 := (x >>> n) ||| (x <<< (32 - n))

/-- Turns a word right by a number of bits. -/
def turn64 (x n : UInt64) : UInt64 := (x >>> n) ||| (x <<< (64 - n))

/-- Round constants of SHA-256: the fractions of the cube roots of the first 64 primes. -/
def constants256 : List UInt32 := [
  0x428A2F98, 0x71374491, 0xB5C0FBCF, 0xE9B5DBA5, 0x3956C25B, 0x59F111F1, 0x923F82A4,
  0xAB1C5ED5, 0xD807AA98, 0x12835B01, 0x243185BE, 0x550C7DC3, 0x72BE5D74, 0x80DEB1FE,
  0x9BDC06A7, 0xC19BF174, 0xE49B69C1, 0xEFBE4786, 0x0FC19DC6, 0x240CA1CC, 0x2DE92C6F,
  0x4A7484AA, 0x5CB0A9DC, 0x76F988DA, 0x983E5152, 0xA831C66D, 0xB00327C8, 0xBF597FC7,
  0xC6E00BF3, 0xD5A79147, 0x06CA6351, 0x14292967, 0x27B70A85, 0x2E1B2138, 0x4D2C6DFC,
  0x53380D13, 0x650A7354, 0x766A0ABB, 0x81C2C92E, 0x92722C85, 0xA2BFE8A1, 0xA81A664B,
  0xC24B8B70, 0xC76C51A3, 0xD192E819, 0xD6990624, 0xF40E3585, 0x106AA070, 0x19A4C116,
  0x1E376C08, 0x2748774C, 0x34B0BCB5, 0x391C0CB3, 0x4ED8AA4A, 0x5B9CCA4F, 0x682E6FF3,
  0x748F82EE, 0x78A5636F, 0x84C87814, 0x8CC70208, 0x90BEFFFA, 0xA4506CEB, 0xBEF9A3F7,
  0xC67178F2]

/-- Round constants of SHA-512: the fractions of the cube roots of the first 80 primes. -/
def constants512 : List UInt64 := [
  0x428A2F98D728AE22, 0x7137449123EF65CD, 0xB5C0FBCFEC4D3B2F, 0xE9B5DBA58189DBBC,
  0x3956C25BF348B538, 0x59F111F1B605D019, 0x923F82A4AF194F9B, 0xAB1C5ED5DA6D8118,
  0xD807AA98A3030242, 0x12835B0145706FBE, 0x243185BE4EE4B28C, 0x550C7DC3D5FFB4E2,
  0x72BE5D74F27B896F, 0x80DEB1FE3B1696B1, 0x9BDC06A725C71235, 0xC19BF174CF692694,
  0xE49B69C19EF14AD2, 0xEFBE4786384F25E3, 0x0FC19DC68B8CD5B5, 0x240CA1CC77AC9C65,
  0x2DE92C6F592B0275, 0x4A7484AA6EA6E483, 0x5CB0A9DCBD41FBD4, 0x76F988DA831153B5,
  0x983E5152EE66DFAB, 0xA831C66D2DB43210, 0xB00327C898FB213F, 0xBF597FC7BEEF0EE4,
  0xC6E00BF33DA88FC2, 0xD5A79147930AA725, 0x06CA6351E003826F, 0x142929670A0E6E70,
  0x27B70A8546D22FFC, 0x2E1B21385C26C926, 0x4D2C6DFC5AC42AED, 0x53380D139D95B3DF,
  0x650A73548BAF63DE, 0x766A0ABB3C77B2A8, 0x81C2C92E47EDAEE6, 0x92722C851482353B,
  0xA2BFE8A14CF10364, 0xA81A664BBC423001, 0xC24B8B70D0F89791, 0xC76C51A30654BE30,
  0xD192E819D6EF5218, 0xD69906245565A910, 0xF40E35855771202A, 0x106AA07032BBD1B8,
  0x19A4C116B8D2D0C8, 0x1E376C085141AB53, 0x2748774CDF8EEB99, 0x34B0BCB5E19B48A8,
  0x391C0CB3C5C95A63, 0x4ED8AA4AE3418ACB, 0x5B9CCA4F7763E373, 0x682E6FF3D6B2B8A3,
  0x748F82EE5DEFB2FC, 0x78A5636F43172F60, 0x84C87814A1F0AB72, 0x8CC702081A6439EC,
  0x90BEFFFA23631E28, 0xA4506CEBDE82BDE9, 0xBEF9A3F7B2C67915, 0xC67178F2E372532B,
  0xCA273ECEEA26619C, 0xD186B8C721C0C207, 0xEADA7DD6CDE0EB1E, 0xF57D4F7FEE6ED178,
  0x06F067AA72176FBA, 0x0A637DC5A2C898A6, 0x113F9804BEF90DAE, 0x1B710B35131C471B,
  0x28DB77F523047D84, 0x32CAAB7B40C72493, 0x3C9EBE0A15C9BEBC, 0x431D67C49C100D4C,
  0x4CC5D4BECB3E42B6, 0x597F299CFC657E2A, 0x5FCB6FAB3AD6FAEC, 0x6C44198C4A475817]

/-- SHA-256. -/
def sha256Variant : Variant UInt32 where
  wordBytes := 4
  ofNat := UInt32.ofNat
  toNat := UInt32.toNat
  scheduleNear x := turn32 x 17 ^^^ turn32 x 19 ^^^ (x >>> 10)
  scheduleFar x := turn32 x 7 ^^^ turn32 x 18 ^^^ (x >>> 3)
  roundLow x := turn32 x 2 ^^^ turn32 x 13 ^^^ turn32 x 22
  roundHigh x := turn32 x 6 ^^^ turn32 x 11 ^^^ turn32 x 25
  constants := constants256
  initial := ⟨0x6A09E667, 0xBB67AE85, 0x3C6EF372, 0xA54FF53A,
    0x510E527F, 0x9B05688C, 0x1F83D9AB, 0x5BE0CD19⟩
  wordBytes_pos := by decide

/-- SHA-512. -/
def sha512Variant : Variant UInt64 where
  wordBytes := 8
  ofNat := UInt64.ofNat
  toNat := UInt64.toNat
  scheduleNear x := turn64 x 19 ^^^ turn64 x 61 ^^^ (x >>> 6)
  scheduleFar x := turn64 x 1 ^^^ turn64 x 8 ^^^ (x >>> 7)
  roundLow x := turn64 x 28 ^^^ turn64 x 34 ^^^ turn64 x 39
  roundHigh x := turn64 x 14 ^^^ turn64 x 18 ^^^ turn64 x 41
  constants := constants512
  initial := ⟨0x6A09E667F3BCC908, 0xBB67AE8584CAA73B, 0x3C6EF372FE94F82B,
    0xA54FF53A5F1D36F1, 0x510E527FADE682D1, 0x9B05688C2B3E6C1F,
    0x1F83D9ABFB41BD6B, 0x5BE0CD19137E2179⟩
  wordBytes_pos := by decide

/-- The SHA-256 digest of a message. -/
def sha256 (message : Bytes) : Bytes := sha256Variant.digest message

/-- The SHA-512 digest of a message. -/
def sha512 (message : Bytes) : Bytes := sha512Variant.digest message

end Patronage.Digest
