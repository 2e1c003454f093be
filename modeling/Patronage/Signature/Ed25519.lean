import Patronage.Digest.Sha2
/-!
# Ed25519 signatures

Deterministic signatures over the twisted Edwards curve `-x² + y² = 1 + d x² y²` modulo
`2 ^ 255 - 19`.  Points are kept in extended coordinates, so adding needs no division.
`Signer` is what the rest of the library asks of a signature scheme, `Ed25519.signer` the scheme for
one secret seed.
-/

namespace Patronage

/-- A signature scheme with its key chosen. -/
structure Signer where
  publicKey : Bytes
  sign : Bytes → Bytes
  /-- Whether a signature, given second, is one for a message. -/
  verify : Bytes → Bytes → Bool

namespace Ed25519

/-- The order of the field. -/
def prime : Nat := .pow 2 255 - 19

/-- The order of the base point. -/
def order : Nat := .pow 2 252 + 27742317777372353535851937790883648493

/-- `base ^ e` modulo the order of the field. -/
def power (base e : Nat) : Nat :=
  if _h : e = 0 then 1
  else
    let half := power (base * base % prime) (e / 2)
    if e % 2 = 1 then base * half % prime else half
termination_by e
decreasing_by omega

/-- The inverse of an element of the field other than zero. -/
def inverse (a : Nat) : Nat := power a (prime - 2)

/-- The constant of the curve's equation. -/
def curveConstant : Nat :=
  37095705934669439343138083508754565189542113879843219016388785533085940283555

/-- A point in extended coordinates. -/
structure Point where
  x : Nat
  y : Nat
  z : Nat
  t : Nat

namespace Point

/-- The neutral point. -/
def zero : Point := ⟨0, 1, 1, 0⟩

/-- The base point. -/
def base : Point :=
  let x := 15112221349535400772501151409588531511454012693041857206046113283949847762202
  let y := 46316835694926478169428394003475163141307993866256225615783033603165251855960
  ⟨x, y, 1, x * y % prime⟩

/-- The sum of two points. -/
def add (p q : Point) : Point :=
  let a := (p.y + prime - p.x) * (q.y + prime - q.x) % prime
  let b := (p.y + p.x) * (q.y + q.x) % prime
  let c := 2 * p.t * q.t * curveConstant % prime
  let d := 2 * p.z * q.z % prime
  let e := b + prime - a
  let f := d + prime - c
  let g := d + c
  let h := b + a
  ⟨e * f % prime, g * h % prime, f * g % prime, e * h % prime⟩

/-- The inverse of a point. -/
def neg (p : Point) : Point :=
  ⟨(prime - p.x) % prime, p.y, p.z, (prime - p.t) % prime⟩

/-- The multiple of a point. -/
def scale (n : Nat) (p : Point) : Point :=
  if _h : n = 0 then zero
  else
    let half := scale (n / 2) (p.add p)
    if n % 2 = 1 then half.add p else half
termination_by n
decreasing_by omega

/-- The encoded form of a point: its ordinate, with the parity of its abscissa as top bit. -/
def encode (p : Point) : Bytes :=
  let w := inverse p.z
  let x := p.x * w % prime
  let y := p.y * w % prime
  Bytes.ofNatLE 32 (y + x % 2 * .pow 2 255)

end Point

/-- The length of a seed. -/
def seedLength : Nat := 32

/-- The length of a signature. -/
def signatureLength : Nat := 64

/-- The secret scalar of a seed: half of the seed's digest with its low three bits cleared and its
top bits set to `01`. -/
def secretScalar (seed : Bytes) : Nat :=
  let a := Bytes.toNatLE ((Digest.sha512 seed).take 32)
  .pow 2 254 + a % .pow 2 254 / 8 * 8

/-- The number that a digest denotes, modulo the order of the base point. -/
def reduce (message : Bytes) : Nat :=
  Bytes.toNatLE (Digest.sha512 message) % order

/-- The public point of a seed. -/
def publicPoint (seed : Bytes) : Point := Point.scale (secretScalar seed) Point.base

/-- The public key of a seed. -/
def publicKey (seed : Bytes) : Bytes := (publicPoint seed).encode

/-- The signature of a message under a seed. -/
def sign (seed message : Bytes) : Bytes :=
  let a := secretScalar seed
  let r := reduce ((Digest.sha512 seed).drop 32 ++ message)
  let point := (Point.scale r Point.base).encode
  let k := reduce (point ++ publicKey seed ++ message)
  point ++ Bytes.ofNatLE 32 ((r + k * a) % order)

/-- Whether a signature is one for a message under a public point: its second half `s` is reduced
and its first half encodes `s` times the base point less the public point's part. -/
def verify (point : Point) (message signature : Bytes) : Bool :=
  let first := signature.take 32
  let s := Bytes.toNatLE (signature.drop 32)
  let k := reduce (first ++ point.encode ++ message)
  signature.length == signatureLength && s < order &&
    ((Point.scale s Point.base).add (Point.scale k point).neg).encode == first

/-- The signature scheme for one seed. -/
def signer (seed : Bytes) : Signer where
  publicKey := publicKey seed
  sign := sign seed
  verify := verify (publicPoint seed)

end Ed25519

end Patronage
