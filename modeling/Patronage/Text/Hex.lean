/-!
# Bytes and their hexadecimal text

Bytes are lists of octets.  `Bytes.toHex` writes two lower case digits an octet, and
`Bytes.ofHex?` reads them back (`ofHex?_toHex`).  Numbers are written big-endian in a fixed number
of octets.
-/

namespace Patronage

/-- A string of octets. -/
abbrev Bytes := List UInt8

namespace Text

/-- The hexadecimal digit of a number below sixteen. -/
def hexDigit (n : Nat) : Char :=
  if n < 10 then Char.ofNat (0x30 + n) else Char.ofNat (0x57 + n)

/-- The value of a hexadecimal digit in either case. -/
def hexValue? (c : Char) : Option Nat :=
  let n := c.toNat
  if 0x30 ≤ n && n ≤ 0x39 then some (n - 0x30)
  else if 0x61 ≤ n && n ≤ 0x66 then some (n - 0x57)
  else if 0x41 ≤ n && n ≤ 0x46 then some (n - 0x37)
  else none

/-- A number in a given count of hexadecimal digits, high digits dropped. -/
def hexFixed : Nat → Nat → List Char
  | 0, _ => []
  | k + 1, n => hexFixed k (n / 16) ++ [hexDigit (n % 16)]

@[simp] theorem length_hexFixed (k n : Nat) : (hexFixed k n).length = k := by
  induction k generalizing n with
  | zero => rfl
  | succ k ih => simp [hexFixed, ih]

theorem hexValue?_hexDigit {n : Nat} (h : n < 16) : hexValue? (hexDigit n) = some n := by
  have : ∀ m : Fin 16, hexValue? (hexDigit m.val) = some m.val := by decide
  exact this ⟨n, h⟩

end Text

namespace Bytes

/-- The two digits of an octet. -/
def octetHex (b : UInt8) : List Char :=
  [Text.hexDigit (b.toNat / 16), Text.hexDigit (b.toNat % 16)]

/-- The digits of a string of octets. -/
def hexChars (bs : Bytes) : List Char :=
  bs.flatMap octetHex

/-- The hexadecimal text of a string of octets. -/
def toHex (bs : Bytes) : String :=
  String.ofList (hexChars bs)

/-- Reads digits two at a time. -/
def ofHexChars? : List Char → Option Bytes
  | [] => some []
  | a :: b :: cs =>
    match Text.hexValue? a, Text.hexValue? b with
    | some x, some y => (ofHexChars? cs).map (UInt8.ofNat (16 * x + y) :: ·)
    | _, _ => none
  | [_] => none

/-- The octets that hexadecimal text writes. -/
def ofHex? (s : String) : Option Bytes :=
  ofHexChars? s.toList

theorem ofHexChars?_hexChars (bs : Bytes) : ofHexChars? (hexChars bs) = some bs := by
  induction bs with
  | nil => rfl
  | cons b bs ih =>
    have hb : b.toNat < 256 := b.toNat_lt
    have hx := Text.hexValue?_hexDigit (n := b.toNat / 16) (by omega)
    have hy := Text.hexValue?_hexDigit (n := b.toNat % 16) (by omega)
    have hsum : 16 * (b.toNat / 16) + b.toNat % 16 = b.toNat := by omega
    have ih' : ofHexChars? (List.flatMap octetHex bs) = some bs := ih
    simp [hexChars, octetHex, ofHexChars?, hx, hy, hsum, ih']

theorem ofHex?_toHex (bs : Bytes) : ofHex? (toHex bs) = some bs := by
  simp [ofHex?, toHex, ofHexChars?_hexChars]

/-- The low `k` octets of a number, highest first. -/
def ofNatBE : Nat → Nat → Bytes
  | 0, _ => []
  | k + 1, n => ofNatBE k (n / 256) ++ [UInt8.ofNat (n % 256)]

/-- The number that octets write, highest first. -/
def toNatBE (bs : Bytes) : Nat :=
  bs.foldl (fun n b => 256 * n + b.toNat) 0

/-- The low `k` octets of a number, lowest first. -/
def ofNatLE : Nat → Nat → Bytes
  | 0, _ => []
  | k + 1, n => UInt8.ofNat (n % 256) :: ofNatLE k (n / 256)

/-- The number that octets write, lowest first. -/
def toNatLE : Bytes → Nat
  | [] => 0
  | b :: bs => b.toNat + 256 * toNatLE bs

@[simp] theorem length_ofNatBE (k n : Nat) : (ofNatBE k n).length = k := by
  induction k generalizing n with
  | zero => rfl
  | succ k ih => simp [ofNatBE, ih]

@[simp] theorem length_ofNatLE (k n : Nat) : (ofNatLE k n).length = k := by
  induction k generalizing n with
  | zero => rfl
  | succ k ih => simp [ofNatLE, ih]

theorem toNatBE_ofNatBE (k n : Nat) : toNatBE (ofNatBE k n) = n % Nat.pow 256 k := by
  induction k generalizing n with
  | zero => simp [ofNatBE, toNatBE, Nat.mod_one]
  | succ k ih =>
    have h := ih (n / 256)
    unfold toNatBE at h ⊢
    have hb : (UInt8.ofNat (n % 256)).toNat = n % 256 := by simp
    rw [ofNatBE, List.foldl_append, h]
    simp only [List.foldl_cons, List.foldl_nil, hb]
    show _ = n % (Nat.pow 256 k * 256)
    rw [Nat.mul_comm (Nat.pow 256 k), Nat.mod_mul]
    omega

end Bytes

end Patronage
