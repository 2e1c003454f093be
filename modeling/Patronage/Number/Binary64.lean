/-!
# Rounding to 53 binary digits

Quotients of whole numbers, rounded to the numbers with 53 significant binary digits that a 64-bit
binary floating point format holds, a tie going to the even neighbour.  `Dyadic` is a non-negative
number `mantissa * 2 ^ exponent`, and `Dyadic.nearest` rounds a quotient.  `Binary64` adds signs,
infinities and the value that is not a number.  Main statements:

* `roundHalfEven_le`, `le_roundHalfEven` — a rounded quotient is at most half a unit away;
* `roundHalfEven_mul` — a whole quotient is kept.
-/

namespace Patronage

/-- The whole number nearest to `a / b`, the even one of two. -/
def roundHalfEven (a b : Nat) : Nat :=
  let q := a / b
  let r := a % b
  if 2 * r < b then q else if b < 2 * r then q + 1 else q + q % 2

theorem roundHalfEven_le (a : Nat) {b : Nat} (h : 0 < b) :
    2 * b * roundHalfEven a b ≤ 2 * a + b := by
  have e := Nat.div_add_mod a b
  have hr := Nat.mod_lt a h
  unfold roundHalfEven
  simp only
  generalize a / b = q at *
  generalize a % b = r at *
  have h1 : 2 * b * q = 2 * (b * q) := by rw [Nat.mul_assoc]
  have h2 : 2 * b * (q + 1) = 2 * (b * q) + 2 * b := by rw [Nat.mul_add, h1, Nat.mul_one]
  split
  · omega
  · split
    · omega
    · rcases Nat.mod_two_eq_zero_or_one q with hq | hq <;> rw [hq]
      · rw [Nat.add_zero]; omega
      · omega

theorem le_roundHalfEven (a : Nat) {b : Nat} (h : 0 < b) :
    2 * a ≤ 2 * b * roundHalfEven a b + b := by
  have e := Nat.div_add_mod a b
  have hr := Nat.mod_lt a h
  unfold roundHalfEven
  simp only
  generalize a / b = q at *
  generalize a % b = r at *
  have h1 : 2 * b * q = 2 * (b * q) := by rw [Nat.mul_assoc]
  have h2 : 2 * b * (q + 1) = 2 * (b * q) + 2 * b := by rw [Nat.mul_add, h1, Nat.mul_one]
  split
  · omega
  · split
    · omega
    · rcases Nat.mod_two_eq_zero_or_one q with hq | hq <;> rw [hq]
      · rw [Nat.add_zero]; omega
      · omega

/-- A whole quotient is kept. -/
theorem roundHalfEven_mul (q : Nat) {b : Nat} (h : 0 < b) : roundHalfEven (b * q) b = q := by
  simp [roundHalfEven, Nat.mul_div_cancel_left _ h, h]

/-- A non-negative number `mantissa * 2 ^ exponent`. -/
structure Dyadic where
  mantissa : Nat
  exponent : Int
deriving DecidableEq, Repr

namespace Dyadic

/-- The numerator of the number as a quotient. -/
def num (x : Dyadic) : Nat := x.mantissa * .pow 2 x.exponent.toNat

/-- The denominator of the number as a quotient. -/
def den (x : Dyadic) : Nat := .pow 2 (-x.exponent).toNat

theorem den_pos (x : Dyadic) : 0 < x.den := Nat.two_pow_pos _

/-- The number without its fraction. -/
def floor (x : Dyadic) : Nat := x.num / x.den

/-- Whether the number is whole. -/
def isWhole (x : Dyadic) : Bool := x.num % x.den == 0

/-- The greatest power of two that is at most a positive quotient. -/
def magnitude (a b : Nat) : Int :=
  let e : Int := (a.log2 : Int) - (b.log2 : Int)
  if b * .pow 2 e.toNat ≤ a * .pow 2 (-e).toNat then e else e - 1

/-- The least exponent of the format. -/
def leastExponent : Int := -1074

/-- The exponent of the last binary digit kept of a positive quotient. -/
def unitExponent (a b : Nat) : Int :=
  max (magnitude a b - 52) leastExponent

/-- The number with 53 binary digits nearest to a quotient. -/
def nearest (a b : Nat) : Dyadic :=
  if a = 0 then ⟨0, 0⟩
  else
    let e := unitExponent a b
    ⟨roundHalfEven (a * .pow 2 (-e).toNat) (b * .pow 2 e.toNat), e⟩

/-- The product with a whole number, rounded. -/
def times (x : Dyadic) (n : Nat) : Dyadic :=
  nearest (x.num * n) x.den

/-- Whether the number is below `2 ^ 1024` and so has a finite place in the format. -/
def isFinite (x : Dyadic) : Bool :=
  x.num < x.den * .pow 2 1024

end Dyadic

/-- A 64-bit binary floating point value. -/
inductive Binary64
  | finite (negative : Bool) (size : Dyadic)
  | infinite (negative : Bool)
  | nan
deriving DecidableEq, Repr

namespace Binary64

/-- The value nearest to a signed quotient. -/
def ofRatio (negative : Bool) (a b : Nat) : Binary64 :=
  let x := Dyadic.nearest a b
  if x.isFinite then .finite negative x else .infinite negative

/-- The value of `digits * 10 ^ scale` with a sign.  A scale far beyond the format is decided
without computing the power. -/
def ofDecimal (negative : Bool) (digits : Nat) (scale : Int) : Binary64 :=
  if digits = 0 || scale < -400 - digits.log2 then .finite negative ⟨0, 0⟩
  else if 400 < scale then .infinite negative
  else ofRatio negative (digits * .pow 10 scale.toNat) (.pow 10 (-scale).toNat)

/-- A finite value as a signed quotient. -/
def ratio? : Binary64 → Option (Int × Nat)
  | .finite negative x => some (if negative then -(x.num : Int) else x.num, x.den)
  | _ => none

/-- The value with the other sign. -/
def neg : Binary64 → Binary64
  | .finite negative x => .finite (!negative) x
  | .infinite negative => .infinite (!negative)
  | .nan => .nan

/-- The whole number that a value equals, if it does. -/
def whole? (x : Binary64) : Option Int :=
  match x.ratio? with
  | some (a, b) => if a % b = 0 then some (a / b) else none
  | none => none

/-- The sum of two finite values, rounded. -/
def add (x y : Binary64) : Binary64 :=
  match x.ratio?, y.ratio? with
  | some (a, b), some (c, d) =>
    let n := a * d + c * b
    ofRatio (n < 0) n.natAbs (b * d)
  | some _, none => y
  | none, some _ => x
  | none, none => if x = y then x else .nan

/-- The product of a value with a whole number, both rounded. -/
def mulNat (x : Binary64) (n : Nat) : Binary64 :=
  match x with
  | .finite negative s =>
    let y := Dyadic.nearest n 1
    ofRatio negative (s.num * y.num) (s.den * y.den)
  | .infinite negative => if n = 0 then .nan else .infinite negative
  | .nan => .nan

end Binary64

end Patronage
