import Mathlib.Algebra.Order.Field.Power
import Mathlib.Algebra.Order.Field.Rat
import Mathlib.Algebra.Order.Floor.Semifield
import Mathlib.Data.Rat.Floor
import Mathlib.Tactic.FieldSimp
import Mathlib.Tactic.Linarith
import Mathlib.Tactic.NormNum
import Mathlib.Tactic.Positivity
import Mathlib.Tactic.Ring
import Patronage.Proofs.Rounding
/-!
# The order of rounded quotients

Rounding to 53 binary digits keeps the order of quotients, and the last digit kept says how far off
a rounded quotient may be.  Both are read off the exponent of that digit: a greater quotient has no
smaller one, and where it has a greater one a power of two lies between the two rounded quotients.
Main statements:

* `Dyadic.toRat_nearest_mono` — a greater quotient is rounded to no smaller number;
* `Dyadic.toRat_nearest_le_add` — a rounded quotient exceeds it by half a unit at most;
* `roundedMillis_mono`, `mul_roundedMillis_le` — milliseconds that are counted never decrease, and
  have all passed in the first `2 ^ 33` seconds.
-/

namespace Patronage

/-! ### Rounding to whole numbers -/

section HalfEven

variable {a b c d n : Nat}

theorem div_le_roundHalfEven (a b : Nat) : a / b ≤ roundHalfEven a b := by
  unfold roundHalfEven
  dsimp only
  split_ifs <;> omega

theorem roundHalfEven_le_div_add_one (a b : Nat) : roundHalfEven a b ≤ a / b + 1 := by
  unfold roundHalfEven
  dsimp only
  split_ifs <;> omega

/-- Only the quotient counts. -/
theorem roundHalfEven_mul_mul_left {k : Nat} (hk : 0 < k) (a b : Nat) :
    roundHalfEven (k * a) (k * b) = roundHalfEven a b := by
  have hr : 2 * (k * (a % b)) = k * (2 * (a % b)) := Nat.mul_left_comm 2 k _
  unfold roundHalfEven
  dsimp only
  rw [Nat.mul_div_mul_left _ _ hk, Nat.mul_mod_mul_left, hr]
  simp only [Nat.mul_lt_mul_left hk]

theorem roundHalfEven_le_of_le (h : a ≤ c) (b : Nat) : roundHalfEven a b ≤ roundHalfEven c b := by
  obtain heq | hlt := Nat.eq_or_lt_of_le (Nat.div_le_div_right h (c := b))
  · -- between the same whole numbers the remainders decide
    have ha := Nat.div_add_mod a b
    have hc := Nat.div_add_mod c b
    rw [← heq] at hc
    unfold roundHalfEven
    dsimp only
    rw [← heq]
    split_ifs <;> omega
  · calc roundHalfEven a b ≤ a / b + 1 := roundHalfEven_le_div_add_one a b
      _ ≤ c / b := hlt
      _ ≤ roundHalfEven c b := div_le_roundHalfEven c b

/-- A greater quotient is rounded to no smaller whole number. -/
theorem roundHalfEven_mono (hb : 0 < b) (hd : 0 < d) (h : (a : ℚ) / b ≤ c / d) :
    roundHalfEven a b ≤ roundHalfEven c d := by
  rw [div_le_div_iff₀ (by exact_mod_cast hb) (by exact_mod_cast hd)] at h
  calc roundHalfEven a b = roundHalfEven (d * a) (d * b) := (roundHalfEven_mul_mul_left hd a b).symm
    _ ≤ roundHalfEven (b * c) (d * b) :=
      roundHalfEven_le_of_le (by rw [Nat.mul_comm d, Nat.mul_comm b]; exact_mod_cast h) _
    _ = roundHalfEven (b * c) (b * d) := by rw [Nat.mul_comm d b]
    _ = roundHalfEven c d := roundHalfEven_mul_mul_left hb c d

/-- A whole number above a quotient is above the rounded one. -/
theorem roundHalfEven_le_of_div_le (hb : 0 < b) (h : (a : ℚ) / b ≤ n) : roundHalfEven a b ≤ n := by
  have hmono : roundHalfEven a b ≤ roundHalfEven (b * n) b := by
    refine roundHalfEven_mono hb hb (h.trans_eq ?_)
    push_cast
    field_simp
  rwa [roundHalfEven_mul n hb] at hmono

/-- A whole number below a quotient is below the rounded one. -/
theorem le_roundHalfEven_of_le_div (hb : 0 < b) (h : (n : ℚ) ≤ a / b) : n ≤ roundHalfEven a b := by
  rw [le_div_iff₀ (by exact_mod_cast hb)] at h
  exact le_roundHalfEven_of_mul_le hb (by exact_mod_cast h)

/-- A rounded quotient exceeds it by a half at most. -/
theorem roundHalfEven_le_add_half (hb : 0 < b) (a : Nat) :
    (roundHalfEven a b : ℚ) ≤ a / b + 1 / 2 := by
  have h : 2 * (b : ℚ) * roundHalfEven a b ≤ 2 * a + b := by exact_mod_cast roundHalfEven_le a hb
  have hb' : (0 : ℚ) < b := by exact_mod_cast hb
  rw [div_add_div _ _ hb'.ne' two_ne_zero, le_div_iff₀ (by positivity)]
  linarith

end HalfEven

/-! ### Powers of two -/

/-- A power of two as a quotient of whole numbers. -/
theorem zpow_two_eq_div (e : Int) : (2 : ℚ) ^ e = 2 ^ e.toNat / 2 ^ (-e).toNat := by
  rw [← zpow_natCast_sub_natCast₀ two_ne_zero, Int.toNat_sub_toNat_neg]

namespace Dyadic

variable {a b c d : Nat} {k : Int}

/-- The number as a quotient. -/
def toRat (x : Dyadic) : ℚ := x.mantissa * 2 ^ x.exponent

theorem toRat_eq_div (x : Dyadic) : x.toRat = x.num / x.den := by
  unfold toRat num den
  rw [zpow_two_eq_div, ← mul_div_assoc]
  simp only [Nat.pow_eq]
  push_cast
  rfl

theorem floor_eq (x : Dyadic) : x.floor = ⌊x.toRat⌋₊ := by
  rw [toRat_eq_div, Nat.floor_div_eq_div, floor]

/-- The power of two that a quotient is measured by, as it is looked for. -/
theorem two_pow_mul_le_iff (hb : 0 < b) (e : Int) :
    b * 2 ^ e.toNat ≤ a * 2 ^ (-e).toNat ↔ (2 : ℚ) ^ e ≤ a / b := by
  have hb' : (0 : ℚ) < b := by exact_mod_cast hb
  rw [zpow_two_eq_div, div_le_div_iff₀ (by positivity) hb', mul_comm _ (b : ℚ)]
  exact_mod_cast Iff.rfl

/-- The power of two that a quotient is measured by is the greatest below it. -/
theorem zpow_magnitude_le (ha : a ≠ 0) (hb : 0 < b) : (2 : ℚ) ^ magnitude a b ≤ a / b := by
  have hb' : (0 : ℚ) < b := by exact_mod_cast hb
  unfold magnitude
  dsimp only
  split
  · rename_i h
    exact (two_pow_mul_le_iff hb _).1 h
  · have hlow : (2 : ℚ) ^ a.log2 ≤ a := by exact_mod_cast Nat.log2_self_le ha
    have hhigh : (b : ℚ) ≤ 2 ^ (b.log2 + 1) := by exact_mod_cast Nat.lt_log2_self.le
    calc (2 : ℚ) ^ ((a.log2 : Int) - b.log2 - 1) = 2 ^ a.log2 / 2 ^ (b.log2 + 1) := by
          rw [← zpow_natCast, ← zpow_natCast, ← zpow_sub₀ two_ne_zero]
          congr 1
          omega
      _ ≤ a / b := div_le_div₀ (by positivity) hlow hb' hhigh

theorem lt_zpow_magnitude (hb : 0 < b) : (a : ℚ) / b < 2 ^ (magnitude a b + 1) := by
  have hb' : (0 : ℚ) < b := by exact_mod_cast hb
  unfold magnitude
  dsimp only
  split
  · have hhigh : (a : ℚ) < 2 ^ (a.log2 + 1) := by exact_mod_cast Nat.lt_log2_self
    have hlow : (2 : ℚ) ^ b.log2 ≤ b := by exact_mod_cast Nat.log2_self_le hb.ne'
    calc (a : ℚ) / b < 2 ^ (a.log2 + 1) / 2 ^ b.log2 :=
          div_lt_div₀ hhigh hlow (by positivity) (by positivity)
      _ = 2 ^ ((a.log2 : Int) - b.log2 + 1) := by
          rw [← zpow_natCast, ← zpow_natCast, ← zpow_sub₀ two_ne_zero]
          congr 1
          omega
  · rename_i h
    rw [Int.sub_add_cancel]
    exact lt_of_not_ge fun hle => h ((two_pow_mul_le_iff hb _).2 hle)

theorem magnitude_mono (ha : a ≠ 0) (hb : 0 < b) (hd : 0 < d) (h : (a : ℚ) / b ≤ c / d) :
    magnitude a b ≤ magnitude c d := by
  have hlt : (2 : ℚ) ^ magnitude a b < 2 ^ (magnitude c d + 1) :=
    ((zpow_magnitude_le ha hb).trans h).trans_lt (lt_zpow_magnitude hd)
  have := (zpow_lt_zpow_iff_right₀ one_lt_two).1 hlt
  omega

/-- A quotient below a power of two keeps its digits from 53 places below on. -/
theorem unitExponent_le (ha : a ≠ 0) (hb : 0 < b) (h : (a : ℚ) / b < 2 ^ k)
    (hk : leastExponent ≤ k - 53) : unitExponent a b ≤ k - 53 := by
  have hlt := (zpow_lt_zpow_iff_right₀ one_lt_two).1 ((zpow_magnitude_le ha hb).trans_lt h)
  unfold unitExponent
  omega

/-! ### Rounded quotients -/

/-- The quotient in units of the last digit kept. -/
theorem scaled_div (a b : Nat) (e : Int) :
    ((a * 2 ^ (-e).toNat : Nat) : ℚ) / (b * 2 ^ e.toNat : Nat) = a / b / 2 ^ e := by
  rw [zpow_two_eq_div]
  push_cast
  rw [div_div_div_eq]

theorem toRat_nonneg (x : Dyadic) : 0 ≤ x.toRat := by
  unfold toRat
  positivity

theorem toRat_nearest_zero (b : Nat) : (nearest 0 b).toRat = 0 := by
  simp [nearest, toRat]

/-- What is rounded, in units of the last digit kept. -/
theorem toRat_nearest (ha : a ≠ 0) (b : Nat) :
    (nearest a b).toRat = roundHalfEven (a * 2 ^ (-unitExponent a b).toNat)
      (b * 2 ^ (unitExponent a b).toNat) * 2 ^ unitExponent a b := by
  rw [nearest_of_ne_zero ha, toRat]

/-- A rounded quotient is no greater than a power of two above the quotient, if that power is no
smaller than the last digit kept. -/
theorem toRat_nearest_le_zpow (ha : a ≠ 0) (hb : 0 < b) {n : Nat}
    (h : (a : ℚ) / b ≤ 2 ^ (unitExponent a b + n)) :
    (nearest a b).toRat ≤ 2 ^ (unitExponent a b + n) := by
  rw [toRat_nearest ha]
  generalize unitExponent a b = e at *
  have hround : roundHalfEven (a * 2 ^ (-e).toNat) (b * 2 ^ e.toNat) ≤ 2 ^ n := by
    refine roundHalfEven_le_of_div_le (by positivity) ?_
    rwa [scaled_div, div_le_iff₀ (by positivity), Nat.cast_pow, Nat.cast_ofNat, ← zpow_natCast,
      ← zpow_add₀ two_ne_zero, add_comm]
  rw [zpow_add₀ two_ne_zero, mul_comm ((2 : ℚ) ^ e), zpow_natCast]
  gcongr
  exact_mod_cast hround

/-- A rounded quotient is no less than the power of two that the quotient is measured by, unless its
last digit is the last of the format. -/
theorem zpow_le_toRat_nearest (ha : a ≠ 0) (hb : 0 < b) (h : leastExponent < unitExponent a b) :
    (2 : ℚ) ^ (unitExponent a b + 52) ≤ (nearest a b).toRat := by
  have hlow := zpow_magnitude_le ha hb
  have hm : magnitude a b = unitExponent a b + 52 := by
    unfold unitExponent at h ⊢
    omega
  rw [hm] at hlow
  rw [toRat_nearest ha]
  generalize unitExponent a b = e at *
  have hround : 2 ^ 52 ≤ roundHalfEven (a * 2 ^ (-e).toNat) (b * 2 ^ e.toNat) := by
    refine le_roundHalfEven_of_le_div (by positivity) ?_
    rwa [scaled_div, le_div_iff₀ (by positivity), Nat.cast_pow, Nat.cast_ofNat, ← zpow_natCast,
      ← zpow_add₀ two_ne_zero, add_comm]
  rw [zpow_add₀ two_ne_zero, mul_comm ((2 : ℚ) ^ e)]
  gcongr
  exact_mod_cast hround

/-- A greater quotient is rounded to no smaller number. -/
theorem toRat_nearest_mono (hb : 0 < b) (hd : 0 < d) (h : (a : ℚ) / b ≤ c / d) :
    (nearest a b).toRat ≤ (nearest c d).toRat := by
  by_cases ha : a = 0
  · rw [ha, toRat_nearest_zero]
    exact toRat_nonneg _
  have hpos : (0 : ℚ) < a / b := by positivity
  have hc : c ≠ 0 := by
    rintro rfl
    rw [Nat.cast_zero, zero_div] at h
    exact absurd hpos h.not_gt
  have hm := magnitude_mono ha hb hd h
  obtain heq | hlt : unitExponent a b = unitExponent c d ∨ unitExponent a b < unitExponent c d := by
    unfold unitExponent
    omega
  · -- in the same units the whole numbers of them are in order
    rw [toRat_nearest ha, toRat_nearest hc, heq]
    generalize unitExponent c d = e
    gcongr
    refine roundHalfEven_mono (by positivity) (by positivity) ?_
    rw [scaled_div, scaled_div]
    gcongr
  · -- a power of two lies between the two
    have hbelow : (a : ℚ) / b ≤ 2 ^ (unitExponent a b + (53 : Nat)) := by
      refine (lt_zpow_magnitude hb).le.trans (zpow_le_zpow_right₀ one_le_two ?_)
      unfold unitExponent
      omega
    have hleast : leastExponent < unitExponent c d := by
      refine lt_of_le_of_lt ?_ hlt
      unfold unitExponent
      omega
    calc (nearest a b).toRat ≤ 2 ^ (unitExponent a b + (53 : Nat)) :=
          toRat_nearest_le_zpow ha hb hbelow
      _ ≤ 2 ^ (unitExponent c d + 52) := zpow_le_zpow_right₀ one_le_two (by omega)
      _ ≤ (nearest c d).toRat := zpow_le_toRat_nearest hc hd hleast

/-- A rounded quotient exceeds it by half a unit of its last digit at most. -/
theorem toRat_nearest_le_add (hb : 0 < b) (h : (a : ℚ) / b < 2 ^ k)
    (hk : leastExponent ≤ k - 53) : (nearest a b).toRat ≤ a / b + 2 ^ (k - 54) := by
  by_cases ha : a = 0
  · rw [ha, toRat_nearest_zero]
    positivity
  have he := unitExponent_le ha hb h hk
  rw [toRat_nearest ha]
  generalize unitExponent a b = e at *
  have hround := roundHalfEven_le_add_half (b := b * 2 ^ e.toNat) (by positivity)
    (a * 2 ^ (-e).toNat)
  rw [scaled_div] at hround
  calc (roundHalfEven (a * 2 ^ (-e).toNat) (b * 2 ^ e.toNat) : ℚ) * 2 ^ e
      ≤ (a / b / 2 ^ e + 1 / 2) * 2 ^ e := by gcongr
    _ = a / b + 2 ^ (e - 1) := by
      rw [zpow_sub_one₀ two_ne_zero]
      field_simp
    _ ≤ a / b + 2 ^ (k - 54) :=
      add_le_add_right (zpow_le_zpow_right₀ one_le_two (by omega)) _

/-- The quotient that a product is rounded from. -/
theorem num_mul_div_den (x : Dyadic) (n : Nat) :
    ((x.num * n : Nat) : ℚ) / x.den = x.toRat * n := by
  rw [toRat_eq_div]
  push_cast
  ring

end Dyadic

/-! ### Milliseconds -/

/-- Milliseconds that are counted never decrease. -/
theorem roundedMillis_mono {m n : Nat} (h : m ≤ n) : roundedMillis m ≤ roundedMillis n := by
  have hseconds : (Dyadic.nearest m 1000000).toRat ≤ (Dyadic.nearest n 1000000).toRat :=
    Dyadic.toRat_nearest_mono (by decide) (by decide) (by gcongr)
  unfold roundedMillis Dyadic.times
  rw [Dyadic.floor_eq, Dyadic.floor_eq]
  refine Nat.floor_le_floor (Dyadic.toRat_nearest_mono (Dyadic.den_pos _) (Dyadic.den_pos _) ?_)
  rw [Dyadic.num_mul_div_den, Dyadic.num_mul_div_den]
  gcongr

/-- In the first `2 ^ 33` seconds all milliseconds that are counted have passed. -/
theorem mul_roundedMillis_le {micros : Nat} (h : micros < 2 ^ 33 * 1000000) :
    1000 * roundedMillis micros ≤ micros := by
  have hmicros : (micros : ℚ) < 2 ^ 33 * 1000000 := by exact_mod_cast h
  -- the seconds are off by half a microsecond at most
  have hseconds : (Dyadic.nearest micros 1000000).toRat ≤ micros / 1000000 + 1 / 2 ^ 21 := by
    refine (Dyadic.toRat_nearest_le_add (k := 33) (by decide) ?_ (by decide)).trans_eq (by norm_num)
    rw [div_lt_iff₀ (by norm_num)]
    exact_mod_cast h
  unfold roundedMillis
  generalize Dyadic.nearest micros 1000000 = seconds at *
  -- and the milliseconds by half a microsecond more
  have hmillis : (seconds.times 1000).toRat ≤ seconds.toRat * 1000 + 1 / 2 ^ 11 := by
    have hquotient := seconds.num_mul_div_den 1000
    rw [Nat.cast_ofNat] at hquotient
    rw [← hquotient]
    refine (Dyadic.toRat_nearest_le_add (k := 43) seconds.den_pos ?_ (by decide)).trans_eq
      (by norm_num)
    rw [hquotient, zpow_ofNat]
    linarith
  have hfloor : ((seconds.times 1000).floor : ℚ) ≤ (seconds.times 1000).toRat := by
    rw [Dyadic.floor_eq]
    exact Nat.floor_le (Dyadic.toRat_nonneg _)
  have hlt : 1000 * ((seconds.times 1000).floor : ℚ) < micros + 1 := by linarith
  exact Nat.lt_succ_iff.1 (by exact_mod_cast hlt)

end Patronage
