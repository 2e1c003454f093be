import Mathlib.Algebra.Group.Nat.Defs
import Patronage.Period
/-!
# Whole numbers and rounding

Rounding to 53 binary digits is monotone enough for whole numbers: one that fits in the digits and
lies below a quotient lies below the rounded quotient too, and if it is the quotient it is kept.  So
counting milliseconds through rounded seconds never misses a second that has passed, and whole
seconds are read off as they are.  Main statements:

* `Dyadic.mul_den_le_num_nearest` — a whole number below a quotient is below the rounded one;
* `Dyadic.floor_nearest_mul` — a whole quotient is kept;
* `Period.lt_cycleAfter` — the cycle that is counted as running has not ended;
* `roundedSeconds_mul` — whole seconds are kept, before 1970 too.
-/

namespace Patronage

/-- Whole numbers up to this bound have a place among the numbers with 53 binary digits. -/
def wholeBound : Nat := 2 ^ 53

/-- A whole number below a quotient is below the rounded one. -/
theorem le_roundHalfEven_of_mul_le {n a b : Nat} (hb : 0 < b) (h : n * b ≤ a) :
    n ≤ roundHalfEven a b := by
  have hq : n ≤ a / b := (Nat.le_div_iff_mul_le hb).2 h
  unfold roundHalfEven
  dsimp only
  split
  · exact hq
  · split <;> omega

namespace Dyadic

variable {a b n : Nat}

/-- The power of two that a positive quotient is measured by does not exceed it. -/
theorem mul_two_pow_le_of_magnitude (ha : a ≠ 0) (h : magnitude a b = n) : b * 2 ^ n ≤ a := by
  have hlow : 2 ^ a.log2 ≤ a := Nat.log2_self_le ha
  have hhigh : b < 2 ^ (b.log2 + 1) := Nat.lt_log2_self
  unfold magnitude at h
  dsimp only at h
  split at h
  · rename_i hle
    rw [h] at hle
    simpa using hle
  · -- the quotient of the leading powers is twice as large
    have hlog : b.log2 + 1 + n = a.log2 := by omega
    calc b * 2 ^ n ≤ 2 ^ (b.log2 + 1) * 2 ^ n := Nat.mul_le_mul_right _ (Nat.le_of_lt hhigh)
      _ = 2 ^ a.log2 := by rw [← Nat.pow_add, hlog]
      _ ≤ a := hlow

/-- A whole digit is dropped only where the quotient has more than 53 of them. -/
theorem wholeBound_mul_le_of_unitExponent (ha : a ≠ 0) (h : unitExponent a b = n + 1) :
    b * (wholeBound * 2 ^ n) ≤ a := by
  have hm : magnitude a b = (53 + n : Nat) := by
    unfold unitExponent leastExponent at h
    omega
  rw [wholeBound, ← Nat.pow_add]
  exact mul_two_pow_le_of_magnitude ha hm

theorem nearest_of_ne_zero (ha : a ≠ 0) :
    nearest a b = ⟨roundHalfEven (a * 2 ^ (-unitExponent a b).toNat)
      (b * 2 ^ (unitExponent a b).toNat), unitExponent a b⟩ := if_neg ha

/-- Where no whole digit is dropped only the numerator is scaled. -/
theorem num_nearest_of_nonpos (ha : a ≠ 0) (he : unitExponent a b ≤ 0) :
    (nearest a b).num = roundHalfEven (a * (nearest a b).den) b := by
  rw [nearest_of_ne_zero ha]
  simp [num, den, Int.toNat_of_nonpos he]

/-- Where whole digits are dropped the rounded quotient is whole. -/
theorem num_nearest_of_pos (ha : a ≠ 0) (he : unitExponent a b = n + 1) :
    (nearest a b).num = roundHalfEven a (b * 2 ^ (n + 1)) * 2 ^ (n + 1) ∧
      (nearest a b).den = 1 := by
  have hneg : (-unitExponent a b).toNat = 0 := by omega
  have hpos : (unitExponent a b).toNat = n + 1 := by omega
  rw [nearest_of_ne_zero ha]
  simp [num, den, hneg, hpos]

/-- Either no whole digit is dropped, or there are more than 53 of them. -/
theorem unitExponent_cases (a b : Nat) :
    unitExponent a b ≤ 0 ∨ ∃ e : Nat, unitExponent a b = e + 1 := by
  by_cases he : unitExponent a b ≤ 0
  · exact .inl he
  · exact .inr ⟨(unitExponent a b - 1).toNat, by omega⟩

/-- A whole number that fits and is below a quotient is below the rounded one. -/
theorem mul_den_le_num_nearest (hb : 0 < b) (hn : n ≤ wholeBound) (h : n * b ≤ a) :
    n * (nearest a b).den ≤ (nearest a b).num := by
  by_cases ha : a = 0
  · have hzero : n = 0 := by
      rw [ha, Nat.le_zero, Nat.mul_eq_zero] at h
      exact h.resolve_right (Nat.ne_of_gt hb)
    simp [hzero]
  obtain he | ⟨e, he⟩ := unitExponent_cases a b
  · rw [num_nearest_of_nonpos ha he]
    refine le_roundHalfEven_of_mul_le hb ?_
    rw [Nat.mul_right_comm]
    exact Nat.mul_le_mul_right _ h
  · -- the quotient has 53 whole digits, and those are kept
    have hwhole : 2 ^ 52 * (b * 2 ^ (e + 1)) ≤ a := by
      refine Nat.le_trans (Nat.le_of_eq ?_) (wholeBound_mul_le_of_unitExponent ha he)
      rw [wholeBound, Nat.mul_left_comm, ← Nat.pow_add, ← Nat.pow_add]
      congr 2
      omega
    have hround := le_roundHalfEven_of_mul_le (Nat.mul_pos hb (Nat.two_pow_pos (e + 1))) hwhole
    obtain ⟨hnum, hden⟩ := num_nearest_of_pos ha he
    rw [hnum, hden, Nat.mul_one]
    calc n ≤ 2 ^ 52 * 2 ^ 1 := hn
      _ ≤ roundHalfEven a (b * 2 ^ (e + 1)) * 2 ^ (e + 1) :=
        Nat.mul_le_mul hround (Nat.pow_le_pow_right (by decide) (by omega))

/-- A whole quotient that fits is rounded to itself, whatever its exponent is. -/
theorem num_nearest_mul (hb : 0 < b) (hn : n < wholeBound) :
    (nearest (n * b) b).num = n * (nearest (n * b) b).den := by
  by_cases ha : n * b = 0
  · have hzero : n = 0 := (Nat.mul_eq_zero.1 ha).resolve_right (Nat.ne_of_gt hb)
    simp [hzero, nearest, num]
  obtain he | ⟨e, he⟩ := unitExponent_cases (n * b) b
  · rw [num_nearest_of_nonpos ha he, Nat.mul_right_comm, Nat.mul_comm _ b, roundHalfEven_mul _ hb]
  · -- a quotient with more whole digits does not fit
    have hwhole := wholeBound_mul_le_of_unitExponent ha he
    rw [Nat.mul_comm n] at hwhole
    have hle := Nat.le_of_mul_le_mul_left hwhole hb
    have hpow := Nat.mul_le_mul_left wholeBound (Nat.two_pow_pos e)
    omega

/-- A whole quotient that fits is kept. -/
theorem floor_nearest_mul (hb : 0 < b) (hn : n < wholeBound) : (nearest (n * b) b).floor = n := by
  rw [floor, num_nearest_mul hb hn, Nat.mul_div_cancel _ (den_pos _)]

end Dyadic

/-! ### Time in whole units -/

/-- Milliseconds are not counted below whole seconds that have passed. -/
theorem le_roundedMillis {seconds micros : Nat} (hs : 1000 * seconds ≤ wholeBound)
    (h : 1000000 * seconds ≤ micros) : 1000 * seconds ≤ roundedMillis micros := by
  have hround : seconds * (Dyadic.nearest micros 1000000).den ≤
      (Dyadic.nearest micros 1000000).num :=
    Dyadic.mul_den_le_num_nearest (by decide) (by omega) (by rwa [Nat.mul_comm])
  have hscaled : 1000 * seconds * (Dyadic.nearest micros 1000000).den ≤
      (Dyadic.nearest micros 1000000).num * 1000 := by
    rw [Nat.mul_assoc, Nat.mul_comm 1000]
    exact Nat.mul_le_mul_right _ hround
  -- the product is rounded a second time
  have htimes := Dyadic.mul_den_le_num_nearest (Dyadic.den_pos _) hs hscaled
  exact (Nat.le_div_iff_mul_le (Dyadic.den_pos _)).2 htimes

/-- Whole seconds are kept, before 1970 too. -/
theorem roundedSeconds_mul {seconds : Int} (h : seconds.natAbs < wholeBound) :
    roundedSeconds (seconds * 1000000) = seconds := by
  have habs : (seconds * 1000000).natAbs = seconds.natAbs * 1000000 := Int.natAbs_mul _ _
  unfold roundedSeconds
  dsimp only
  rw [habs, Dyadic.floor_nearest_mul (by decide) h]
  split <;> omega

namespace Period

/-- A period is some whole seconds long. -/
theorem exists_millis_eq (p : Period) : ∃ seconds, p.millis = 1000 * seconds := by
  obtain ⟨days, hdays⟩ := p.dayMillis_dvd_millis
  exact ⟨86400 * days, by rw [hdays, dayMillis]; omega⟩

/-- The cycle that is counted as running has not ended. -/
theorem lt_cycleAfter (p : Period) {micros : Nat} (h : micros ≤ 1000 * wholeBound) :
    micros < 1000 * (p.cycleAfter micros * p.millis) := by
  refine Nat.lt_of_not_le fun hle => ?_
  obtain ⟨seconds, hseconds⟩ := p.exists_millis_eq
  have hmillis : p.cycleAfter micros * p.millis = 1000 * (p.cycleAfter micros * seconds) := by
    rw [hseconds, Nat.mul_left_comm]
  -- otherwise the seconds of all cycles so far have passed, and are counted
  have hcounted : p.cycleAfter micros * p.millis ≤ roundedMillis micros := by
    rw [hmillis] at hle ⊢
    exact le_roundedMillis (by omega) (by omega)
  have hpos : 0 < p.millis := Nat.lt_of_lt_of_le (by decide) p.day_le_millis
  have hcycles := (Nat.le_div_iff_mul_le hpos).2 hcounted
  unfold cycleAfter at hcycles
  omega

end Period

end Patronage
