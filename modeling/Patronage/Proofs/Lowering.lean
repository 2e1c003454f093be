import Patronage.Text.Case
/-!
# Text in lower case

Lowering a character gives characters that lowering leaves alone: no run of the table leads to a
place on any run, which is a finite check of pairs of runs.  So text that was lowered stays as it is
when it is lowered again.  Main statements:

* `Case.Run.not_covers_of_misses` — what a check of two runs says of every character;
* `Case.stays_of_mem_lowerChar` — the lower case forms of characters are in lower case;
* `lowerString_lowerString` — lowering text twice is lowering it once.
-/

namespace Patronage.Text

namespace Case

/-! ### Runs -/

namespace Run

/-- Whether no place that a run leads to lies on another run, as far as ends and parities tell. -/
def misses (r r' : Run) : Bool :=
  Nat.blt (r.last + r.shift).toNat r'.first || Nat.blt r'.last (r.first + r.shift).toNat ||
    (Nat.beq r'.step 2 && (Nat.beq r.step 2 || Nat.beq r.first r.last) &&
      ((r.first + r.shift).toNat + r'.first) % 2 == 1)

/-- Whether every place that a run leads to is a code point. -/
def isSound (r : Run) : Bool :=
  0 ≤ r.first + r.shift && (r.last + r.shift < 0xD800 ||
    (0xDFFF < r.first + r.shift && r.last + r.shift < 0x110000))

variable {r r' : Run} {n : Nat}

theorem covers_iff :
    r.covers n ↔ (r.first ≤ n ∧ n ≤ r.last) ∧ (n - r.first) % r.step = 0 := by
  simp [covers]

theorem not_covers_of_misses (h : r.misses r') (hn : r.covers n)
    (hsound : 0 ≤ (r.first : Int) + r.shift) : ¬r'.covers (n + r.shift).toNat := by
  intro hn'
  obtain ⟨⟨hfirst, hlast⟩, hstep⟩ := covers_iff.1 hn
  obtain ⟨⟨hfirst', hlast'⟩, hstep'⟩ := covers_iff.1 hn'
  simp only [misses, Bool.or_eq_true, Bool.and_eq_true, Nat.blt_eq, Nat.beq_eq, beq_iff_eq] at h
  obtain (h | h) | ⟨⟨hpairs, hodd⟩, hparity⟩ := h
  · omega
  · omega
  · -- both runs go by twos, from places of different parity
    rw [hpairs] at hstep'
    obtain heven | hsingle := hodd
    · rw [heven] at hstep
      omega
    · omega

theorem isValidChar_of_covers (h : r.isSound) (hn : r.covers n) :
    (n + r.shift).toNat.isValidChar := by
  obtain ⟨⟨hfirst, hlast⟩, -⟩ := covers_iff.1 hn
  simp only [isSound, Bool.or_eq_true, Bool.and_eq_true, decide_eq_true_eq] at h
  obtain ⟨hpos, h | ⟨hlow, hhigh⟩⟩ := h
  · exact .inl (by omega)
  · exact .inr (by omega)

end Run

/-- The capitals of ASCII. -/
def asciiCapitals : Run := ⟨0x41, 0x5A, 1, 32⟩

/-- The capital whose lower case form is two characters; the run leads to the first of them. -/
def dottedCapital : Run := ⟨0x130, 0x130, 1, -199⟩

/-- The runs of all characters that lowering changes. -/
def capitalRuns : List Run := asciiCapitals :: dottedCapital :: lowerRuns

theorem misses_capitalRuns : ∀ r ∈ capitalRuns, ∀ r' ∈ capitalRuns, r.misses r' := by
  have htable : capitalRuns.all (fun r => capitalRuns.all r.misses) := by decide +kernel
  exact fun r hr => List.all_eq_true.1 (List.all_eq_true.1 htable r hr)

theorem isSound_capitalRuns : ∀ r ∈ capitalRuns, r.isSound := by decide +kernel

/-! ### Characters -/

/-- Whether lowering leaves a character as it is, wherever it stands. -/
def Stays (c : Char) : Prop := ∀ r ∈ capitalRuns, ¬r.covers c.toNat

instance (c : Char) : Decidable (Stays c) :=
  inferInstanceAs (Decidable (∀ r ∈ capitalRuns, ¬r.covers c.toNat))

theorem Stays.ne_sigma {c : Char} (h : Stays c) : c ≠ 'Σ' := by
  rintro rfl
  exact absurd h (by decide +kernel)

theorem toLower_of_not_covers {c : Char} (h : ¬asciiCapitals.covers c.toNat) : c.toLower = c := by
  unfold Char.toLower
  refine dif_neg fun ⟨hA, hZ⟩ => h (Run.covers_iff.2 ⟨⟨hA, hZ⟩, Nat.mod_one _⟩)

theorem lookup_lowerExpansions (n : Nat) :
    lowerExpansions.lookup n = if n = 0x130 then some [0x69, 0x307] else none := by
  rw [lowerExpansions, List.lookup_cons, List.lookup_nil]
  by_cases h : n = 0x130
  · rw [if_pos h, h]
    rfl
  · rw [if_neg h, beq_false_of_ne h]

/-- Lowering leaves a character as it is that no run of capitals covers. -/
theorem lowerChar_of_stays {c : Char} (h : Stays c) : lowerChar c = [c] := by
  unfold lowerChar
  split
  · rw [toLower_of_not_covers (h _ List.mem_cons_self)]
  · have hdotted : c.toNat ≠ 0x130 := fun heq =>
      h dottedCapital (List.mem_cons_of_mem _ List.mem_cons_self) (heq ▸ rfl)
    have hnone : lowerRuns.find? (·.covers c.toNat) = none :=
      List.find?_eq_none.2 fun r hr =>
        h r (List.mem_cons_of_mem _ (List.mem_cons_of_mem _ hr))
    simp only [mapped, lookup_lowerExpansions, if_neg hdotted, hnone]

/-- Where a run of capitals leads to, lowering changes nothing any more. -/
theorem stays_of_covers {r : Run} (hr : r ∈ capitalRuns) {n : Nat} (hn : r.covers n) :
    Stays (Char.ofNat (n + r.shift).toNat) := by
  have hsound := isSound_capitalRuns r hr
  have hvalid := Run.isValidChar_of_covers hsound hn
  have hnat : (Char.ofNat (n + r.shift).toNat).toNat = (n + r.shift).toNat := by
    rw [Char.ofNat, dif_pos hvalid]
    rfl
  have hpos : 0 ≤ (r.first : Int) + r.shift := by
    simp only [Run.isSound, Bool.and_eq_true, decide_eq_true_eq] at hsound
    exact hsound.1
  intro r' hr'
  rw [hnat]
  exact Run.not_covers_of_misses (misses_capitalRuns r hr r' hr') hn hpos

theorem toLower_of_covers :
    ∀ n < 0x80, asciiCapitals.covers n → (Char.ofNat n).toLower = Char.ofNat (n + 32) := by
  decide +kernel

theorem lowerRuns_start : ∀ r ∈ dottedCapital :: lowerRuns, 0x80 ≤ r.first := by decide +kernel

theorem stays_toLower {c : Char} (h : c.toNat < 0x80) : Stays c.toLower := by
  by_cases hcapital : asciiCapitals.covers c.toNat
  · have hlower := toLower_of_covers c.toNat h hcapital
    rw [Char.ofNat_toNat] at hlower
    rw [hlower]
    exact stays_of_covers List.mem_cons_self hcapital
  · rw [toLower_of_not_covers hcapital]
    intro r hr hcovers
    obtain rfl | hr := List.mem_cons.1 hr
    · exact hcapital hcovers
    · have hstart := lowerRuns_start r hr
      have hfirst := (Run.covers_iff.1 hcovers).1.1
      omega

/-- The lower case forms of characters are in lower case. -/
theorem stays_of_mem_lowerChar {c d : Char} (h : d ∈ lowerChar c) : Stays d := by
  unfold lowerChar at h
  split at h
  · rename_i hascii
    obtain rfl := List.mem_singleton.1 h
    exact stays_toLower hascii
  rename_i hascii
  unfold mapped at h
  cases hexpansion : lowerExpansions.lookup c.toNat with
  | some ns =>
    rw [hexpansion] at h
    rw [lookup_lowerExpansions] at hexpansion
    split at hexpansion
    · obtain rfl := Option.some.inj hexpansion
      have hparts : ∀ n ∈ [0x69, 0x307], Stays (Char.ofNat n) := by decide +kernel
      obtain ⟨n, hn, rfl⟩ := List.mem_map.1 h
      exact hparts n hn
    · cases hexpansion
  | none =>
    rw [hexpansion] at h
    cases hrun : lowerRuns.find? (·.covers c.toNat) with
    | some r =>
      rw [hrun] at h
      obtain rfl := List.mem_singleton.1 h
      have hcovers := List.find?_some hrun
      exact stays_of_covers (List.mem_cons_of_mem _ (List.mem_cons_of_mem _
        (List.mem_of_find?_eq_some hrun))) hcovers
    | none =>
      rw [hrun] at h
      obtain rfl := List.mem_singleton.1 h
      intro r hr hcovers
      -- a character of its own form is on no run, is no capital of ASCII and is not expanded
      obtain rfl | hr := List.mem_cons.1 hr
      · exact hascii (Nat.lt_of_le_of_lt (Run.covers_iff.1 hcovers).1.2 (by decide))
      obtain rfl | hr := List.mem_cons.1 hr
      · have heq : d.toNat = 0x130 :=
          Nat.le_antisymm (Run.covers_iff.1 hcovers).1.2 (Run.covers_iff.1 hcovers).1.1
        rw [heq] at hexpansion
        cases hexpansion
      · exact List.find?_eq_none.1 hrun r hr hcovers

/-! ### Text -/

theorem stays_of_mem_lowerAfter {before cs : List Char} {d : Char}
    (h : d ∈ lowerAfter before cs) : Stays d := by
  induction cs generalizing before with
  | nil => cases h
  | cons c cs ih =>
    obtain h | h := List.mem_append.1 h
    · split at h
      · obtain rfl := List.mem_singleton.1 h
        decide +kernel
      · exact stays_of_mem_lowerChar h
    · exact ih h

theorem lowerAfter_of_stays {before cs : List Char} (h : ∀ c ∈ cs, Stays c) :
    lowerAfter before cs = cs := by
  induction cs generalizing before with
  | nil => rfl
  | cons c cs ih =>
    obtain ⟨hc, hcs⟩ := List.forall_mem_cons.1 h
    have hsigma : (c == 'Σ') = false := beq_false_of_ne hc.ne_sigma
    rw [lowerAfter, ih hcs, hsigma, lowerChar_of_stays hc]
    rfl

end Case

/-- Lowering text twice is lowering it once. -/
theorem lowerString_lowerString (s : String) : lowerString (lowerString s) = lowerString s := by
  have hlower : lower (lower s.toList) = lower s.toList :=
    Case.lowerAfter_of_stays fun c hc => Case.stays_of_mem_lowerAfter hc
  rw [lowerString, lowerString, String.toList_ofList, hlower]

end Patronage.Text
