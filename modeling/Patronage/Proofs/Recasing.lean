import Mathlib.Algebra.Group.Nat.Defs
import Patronage.Proofs.Lowering
import Patronage.Text.Blank
import Patronage.Text.Digit
/-!
# Text in another case

Periods are written with blanks, decimal digits and four letters with their mark.  No character but
these letters in the other case turns into one of them when its case is mapped: that is a finite
check of the runs of the case tables against the runs of these characters.  So text of such
characters is the same up to the case of its ASCII letters as any text that it is a form of.  Main
statements:

* `Case.form_cases` — a form of a character is the same letter, or neither of them is of periods;
* `forall_mem_iff_of_recased` — a text and its forms are in those characters together;
* `upper_trim_of_recased` — in capitals and without blanks around it such a text equals its forms.
-/

namespace Patronage.Text

namespace Case

/-! ### Sets of code points as bit masks -/

/-- The bit mask of the numbers in some ranges. -/
def rangesMask (ranges : List (Nat × Nat)) : Nat :=
  ranges.foldr (fun r m => (2 ^ (r.2 + 1 - r.1) - 1) <<< r.1 ||| m) 0

theorem testBit_rangesMask (ranges : List (Nat × Nat)) (n : Nat) :
    (rangesMask ranges).testBit n = inRanges ranges n := by
  induction ranges with
  | nil => exact Nat.zero_testBit n
  | cons r ranges ih =>
    rw [rangesMask, List.foldr_cons, ← rangesMask, Nat.testBit_or, ih, Nat.testBit_shiftLeft,
      Nat.testBit_two_pow_sub_one]
    refine congrArg (· || inRanges ranges n) ?_
    rw [Bool.eq_iff_iff]
    simp only [Bool.and_eq_true, decide_eq_true_eq]
    omega

/-- Whether a mask has no bit in a range. -/
def isClear (mask first last : Nat) : Bool :=
  Nat.beq ((mask >>> first) % 2 ^ (last + 1 - first)) 0

theorem testBit_of_isClear {mask first last n : Nat} (h : isClear mask first last)
    (hn : first ≤ n ∧ n ≤ last) : mask.testBit n = false := by
  have hzero : ((mask >>> first) % 2 ^ (last + 1 - first)).testBit (n - first) = false := by
    rw [Nat.eq_of_beq_eq_true h, Nat.zero_testBit]
  rwa [Nat.testBit_mod_two_pow, Nat.testBit_shiftRight, Nat.add_sub_cancel' hn.1,
    decide_eq_true (by omega), Bool.true_and] at hzero

/-! ### The characters of periods -/

/-- The code points of blanks. -/
def blankRanges : List (Nat × Nat) := [
  (0x9, 0xD), (0x1C, 0x20), (0x85, 0x85), (0xA0, 0xA0), (0x1680, 0x1680), (0x2000, 0x200A),
  (0x2028, 0x2029), (0x202F, 0x202F), (0x205F, 0x205F), (0x3000, 0x3000)]

/-- The code points of decimal digits. -/
def digitRanges : List (Nat × Nat) := digitZeros.map fun z => (z, z + 9)

/-- The code points of the letters of periods and of their mark, in either case. -/
def letterRanges : List (Nat × Nat) :=
  ['P', 'D', 'W', 'M', 'Y', 'p', 'd', 'w', 'm', 'y'].map fun c => (c.toNat, c.toNat)

/-- The code points of all characters that periods are written with. -/
def periodMask : Nat := rangesMask (blankRanges ++ digitRanges ++ letterRanges)

/-- Whether periods are written with a character. -/
def InPeriods (c : Char) : Prop := periodMask.testBit c.toNat

instance (c : Char) : Decidable (InPeriods c) :=
  inferInstanceAs (Decidable (_ = true))

theorem inPeriods_iff {c : Char} : InPeriods c ↔
    ∃ r ∈ blankRanges ++ digitRanges ++ letterRanges, r.1 ≤ c.toNat ∧ c.toNat ≤ r.2 := by
  rw [InPeriods, periodMask, testBit_rangesMask, inRanges, List.any_eq_true]
  simp only [Bool.and_eq_true, decide_eq_true_eq]

theorem inPeriods_of_isBlank {c : Char} (h : isBlank c) : InPeriods c := by
  have hranges : ∃ r ∈ blankRanges, r.1 ≤ c.toNat ∧ c.toNat ≤ r.2 := by
    simp only [isBlank, isSpace, Bool.or_eq_true, Bool.and_eq_true, decide_eq_true_eq,
      beq_iff_eq] at h
    simp only [blankRanges, List.mem_cons, List.not_mem_nil, or_false, exists_eq_or_imp,
      exists_eq_left]
    omega
  obtain ⟨r, hr, hc⟩ := hranges
  exact inPeriods_iff.2 ⟨r, List.mem_append_left _ (List.mem_append_left _ hr), hc⟩

theorem inPeriods_of_isDigit {c : Char} (h : isDigit c) : InPeriods c := by
  rw [isDigit, digitValue?, Option.isSome_map, List.find?_isSome] at h
  obtain ⟨z, hz, hc⟩ := h
  simp only [Bool.and_eq_true, decide_eq_true_eq] at hc
  refine inPeriods_iff.2 ⟨(z, z + 9), ?_, hc.1, by dsimp only; omega⟩
  exact List.mem_append_left _ (List.mem_append_right _ (List.mem_map.2 ⟨z, hz, rfl⟩))

/-! ### Tables -/

/-- Whether a run leads neither from a character of periods nor to one. -/
def Run.sparesPeriods (r : Run) : Bool :=
  r.isSound && isClear periodMask r.first r.last &&
    isClear periodMask (r.first + r.shift).toNat (r.last + r.shift).toNat

/-- Whether a character that becomes several is none of periods, nor are all that it becomes. -/
def expansionSparesPeriods (e : Nat × List Nat) : Bool :=
  !InPeriods (Char.ofNat e.1) && e.2.any fun n => !InPeriods (Char.ofNat n)

theorem sparesPeriods_runs : ∀ r ∈ upperRuns ++ lowerRuns, r.sparesPeriods := by decide +kernel

theorem sparesPeriods_expansions :
    ∀ e ∈ upperExpansions ++ lowerExpansions, expansionSparesPeriods e := by decide +kernel

variable {runs : List Run} {expansions : List (Nat × List Nat)} {c d : Char}

theorem Run.not_inPeriods_of_covers {r : Run} (h : r.sparesPeriods) (hc : r.covers c.toNat) :
    ¬InPeriods c ∧ ¬InPeriods (Char.ofNat (c.toNat + r.shift).toNat) := by
  simp only [Run.sparesPeriods, Bool.and_eq_true] at h
  obtain ⟨⟨hsound, hfrom⟩, hto⟩ := h
  have hvalid := Run.isValidChar_of_covers hsound hc
  have hnat : (Char.ofNat (c.toNat + r.shift).toNat).toNat = (c.toNat + r.shift).toNat := by
    rw [Char.ofNat, dif_pos hvalid]
    rfl
  obtain ⟨hbounds, -⟩ := Run.covers_iff.1 hc
  rw [InPeriods, InPeriods, hnat, testBit_of_isClear hfrom hbounds,
    testBit_of_isClear hto (by omega)]
  exact ⟨Bool.false_ne_true, Bool.false_ne_true⟩

/-- What a table of cases makes of a character: itself, or characters that are not all of periods,
and then it is none of periods either. -/
theorem mapped_cases (hruns : ∀ r ∈ runs, r.sparesPeriods)
    (hexpansions : ∀ e ∈ expansions, expansionSparesPeriods e) (c : Char) :
    mapped runs expansions c = [c] ∨
      ¬InPeriods c ∧ ∃ d ∈ mapped runs expansions c, ¬InPeriods d := by
  unfold mapped
  cases hexpansion : expansions.lookup c.toNat with
  | some ns =>
    obtain ⟨before, after, rfl, -⟩ := List.lookup_eq_some_iff.1 hexpansion
    have hspares := hexpansions _ (List.mem_append_right _ List.mem_cons_self)
    simp only [expansionSparesPeriods, Char.ofNat_toNat, Bool.and_eq_true, Bool.not_eq_true',
      decide_eq_false_iff_not, List.any_eq_true] at hspares
    obtain ⟨hc, n, hn, hn'⟩ := hspares
    exact .inr ⟨hc, _, List.mem_map.2 ⟨n, hn, rfl⟩, hn'⟩
  | none =>
    cases hrun : runs.find? (·.covers c.toNat) with
    | some r =>
      have hcovers := List.find?_some hrun
      obtain ⟨hc, hd⟩ :=
        Run.not_inPeriods_of_covers (hruns r (List.mem_of_find?_eq_some hrun)) hcovers
      exact .inr ⟨hc, _, List.mem_singleton_self _, hd⟩
    | none => exact .inl rfl

/-! ### Forms of characters -/

/-- The forms of a character: itself, its upper and its lower case; a capital sigma is lowered in
two ways. -/
inductive IsForm (c : Char) : List Char → Prop
  | same : IsForm c [c]
  | upper : IsForm c (upperChar c)
  | lower : IsForm c (lowerChar c)
  | final : c = 'Σ' → IsForm c ['ς']

/-- A form of a character that is the same letter, and of periods if that is. -/
structure IsLetter (c d : Char) : Prop where
  toUpper : d.toUpper = c.toUpper
  inPeriods : InPeriods d ↔ InPeriods c

instance (c d : Char) : Decidable (IsLetter c d) :=
  decidable_of_iff (d.toUpper = c.toUpper ∧ (InPeriods d ↔ InPeriods c))
    ⟨fun h => ⟨h.1, h.2⟩, fun h => ⟨h.1, h.2⟩⟩

theorem isLetter_ascii {c : Char} (h : c.toNat < 0x80) :
    IsLetter c c.toUpper ∧ IsLetter c c.toLower := by
  have htable : ∀ n < 0x80, IsLetter (Char.ofNat n) (Char.ofNat n).toUpper ∧
      IsLetter (Char.ofNat n) (Char.ofNat n).toLower := by decide +kernel
  have hc := htable c.toNat h
  rwa [Char.ofNat_toNat] at hc

/-- A form of a character is the same letter, or neither of them is of periods. -/
theorem form_cases {c : Char} {form : List Char} (h : IsForm c form) :
    (∃ d, form = [d] ∧ IsLetter c d) ∨ ¬InPeriods c ∧ ∃ d ∈ form, ¬InPeriods d := by
  have hself : IsLetter c c := ⟨rfl, Iff.rfl⟩
  cases h with
  | same => exact .inl ⟨c, rfl, hself⟩
  | upper =>
    by_cases hc : c.toNat < 0x80
    · exact .inl ⟨_, if_pos hc, (isLetter_ascii hc).1⟩
    · rw [upperChar, if_neg hc]
      refine (mapped_cases (fun r hr => ?_) (fun e he => ?_) c).imp_left fun h => ⟨c, h, hself⟩
      · exact sparesPeriods_runs r (List.mem_append_left _ hr)
      · exact sparesPeriods_expansions e (List.mem_append_left _ he)
  | lower =>
    by_cases hc : c.toNat < 0x80
    · exact .inl ⟨_, if_pos hc, (isLetter_ascii hc).2⟩
    · rw [lowerChar, if_neg hc]
      refine (mapped_cases (fun r hr => ?_) (fun e he => ?_) c).imp_left fun h => ⟨c, h, hself⟩
      · exact sparesPeriods_runs r (List.mem_append_right _ hr)
      · exact sparesPeriods_expansions e (List.mem_append_right _ he)
  | final hsigma =>
    subst hsigma
    have hnone : ¬InPeriods 'Σ' ∧ ¬InPeriods 'ς' := by decide +kernel
    exact .inr ⟨hnone.1, _, List.mem_singleton_self _, hnone.2⟩

theorem toUpper_of_not_ascii {c : Char} (h : ¬c.toNat < 0x80) : c.toUpper = c := by
  unfold Char.toUpper
  refine dif_neg fun ⟨_, hz⟩ => h ?_
  have hle : c.toNat ≤ 0x7A := hz
  omega

theorem upperChar_of_inPeriods {c : Char} (h : InPeriods c) : upperChar c = [c.toUpper] := by
  unfold upperChar
  split
  · rfl
  · rename_i hc
    rw [toUpper_of_not_ascii hc]
    refine (mapped_cases (fun r hr => ?_) (fun e he => ?_) c).resolve_right fun hnot => hnot.1 h
    · exact sparesPeriods_runs r (List.mem_append_left _ hr)
    · exact sparesPeriods_expansions e (List.mem_append_left _ he)

theorem isBlank_toUpper (c : Char) : isBlank c.toUpper = isBlank c := by
  by_cases hc : c.toNat < 0x80
  · have htable : ∀ n < 0x80, isBlank (Char.ofNat n).toUpper = isBlank (Char.ofNat n) := by
      decide +kernel
    simpa using htable c.toNat hc
  · rw [toUpper_of_not_ascii hc]

end Case

/-! ### Forms of text -/

/-- Text each of whose characters is replaced by one of its forms. -/
inductive Recased : List Char → List Char → Prop
  | nil : Recased [] []
  | cons {c : Char} {form cs ds : List Char} (hform : Case.IsForm c form) (hrest : Recased cs ds) :
      Recased (c :: cs) (form ++ ds)

theorem recased_upper (cs : List Char) : Recased cs (upper cs) := by
  induction cs with
  | nil => exact .nil
  | cons c cs ih => exact .cons .upper ih

theorem recased_lower (cs : List Char) : Recased cs (lower cs) := by
  suffices ∀ before, Recased cs (Case.lowerAfter before cs) from this []
  induction cs with
  | nil => exact fun _ => .nil
  | cons c cs ih =>
    intro before
    refine .cons ?_ (ih _)
    split
    · rename_i hsigma
      simp only [Bool.and_eq_true, beq_iff_eq] at hsigma
      exact .final hsigma.1.1
    · exact .lower

section

open Case

variable {cs ds : List Char}

/-- A text is in the characters of periods if and only if its forms are. -/
theorem forall_mem_iff_of_recased (h : Recased cs ds) :
    (∀ d ∈ ds, InPeriods d) ↔ ∀ c ∈ cs, InPeriods c := by
  induction h with
  | nil => exact Iff.rfl
  | cons hform _ ih =>
    rw [List.forall_mem_append, List.forall_mem_cons, ih]
    refine and_congr_left' ?_
    obtain ⟨d, rfl, hd⟩ | ⟨hc, d, hd, hnot⟩ := form_cases hform
    · rw [List.forall_mem_singleton, hd.inPeriods]
    · exact ⟨fun h => absurd (h d hd) hnot, fun h => absurd h hc⟩

theorem map_toUpper_of_recased (h : Recased cs ds) (hcs : ∀ c ∈ cs, InPeriods c) :
    ds.map Char.toUpper = cs.map Char.toUpper := by
  induction h with
  | nil => rfl
  | cons hform _ ih =>
    obtain ⟨hc, hcs⟩ := List.forall_mem_cons.1 hcs
    obtain ⟨d, rfl, hd⟩ | ⟨hnot, -⟩ := form_cases hform
    · rw [List.map_append, List.map_cons, List.map_cons, ih hcs, hd.toUpper]
      rfl
    · exact absurd hc hnot

theorem upper_of_forall_mem (h : ∀ c ∈ cs, InPeriods c) : upper cs = cs.map Char.toUpper := by
  induction cs with
  | nil => rfl
  | cons c cs ih =>
    obtain ⟨hc, hcs⟩ := List.forall_mem_cons.1 h
    rw [upper, List.flatMap_cons, upperChar_of_inPeriods hc, List.map_cons, ← ih hcs]
    rfl

/-! ### Blanks around text -/

theorem dropWhile_map_toUpper (cs : List Char) :
    (cs.map Char.toUpper).dropWhile isBlank = (cs.dropWhile isBlank).map Char.toUpper := by
  have hblank : isBlank ∘ Char.toUpper = isBlank := funext isBlank_toUpper
  rw [List.dropWhile_map, hblank]

theorem trim_map_toUpper (cs : List Char) :
    trim (cs.map Char.toUpper) = (trim cs).map Char.toUpper := by
  simp only [trim, trimWhile, dropWhile_map_toUpper, ← List.map_reverse]

/-- What trimming removes are blanks. -/
theorem exists_trim (cs : List Char) :
    ∃ before after, cs = before ++ trim cs ++ after ∧ ∀ c ∈ before ++ after, isBlank c := by
  refine ⟨cs.takeWhile isBlank, ((cs.dropWhile isBlank).reverse.takeWhile isBlank).reverse, ?_, ?_⟩
  · rw [trim, trimWhile, List.append_assoc, ← List.reverse_append, List.takeWhile_append_dropWhile,
      List.reverse_reverse, List.takeWhile_append_dropWhile]
  · intro c hc
    obtain hc | hc := List.mem_append.1 hc
    · exact List.all_eq_true.1 List.all_takeWhile c hc
    · exact List.all_eq_true.1 List.all_takeWhile c (List.mem_reverse.1 hc)

theorem trim_of_blanks {before after : List Char} (hbefore : ∀ c ∈ before, isBlank c)
    (hafter : ∀ c ∈ after, isBlank c) : trim (before ++ cs ++ after) = trim cs := by
  have hend : trim (cs ++ after) = trim cs := by
    rw [trim, trim, trimWhile, trimWhile, List.dropWhile_append]
    have hblank : after.dropWhile isBlank = [] := by
      rw [← List.append_nil after, List.dropWhile_append_of_pos hafter, List.dropWhile_nil]
    split
    · rename_i hempty
      rw [hblank, List.isEmpty_iff.1 hempty]
    · rw [List.reverse_append, List.dropWhile_append_of_pos]
      exact fun c hc => hafter c (List.mem_reverse.1 hc)
  rw [← hend, trim, trimWhile, List.append_assoc, List.dropWhile_append_of_pos hbefore]
  rfl

theorem upper_trim_of_recased (h : Recased cs ds) (hcs : ∀ c ∈ cs, InPeriods c) :
    upper (trim ds) = upper (trim cs) := by
  have htrim : ∀ es : List Char, (∀ e ∈ es, InPeriods e) →
      upper (trim es) = trim (es.map Char.toUpper) := by
    intro es hes
    obtain ⟨before, after, heq, -⟩ := exists_trim es
    rw [trim_map_toUpper]
    refine upper_of_forall_mem fun e he => hes e ?_
    rw [heq]
    exact List.mem_append_left _ (List.mem_append_right _ he)
  rw [htrim cs hcs, htrim ds ((forall_mem_iff_of_recased h).2 hcs), map_toUpper_of_recased h hcs]

end

end Patronage.Text
