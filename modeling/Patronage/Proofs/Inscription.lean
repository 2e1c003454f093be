import Mathlib.Algebra.Ring.Nat
import Patronage.Calendar.Text
/-!
# Moments read back

The written form of a moment loses nothing: a year is found again from a count of days, a month and
a day from what is left of them, and every group of digits is as long as the form says.  Main
statements:

* `Text.takePlaces_padded` — a number is read back from the places it was written in;
* `Calendar.Date.ordinal_ofOrdinal` — a date counts as many days as it was made from;
* `Moment.ofText?_toText` — a moment is read back from its text.
-/

namespace Patronage

open Text Calendar

/-! ### Digits -/

namespace Text

theorem readAscii_decimal (n : Nat) : readAscii (decimal n) = n := Nat.ofDigitChars_ten_toDigits

theorem isAsciiDigit_of_isDigit {c : Char} (h : c.isDigit) : isAsciiDigit c := by
  simpa [isAsciiDigit, Char.isDigit, Char.le_def] using h

theorem isDigit_of_mem_decimal {n : Nat} {c : Char} (h : c ∈ decimal n) : c.isDigit :=
  Nat.isDigit_of_mem_toDigits (by decide) (by decide) h

/-- Zeros at the front do not count. -/
theorem readAscii_zeros (k : Nat) (cs : List Char) :
    readAscii (List.replicate k '0' ++ cs) = readAscii cs := by
  induction k with
  | zero => rfl
  | succ k ih => exact ih

/-- A number that fits the places is written in just as many. -/
theorem length_padded {k n : Nat} (hk : 0 < k) (hn : n < 10 ^ k) : (padded k n).length = k := by
  have hle : (decimal n).length ≤ k := (Nat.length_toDigits_le_iff (by decide) hk).2 hn
  simp only [padded, List.length_append, List.length_replicate]
  omega

theorem isAsciiDigit_of_mem_padded {k n : Nat} {c : Char} (h : c ∈ padded k n) :
    isAsciiDigit c := by
  obtain h | h := List.mem_append.1 h
  · rw [List.eq_of_mem_replicate h]
    rfl
  · exact isAsciiDigit_of_isDigit (isDigit_of_mem_decimal h)

theorem readAscii_padded (k n : Nat) : readAscii (padded k n) = n :=
  (readAscii_zeros _ _).trans (readAscii_decimal n)

/-- A number is read back from the places it was written in. -/
theorem takePlaces_padded {k n : Nat} (hk : 0 < k) (hn : n < 10 ^ k) (cs : List Char) :
    takePlaces k (padded k n ++ cs) = some (n, cs) := by
  have hlength := length_padded hk hn
  have hall : (padded k n).all isAsciiDigit :=
    List.all_eq_true.2 fun c hc => isAsciiDigit_of_mem_padded hc
  unfold takePlaces
  rw [List.take_left' hlength, List.drop_left' hlength]
  simp [hlength, hall, readAscii_padded]

@[simp] theorem takeChar_cons (c : Char) (cs : List Char) : takeChar c (c :: cs) = some cs :=
  if_pos rfl

end Text

/-! ### Dates -/

namespace Calendar

theorem isLeap_iff {year : Nat} : isLeap year ↔ 4 ∣ year ∧ (¬100 ∣ year ∨ 400 ∣ year) := by
  simp only [isLeap, Bool.and_eq_true, Bool.or_eq_true, beq_iff_eq, bne_iff_ne,
    Nat.dvd_iff_mod_eq_zero, ne_eq]

/-- The years before a year have 146097 days in 400 years, give or take two days. -/
theorem daysBeforeYear_bounds (past : Nat) :
    146097 * past ≤ 400 * daysBeforeYear (past + 1) + 699 ∧
      400 * daysBeforeYear (past + 1) ≤ 146097 * past + 396 := by
  simp only [daysBeforeYear, Nat.add_sub_cancel]
  omega

theorem daysBeforeYear_succ (past : Nat) :
    daysBeforeYear (past + 2) =
      daysBeforeYear (past + 1) + (monthLengths (isLeap (past + 1))).sum := by
  have hsum (leap : Bool) : (monthLengths leap).sum = if leap then 366 else 365 := by
    cases leap <;> rfl
  have hcentury : 400 ∣ past + 1 → 100 ∣ past + 1 := Nat.dvd_trans (by decide)
  have hfour : 100 ∣ past + 1 → 4 ∣ past + 1 := Nat.dvd_trans (by decide)
  have hless : past / 100 ≤ past / 4 := Nat.div_le_div_left (by decide) (by decide)
  simp only [hsum, isLeap_iff, daysBeforeYear, Nat.add_one_sub_one, Nat.succ_div]
  by_cases h4 : 4 ∣ past + 1 <;> by_cases h100 : 100 ∣ past + 1 <;>
    by_cases h400 : 400 ∣ past + 1 <;> simp_all <;> omega

namespace Date

/-- A count of days falls into its year. -/
theorem exists_yearOfOrdinal (n : Nat) :
    ∃ past, yearOfOrdinal n = past + 1 ∧ daysBeforeYear (past + 1) ≤ n ∧
      n < daysBeforeYear (past + 2) := by
  have hguess : 146097 * (n * 400 / 146097) ≤ 400 * n ∧
      400 * n < 146097 * (n * 400 / 146097 + 1) := by omega
  unfold yearOfOrdinal
  generalize n * 400 / 146097 = guess at hguess
  dsimp only
  split
  · -- the guess is a year late, so it is not the first year
    rename_i hlate
    cases guess with
    | zero => exact absurd hlate (Nat.not_lt_zero n)
    | succ past =>
      have hbounds := daysBeforeYear_bounds past
      exact ⟨past, rfl, by omega, hlate⟩
  · rename_i hlow
    split
    · rename_i hearly
      have hbounds := daysBeforeYear_bounds (guess + 2)
      refine ⟨guess + 1, rfl, hearly, ?_⟩
      show n < daysBeforeYear (guess + 2 + 1)
      omega
    · rename_i hhigh
      exact ⟨guess, rfl, Nat.not_lt.1 hlow, Nat.not_le.1 hhigh⟩

/-- A count of days within a year falls into a month. -/
theorem splitMonths_spec {ls : List Nat} {n : Nat} (h : n < ls.sum) :
    (splitMonths ls n).1 < ls.length ∧ (splitMonths ls n).2 < ls[(splitMonths ls n).1]?.getD 0 ∧
      (ls.take (splitMonths ls n).1).sum + (splitMonths ls n).2 = n := by
  induction ls generalizing n with
  | nil => cases h
  | cons l ls ih =>
    rw [splitMonths]
    split
    · rename_i hlt
      exact ⟨Nat.zero_lt_succ _, hlt, Nat.zero_add n⟩
    · rename_i hle
      rw [List.sum_cons] at h
      obtain ⟨hmonth, hday, hsum⟩ := ih (n := n - l) (by omega)
      refine ⟨Nat.succ_lt_succ hmonth, hday, ?_⟩
      rw [List.take_succ_cons, List.sum_cons]
      omega

/-- What a count of days is split into. -/
theorem exists_ofOrdinal (n : Nat) :
    ∃ past month day, ofOrdinal n = ⟨past + 1, month + 1, day + 1⟩ ∧
      daysBeforeYear (past + 1) ≤ n ∧ month < 12 ∧
      day < (monthLengths (isLeap (past + 1)))[month]?.getD 0 ∧
      daysBeforeYear (past + 1) + ((monthLengths (isLeap (past + 1))).take month).sum + day =
        n := by
  obtain ⟨past, hyear, hle, hlt⟩ := exists_yearOfOrdinal n
  rw [daysBeforeYear_succ] at hlt
  have hrest : n - daysBeforeYear (past + 1) < (monthLengths (isLeap (past + 1))).sum := by omega
  obtain ⟨hmonth, hday, hsum⟩ := splitMonths_spec hrest
  refine ⟨past, _, _, ?_, hle, hmonth, hday, ?_⟩
  · simp only [ofOrdinal, hyear]
  · rw [Nat.add_assoc, hsum]
    omega

/-- A date counts as many days as it was made from. -/
theorem ordinal_ofOrdinal (n : Nat) : (ofOrdinal n).ordinal = n := by
  obtain ⟨past, month, day, hdate, -, -, -, hsum⟩ := exists_ofOrdinal n
  rw [List.sum_eq_foldr] at hsum
  rw [hdate]
  exact hsum

/-- Up to the last day of the year 9999, a count of days stands for a date that exists. -/
theorem isValid_ofOrdinal {n : Nat} (h : n < daysBeforeYear 10000) : (ofOrdinal n).isValid := by
  obtain ⟨past, month, day, hdate, hle, hmonth, hday, -⟩ := exists_ofOrdinal n
  have hpast : past < 9999 := by
    have hbounds := daysBeforeYear_bounds past
    have hlast : daysBeforeYear 10000 = 3652059 := by decide
    omega
  simp only [isValid, hdate, Bool.and_eq_true, decide_eq_true_eq, Nat.add_sub_cancel]
  omega

/-- The parts of a date that exists fit the places they are written in. -/
theorem places_of_isValid {d : Date} (h : d.isValid) :
    d.year < 10 ^ 4 ∧ d.month < 10 ^ 2 ∧ d.day < 10 ^ 2 := by
  have hlengths (leap : Bool) : ∀ l ∈ monthLengths leap, l ≤ 31 := by cases leap <;> decide
  have hmonth (leap : Bool) (i : Nat) : (monthLengths leap)[i]?.getD 0 ≤ 31 := by
    cases hl : (monthLengths leap)[i]? with
    | none => exact Nat.zero_le _
    | some l => exact hlengths leap l (List.mem_of_getElem? hl)
  have hday := hmonth (isLeap d.year) (d.month - 1)
  simp only [isValid, Bool.and_eq_true, decide_eq_true_eq] at h
  omega

end Date

end Calendar

/-! ### Moments -/

namespace Calendar

/-- The six places of a fraction are read as it. -/
theorem readFraction_padded {n : Nat} (hn : n < 10 ^ 6) : readFraction (padded 6 n) = n := by
  rw [readFraction, List.take_left' (length_padded (by decide) hn), readAscii_padded]

/-- Text that a fraction leads is split into the fraction and what follows. -/
theorem splitFraction_fractionChars {n : Nat} (hn : n < 10 ^ 6) {cs : List Char}
    (hcs : ∀ c ∈ cs.head?, isAsciiDigit c = false ∧ c ≠ '.') :
    splitFraction (fractionChars n ++ cs) = (n, cs) := by
  unfold fractionChars
  by_cases hzero : n = 0
  · rw [if_pos hzero, List.nil_append, hzero]
    unfold splitFraction
    split
    · exact absurd rfl (hcs '.' rfl).2
    · rfl
  · have hdigits : ∀ c ∈ padded 6 n, isAsciiDigit c := fun c hc => isAsciiDigit_of_mem_padded hc
    have hrest : cs.takeWhile isAsciiDigit = [] ∧ cs.dropWhile isAsciiDigit = cs := by
      cases cs with
      | nil => exact ⟨rfl, rfl⟩
      | cons c cs => simp [(hcs c rfl).1]
    rw [if_neg hzero, List.cons_append]
    simp only [splitFraction, List.takeWhile_append_of_pos hdigits,
      List.dropWhile_append_of_pos hdigits, hrest.1, hrest.2, List.append_nil,
      readFraction_padded hn]

/-- What an offset has beyond whole minutes is read back from its text. -/
theorem readOffsetRest?_offsetRestChars {n : Nat} (hn : n < 60000000) :
    readOffsetRest? (offsetRestChars n) = some n := by
  unfold offsetRestChars
  by_cases hzero : n = 0
  · rw [if_pos hzero, hzero]
    rfl
  · have hplaces := takePlaces_padded (k := 2) (n := n / 1000000) (by decide) (by omega)
      (fractionChars (n % 1000000))
    have hfraction : splitFraction (fractionChars (n % 1000000) ++ []) = (n % 1000000, []) :=
      splitFraction_fractionChars (by omega) nofun
    rw [List.append_nil] at hfraction
    rw [if_neg hzero, List.cons_append, readOffsetRest?]
    · refine Option.bind_eq_some_iff.2 ⟨_, takeChar_cons _ _, ?_⟩
      refine Option.bind_eq_some_iff.2 ⟨_, hplaces, ?_⟩
      dsimp only
      rw [hfraction]
      exact congrArg some (Nat.div_add_mod' n 1000000)
    · exact nofun

/-- A sign, hours, minutes and what there is beyond them are read as an offset. -/
theorem readOffset?_eq_some {sign : Char} {hours minutes rest : Nat} {o : Offset}
    (hhours : hours < 10 ^ 2) (hminutes : minutes < 10 ^ 2) (hrest : rest < 60000000)
    (hsign : sign = '+' ∧ ((60 * hours + minutes) * microsPerMinute + rest : Int) = o.micros ∨
      sign = '-' ∧ -((60 * hours + minutes) * microsPerMinute + rest : Int) = o.micros) :
    readOffset? (sign :: padded 2 hours ++ ':' :: padded 2 minutes ++ offsetRestChars rest) =
      some (some o) := by
  have hfirst := takePlaces_padded Nat.two_pos hhours (':' :: (padded 2 minutes ++
    offsetRestChars rest))
  have hsecond := takePlaces_padded Nat.two_pos hminutes (offsetRestChars rest)
  have hthird := readOffsetRest?_offsetRestChars hrest
  rw [List.append_assoc, List.cons_append, List.cons_append, readOffset?]
  · refine Option.bind_eq_some_iff.2 ⟨_, hfirst, ?_⟩
    refine Option.bind_eq_some_iff.2 ⟨_, takeChar_cons _ _, ?_⟩
    refine Option.bind_eq_some_iff.2 ⟨_, hsecond, ?_⟩
    refine Option.bind_eq_some_iff.2 ⟨_, hthird, ?_⟩
    obtain ⟨rfl, hsize⟩ | ⟨rfl, hsize⟩ := hsign
    · refine (if_pos rfl).trans (Option.bind_eq_some_iff.2 ⟨_, congrArg some hsize, ?_⟩)
      exact dif_pos o.inRange
    · refine (if_neg (by decide)).trans ((if_pos rfl).trans ?_)
      exact Option.bind_eq_some_iff.2 ⟨_, congrArg some hsize, dif_pos o.inRange⟩
  · intro _ hnil
    rw [List.append_eq_nil_iff] at hnil
    exact absurd hnil.2 (List.cons_ne_nil _ _)

/-- An offset is read back from its text. -/
theorem readOffset?_toChars (o : Offset) : readOffset? o.toChars = some (some o) := by
  have hrange := o.inRange
  simp only [microsPerDay, microsPerSecond] at hrange
  refine readOffset?_eq_some (by omega) (by omega) (by omega) ?_
  simp only [microsPerMinute, microsPerSecond]
  by_cases hneg : o.micros < 0
  · exact .inr ⟨if_pos hneg, by omega⟩
  · exact .inl ⟨if_neg hneg, by omega⟩

end Calendar

namespace Moment

theorem microsOfDay_lt (m : Moment) : m.microsOfDay < 86400000000 := by
  simp only [microsOfDay, microsPerDay, microsPerSecond]
  omega

theorem isValid_ofOrdinal (m : Moment) : (Date.ofOrdinal m.ordinal).isValid := by
  have hrange := m.inRange
  have hlast : daysBeforeYear 10000 = 3652059 := by decide
  refine Date.isValid_ofOrdinal ?_
  rw [hlast]
  simp only [ordinal, firstWall, lastWall, microsPerDay, microsPerSecond, epochOrdinal] at *
  omega

/-- A day and a time of day make up a moment. -/
theorem ofDate_ofOrdinal (m : Moment) :
    ofDate (Date.ofOrdinal m.ordinal) m.microsOfDay m.offset = some m := by
  have hrange := m.inRange
  simp only [firstWall, lastWall] at hrange
  have hwall : (m.ordinal - epochOrdinal : Int) * microsPerDay + m.microsOfDay = m.wall := by
    simp only [ordinal, microsOfDay, microsPerDay, microsPerSecond, epochOrdinal]
    omega
  rw [ofDate, if_pos m.isValid_ofOrdinal, Date.ordinal_ofOrdinal, hwall, ofWall, dif_pos m.inRange]
  rfl

theorem head_toChars (o : Option Offset) :
    ∀ c ∈ ((o.map Offset.toChars).getD []).head?, isAsciiDigit c = false ∧ c ≠ '.' := by
  intro c hc
  cases o with
  | none => cases hc
  | some o =>
    obtain rfl : (if o.micros < 0 then '-' else '+') = c := Option.some.inj hc
    split <;> decide

theorem readOffset?_getD (o : Option Offset) :
    readOffset? ((o.map Offset.toChars).getD []) = some o := by
  cases o with
  | none => rfl
  | some o => exact readOffset?_toChars o

/-- A moment is read back from its text. -/
theorem ofText?_toText (m : Moment) : ofText? m.toText = some m := by
  have hday := m.microsOfDay_lt
  obtain ⟨hyear, hmonth, hdate⟩ := Date.places_of_isValid m.isValid_ofOrdinal
  have htime := m.ofDate_ofOrdinal
  simp only [ofText?, toText, String.toList_ofList, Date.toChars, timeOfDayChars,
    List.append_assoc, List.cons_append]
  generalize Date.ofOrdinal m.ordinal = d at *
  generalize m.microsOfDay = micros at *
  have hfraction := splitFraction_fractionChars (n := micros % 1000000) (by omega)
    (head_toChars m.offset)
  -- the parts are read one after the other, each up to the sign that ends it
  refine Option.bind_eq_some_iff.2 ⟨_, takePlaces_padded (by decide) hyear _, ?_⟩
  refine Option.bind_eq_some_iff.2 ⟨_, takeChar_cons _ _, ?_⟩
  refine Option.bind_eq_some_iff.2 ⟨_, takePlaces_padded (by decide) hmonth _, ?_⟩
  refine Option.bind_eq_some_iff.2 ⟨_, takeChar_cons _ _, ?_⟩
  refine Option.bind_eq_some_iff.2 ⟨_, takePlaces_padded (by decide) hdate _, ?_⟩
  refine Option.bind_eq_some_iff.2 ⟨_, takeChar_cons _ _, ?_⟩
  refine Option.bind_eq_some_iff.2 ⟨_, takePlaces_padded (by decide) (by omega) _, ?_⟩
  refine Option.bind_eq_some_iff.2 ⟨_, takeChar_cons _ _, ?_⟩
  refine Option.bind_eq_some_iff.2 ⟨_, takePlaces_padded (by decide) (by omega) _, ?_⟩
  refine Option.bind_eq_some_iff.2 ⟨_, takeChar_cons _ _, ?_⟩
  refine Option.bind_eq_some_iff.2 ⟨_, takePlaces_padded (by decide) (by omega) _, ?_⟩
  refine Option.bind_eq_some_iff.2 ⟨m.offset,
    (congrArg (fun p => readOffset? p.2) hfraction).trans (readOffset?_getD m.offset), ?_⟩
  refine (if_pos (by simp; omega)).trans (Eq.trans ?_ htime)
  refine congrArg (fun n => ofDate d n m.offset) ?_
  refine (congrArg (fun p => _ + p.1) hfraction).trans ?_
  dsimp only
  omega

end Moment

end Patronage
