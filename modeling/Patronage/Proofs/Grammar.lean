import Patronage.Period
import Patronage.Proofs.Recasing
/-!
# The grammar of periods

Which values are written periods, said without the reader: text that comes down, without blanks at
its ends and in capitals, to `P`, decimal digits and the letter of a unit.  The digits can be left
out, and are at most as many as are read and not all zero otherwise.  Reading accepts exactly such
text and answers with the length that it says.  Main statements:

* `Period.parse_eq_ok_iff` — reading accepts exactly what writes a period;
* `Period.writes_iff_of_variant` — case and blanks around it do not change what a text writes;
* `Period.reads_exactly_grammar` — what is read, for every value.
-/

namespace Patronage

open Text

/-- The letter of a unit. -/
def PeriodUnit.letter : PeriodUnit → Char
  | .day => 'D'
  | .week => 'W'
  | .month => 'M'
  | .year => 'Y'

theorem PeriodUnit.ofLetter?_eq_some_iff {c : Char} {u : PeriodUnit} :
    ofLetter? c = some u ↔ c = u.letter := by
  constructor
  · intro h
    unfold ofLetter? at h
    split at h <;> cases h <;> rfl
  · rintro rfl
    cases u <;> rfl

theorem PeriodUnit.isDigit_letter (u : PeriodUnit) : isDigit u.letter = false := by
  cases u <;> decide

namespace Period

/-- The number that digits write where none stand for one. -/
def countOf (digits : List Char) : Nat :=
  if digits.isEmpty then 1 else readDigits digits

/-- Text writes a period by some digits and a unit: without blanks at its ends and in capitals, it
is `P`, the digits and the letter of the unit. -/
structure Writes (cs digits : List Char) (unit : PeriodUnit) : Prop where
  capitals : upper (trim cs) = 'P' :: (digits ++ [unit.letter])
  isDigit_of_mem : ∀ d ∈ digits, isDigit d
  length_le : digits.length ≤ countLimit
  count_pos : 0 < countOf digits

/-! ### Reading -/

theorem readCount_eq_ok_iff {digits : List Char} {n : { n : Nat // 0 < n }} :
    readCount digits = .ok n ↔ digits.length ≤ countLimit ∧ n.val = countOf digits := by
  obtain ⟨n, hn⟩ := n
  show _ ↔ _ ∧ n = countOf digits
  unfold readCount countOf
  split
  · rename_i hempty
    rw [List.isEmpty_iff.1 hempty, Except.ok.injEq, Subtype.mk.injEq]
    exact ⟨fun h => ⟨Nat.zero_le _, h.symm⟩, fun h => h.2.symm⟩
  split
  · exact ⟨nofun, fun h => by omega⟩
  split
  · rw [Except.ok.injEq, Subtype.mk.injEq]
    exact ⟨fun h => ⟨by omega, h.symm⟩, fun h => h.2.symm⟩
  · exact ⟨nofun, fun h => by omega⟩

/-- Where digits end, reading them stops. -/
theorem takeWhile_dropWhile_isDigit {digits : List Char} (h : ∀ d ∈ digits, isDigit d)
    (u : PeriodUnit) :
    (digits ++ [u.letter]).takeWhile isDigit = digits ∧
      (digits ++ [u.letter]).dropWhile isDigit = [u.letter] := by
  rw [List.takeWhile_append_of_pos h, List.dropWhile_append_of_pos h]
  simp [u.isDigit_letter]

theorem parseCapitals_eq_ok_iff {cs : List Char} {p : Period} :
    parseCapitals cs = .ok p ↔ ∃ digits, cs = 'P' :: (digits ++ [p.unit.letter]) ∧
      (∀ d ∈ digits, isDigit d) ∧ digits.length ≤ countLimit ∧ p.count = countOf digits := by
  constructor
  · intro h
    unfold parseCapitals at h
    split at h
    · cases h
    · rename_i rest _
      split at h
      · rename_i letter hletter
        split at h
        · rename_i unit hunit
          cases hcount : readCount (rest.takeWhile isDigit) with
          | error e => rw [hcount] at h; cases h
          | ok n =>
            rw [hcount] at h
            obtain rfl := Except.ok.inj h
            obtain rfl := PeriodUnit.ofLetter?_eq_some_iff.1 hunit
            refine ⟨rest.takeWhile isDigit, ?_, ?_, readCount_eq_ok_iff.1 hcount⟩
            · rw [← hletter, List.takeWhile_append_dropWhile]
            · exact List.all_eq_true.1 List.all_takeWhile
        · cases h
      · cases h
    · cases h
  · rintro ⟨digits, rfl, hdigits, hlength, hcount⟩
    obtain ⟨htake, hdrop⟩ := takeWhile_dropWhile_isDigit hdigits p.unit
    have hread : readCount digits = .ok ⟨p.count, p.count_pos⟩ :=
      readCount_eq_ok_iff.2 ⟨hlength, hcount⟩
    unfold parseCapitals
    split
    · rename_i heq
      cases digits <;> cases heq
    · rename_i rest _ heq
      obtain rfl := (List.cons.inj heq).2
      rw [hdrop, htake, hread]
      simp only [PeriodUnit.ofLetter?_eq_some_iff.2 rfl]
      rfl
    · rename_i hmark
      exact absurd rfl (hmark _)

/-- Reading accepts exactly what writes a period. -/
theorem parse_eq_ok_iff {s : String} {p : Period} :
    parse s = .ok p ↔ ∃ digits, Writes s.toList digits p.unit ∧ p.count = countOf digits := by
  unfold parse
  split
  · rename_i hempty
    refine ⟨nofun, ?_⟩
    rintro ⟨digits, hwrites, -⟩
    have hcapitals := hwrites.capitals
    rw [String.isEmpty_iff.1 hempty] at hcapitals
    cases hcapitals
  · rw [parseCapitals_eq_ok_iff]
    constructor
    · rintro ⟨digits, hcapitals, hdigits, hlength, hcount⟩
      exact ⟨digits, ⟨hcapitals, hdigits, hlength, hcount ▸ p.count_pos⟩, hcount⟩
    · rintro ⟨digits, hwrites, hcount⟩
      exact ⟨digits, hwrites.capitals, hwrites.isDigit_of_mem, hwrites.length_le, hcount⟩

/-- The length that text is read as is that which it writes. -/
theorem length_eq_ok_iff {s : String} {length : Nat} :
    (parse s).map millis = .ok length ↔ ∃ digits unit, Writes s.toList digits unit ∧
      length = countOf digits * (unit.days * dayMillis) := by
  constructor
  · intro h
    cases hread : parse s with
    | error e => rw [hread] at h; cases h
    | ok p =>
      rw [hread] at h
      obtain rfl := Except.ok.inj h
      obtain ⟨digits, hwrites, hcount⟩ := parse_eq_ok_iff.1 hread
      exact ⟨digits, p.unit, hwrites, by rw [millis, hcount]⟩
  · rintro ⟨digits, unit, hwrites, rfl⟩
    have hread : parse s = .ok ⟨countOf digits, unit, hwrites.count_pos⟩ :=
      parse_eq_ok_iff.2 ⟨digits, hwrites, rfl⟩
    rw [hread]
    rfl

/-- Only text is read as a length. -/
theorem length_ofValue_eq_ok_iff {v : Value} {length : Nat} :
    (ofValue v).map millis = .ok length ↔
      ∃ s, v = .text s ∧ (parse s).map millis = .ok length := by
  constructor
  · intro h
    cases v with
    | text s => exact ⟨s, rfl, h⟩
    | _ => cases h
  · rintro ⟨s, rfl, h⟩
    exact h

/-! ### Case and blanks -/

/-- Text and a variant of it: each character in one of its forms, and blanks around. -/
def Variant (cs ds : List Char) : Prop :=
  ∃ before core after, ds = before ++ core ++ after ∧ (∀ c ∈ before, isBlank c) ∧
    (∀ c ∈ after, isBlank c) ∧ Recased cs core

theorem inPeriods_of_writes {cs digits : List Char} {unit : PeriodUnit}
    (h : Writes cs digits unit) : ∀ c ∈ cs, Case.InPeriods c := by
  have hcapitals : ∀ d ∈ upper (trim cs), Case.InPeriods d := by
    rw [h.capitals, List.forall_mem_cons, List.forall_mem_append, List.forall_mem_singleton]
    refine ⟨by decide, fun d hd => Case.inPeriods_of_isDigit (h.isDigit_of_mem d hd), ?_⟩
    cases unit <;> decide
  have htrim := (forall_mem_iff_of_recased (recased_upper (trim cs))).1 hcapitals
  obtain ⟨before, after, heq, hblank⟩ := exists_trim cs
  intro c hc
  rw [heq, List.append_assoc, List.mem_append, List.mem_append] at hc
  obtain hc | hc | hc := hc
  · exact Case.inPeriods_of_isBlank (hblank c (List.mem_append_left _ hc))
  · exact htrim c hc
  · exact Case.inPeriods_of_isBlank (hblank c (List.mem_append_right _ hc))

/-- Case and blanks around it do not change what a text writes. -/
theorem writes_iff_of_variant {cs ds digits : List Char} {unit : PeriodUnit}
    (h : Variant cs ds) : Writes ds digits unit ↔ Writes cs digits unit := by
  obtain ⟨before, core, after, rfl, hbefore, hafter, hrecased⟩ := h
  have htrim : trim (before ++ core ++ after) = trim core := trim_of_blanks hbefore hafter
  constructor
  · intro hwrites
    have hcore : Writes core digits unit := ⟨htrim ▸ hwrites.capitals, hwrites.isDigit_of_mem,
      hwrites.length_le, hwrites.count_pos⟩
    have hcs := (forall_mem_iff_of_recased hrecased).1 (inPeriods_of_writes hcore)
    refine { hwrites with capitals := ?_ }
    rw [← upper_trim_of_recased hrecased hcs, hcore.capitals]
  · intro hwrites
    refine { hwrites with capitals := ?_ }
    rw [htrim, upper_trim_of_recased hrecased (inPeriods_of_writes hwrites), hwrites.capitals]

/-- A value is read as a length exactly if it is text that writes a period, and the length is that
which it says: a positive number of days.  All other values are refused, and the check of a value
says which it is.  Neither the case of letters nor blanks around it count. -/
theorem reads_exactly_grammar :
    (∀ v, (∀ length, (ofValue v).map millis = .ok length ↔ ∃ s, v = .text s ∧
        ∃ digits unit, Writes s.toList digits unit ∧
          length = countOf digits * (unit.days * dayMillis)) ∧
      (∀ length, (ofValue v).map millis = .ok length → 0 < length ∧ dayMillis ∣ length) ∧
      ((¬∃ s, v = .text s ∧ ∃ digits unit, Writes s.toList digits unit) →
        ∃ e : PeriodError, ofValue v = .error e) ∧
      (isWritten v ↔ ∃ length, (ofValue v).map millis = .ok length)) ∧
    ∀ s t : String, Variant s.toList t.toList → ∀ length,
      (ofValue (.text t)).map millis = .ok length ↔
        (ofValue (.text s)).map millis = .ok length := by
  have hlength : ∀ v length, (ofValue v).map millis = .ok length ↔ ∃ s, v = .text s ∧
      ∃ digits unit, Writes s.toList digits unit ∧
        length = countOf digits * (unit.days * dayMillis) := fun v length =>
    length_ofValue_eq_ok_iff.trans
      (exists_congr fun s => and_congr_right' length_eq_ok_iff)
  refine ⟨fun v => ⟨hlength v, ?_, ?_, ?_⟩, fun s t hvariant length => ?_⟩
  · intro length h
    obtain ⟨s, -, digits, unit, hwrites, rfl⟩ := (hlength v length).1 h
    have hperiod := day_le_millis ⟨countOf digits, unit, hwrites.count_pos⟩
    exact ⟨Nat.lt_of_lt_of_le (by decide) hperiod,
      dayMillis_dvd_millis ⟨countOf digits, unit, hwrites.count_pos⟩⟩
  · intro hnone
    cases hread : ofValue v with
    | error e => exact ⟨e, rfl⟩
    | ok p =>
      obtain ⟨s, hv, digits, unit, hwrites, -⟩ := (hlength v p.millis).1 (by rw [hread]; rfl)
      exact absurd ⟨s, hv, digits, unit, hwrites⟩ hnone
  · rw [isWritten]
    cases ofValue v with
    | error e => exact ⟨nofun, nofun⟩
    | ok p => exact ⟨fun _ => ⟨p.millis, rfl⟩, fun _ => rfl⟩
  · rw [ofValue, ofValue, length_eq_ok_iff, length_eq_ok_iff]
    exact exists_congr fun digits => exists_congr fun unit =>
      and_congr_left' (writes_iff_of_variant hvariant)

/-- Thirty days in digits of another script, the same in lower case between blanks, and digits that
are all zero. -/
theorem reads_exactly_grammar_of_arabic :
    Writes "P٣٠D".toList ['٣', '٠'] .day ∧
      (ofValue (.text "P٣٠D")).map millis = .ok 2592000000 ∧
      (0 < 2592000000 ∧ dayMillis ∣ 2592000000) ∧
      Variant "P٣٠D".toList "\t\u2003p٣٠d\n".toList ∧
      (ofValue (.text "\t\u2003p٣٠d\n")).map millis = .ok 2592000000 ∧
      (¬∃ s, Value.text "P٠٠D" = .text s ∧ ∃ digits unit, Writes s.toList digits unit) ∧
      ∃ e : PeriodError, ofValue (.text "P٠٠D") = .error e := by
  have hwrites : Writes "P٣٠D".toList ['٣', '٠'] .day :=
    ⟨by decide +kernel, List.all_eq_true.1 (by decide), by decide, by decide⟩
  have hvariant : Variant "P٣٠D".toList "\t\u2003p٣٠d\n".toList :=
    ⟨['\t', '\u2003'], lower "P٣٠D".toList, ['\n'], by decide +kernel,
      List.all_eq_true.1 (by decide), List.all_eq_true.1 (by decide), recased_lower _⟩
  have hzero : ¬∃ s, Value.text "P٠٠D" = .text s ∧
      ∃ digits unit, Writes s.toList digits unit := by
    rintro ⟨s, hs, digits, unit, h⟩
    obtain rfl := Value.text.inj hs
    have hcapitals : 'P' :: (['٠', '٠'] ++ ['D']) = 'P' :: (digits ++ [unit.letter]) :=
      Eq.trans (by decide +kernel) h.capitals
    obtain ⟨rfl, -⟩ := List.append_inj' (List.cons.inj hcapitals).2 rfl
    exact absurd h.count_pos (by decide)
  have hread : (ofValue (.text "P٣٠D")).map millis = .ok 2592000000 :=
    ((reads_exactly_grammar.1 _).1 _).2 ⟨_, rfl, _, _, hwrites, by decide⟩
  exact ⟨hwrites, hread, (reads_exactly_grammar.1 _).2.1 _ hread, hvariant,
    (reads_exactly_grammar.2 _ _ hvariant _).2 hread, hzero,
    (reads_exactly_grammar.1 _).2.2.1 hzero⟩

end Period

end Patronage
