import Mathlib.Algebra.Ring.Int.Defs
import Mathlib.Data.List.Basic
import Patronage.Identifier
import Patronage.Proofs.Inscription
/-!
# The spelling of identifiers

Which text is an identifier, said without the reader: four parts with underscores between them,
nothing before or after.  The lead may not hold an underscore, the token has a fixed length and the
stamp is made of digits, so text has its parts in one way only, and an identifier that has been
written is read back exactly if its lead and its stamp are of the form.  The reader takes more than
identifiers: one line break at the end, and digits of any script in the stamp.  Main statements:

* `Identifier.spell_inj` — the parts of text are told apart from its end;
* `Identifier.read?_eq_some_iff` — what is read, and as which kind and stamp;
* `Identifier.generated_reads_back` — which generated identifiers are read, and as what;
* `Identifier.accepts_exactly_iff` — which values are accepted, and when only identifiers are.
-/

namespace Patronage

open Text

/-! ### Text -/

namespace Text

/-- Text is split in one way at the last of its separators. -/
theorem append_separator_inj {x : Char} {a b c d : List Char} (hc : x ∉ c) (hd : x ∉ d)
    (h : a ++ x :: c = b ++ x :: d) : a = b ∧ c = d := by
  obtain ⟨rest, rfl, hrest⟩ | ⟨rest, rfl, hrest⟩ := List.append_eq_append_iff.1 h
  · cases rest with
    | nil => exact ⟨(List.append_nil a).symm, (List.cons.inj hrest).2⟩
    | cons y rest => exact absurd ((List.cons.inj hrest).2 ▸ by simp) hc
  · cases rest with
    | nil => exact ⟨List.append_nil b, (List.cons.inj hrest).2.symm⟩
    | cons y rest => exact absurd ((List.cons.inj hrest).2 ▸ by simp) hd

/-- What is left without a line break at the end, if there is none in it. -/
theorem dropFinalBreak_eq_iff {cs ds : List Char} (h : '\n' ∉ ds) :
    dropFinalBreak cs = ds ↔ cs = ds ∨ cs = ds ++ ['\n'] := by
  have hlast : ds.getLast? ≠ some '\n' := fun hds => h (List.mem_of_getLast? hds)
  unfold dropFinalBreak
  split
  · rename_i hcs
    obtain ⟨front, rfl⟩ := List.getLast?_eq_some_iff.1 hcs
    rw [List.dropLast_concat]
    constructor
    · rintro rfl
      exact .inr rfl
    · rintro (rfl | heq)
      · exact absurd List.getLast?_concat hlast
      · exact (List.append_inj' heq rfl).1
  · rename_i hcs
    refine ⟨.inl, ?_⟩
    rintro (rfl | rfl)
    · rfl
    · exact absurd List.getLast?_concat hcs

theorem digitValue?_of_isDigit {c : Char} (h : c.isDigit) : digitValue? c = some (c.toNat - 48) := by
  have hrange : 48 ≤ c.toNat ∧ c.toNat < 58 := by
    simp only [Char.isDigit, Bool.and_eq_true, decide_eq_true_eq, ge_iff_le,
      UInt32.le_iff_toNat_le] at h
    exact ⟨h.1, Nat.lt_succ_of_le h.2⟩
  simp [digitValue?, digitZeros, hrange]

theorem isDigit_of_isDigit {c : Char} (h : c.isDigit) : isDigit c := by
  simp [isDigit, digitValue?_of_isDigit h]

/-- A number is read back from its digits. -/
theorem readDigits_decimal (n : Nat) : readDigits (decimal n) = n := by
  refine Eq.trans (List.foldl_ext _ _ _ fun m c hc => ?_) (readAscii_decimal n)
  rw [digitValue?_of_isDigit (isDigit_of_mem_decimal hc)]
  rfl

theorem not_mem_decimalInt {c : Char} (n : Int) (hdigit : c.isDigit = false) (hminus : c ≠ '-') :
    c ∉ decimalInt n := by
  have hdecimal : c ∉ decimal n.natAbs := fun hc =>
    Bool.false_ne_true (hdigit.symm.trans (isDigit_of_mem_decimal hc))
  unfold decimalInt
  split
  · simpa [hminus] using hdecimal
  · exact hdecimal

/-- How many digits a number has. -/
theorem length_decimal_eq_iff {n k : Nat} (hk : 0 < k) :
    (decimal n).length = k + 1 ↔ 10 ^ k ≤ n ∧ n < 10 ^ (k + 1) := by
  have hless : (decimal n).length ≤ k ↔ n < 10 ^ k := Nat.length_toDigits_le_iff (by decide) hk
  have hmost : (decimal n).length ≤ k + 1 ↔ n < 10 ^ (k + 1) :=
    Nat.length_toDigits_le_iff (by decide) k.succ_pos
  omega

end Text

/-! ### Kinds -/

namespace IdKind

theorem tag_injective : Function.Injective tag := by
  intro k l h
  have hread := read?_tag k []
  rw [h, read?_tag] at hread
  exact (Prod.mk.inj (Option.some.inj hread)).1.symm

theorem not_mem_tag (k : IdKind) : '_' ∉ k.tag := by
  cases k <;> decide

theorem read?_eq_some_iff {cs rest : List Char} {k : IdKind} :
    read? cs = some (k, rest) ↔ cs = k.tag ++ '_' :: rest := by
  constructor
  · intro h
    unfold read? at h
    split at h <;> cases h <;> rfl
  · rintro rfl
    exact read?_tag k rest

theorem ofTag?_eq_some_iff {s : String} {k : IdKind} :
    ofTag? s = some k ↔ s = String.ofList k.tag := by
  constructor
  · intro h
    unfold ofTag? at h
    have htag := List.find?_some h
    rw [beq_iff_eq.1 htag, String.ofList_toList]
  · rintro rfl
    unfold ofTag?
    rw [String.toList_ofList]
    cases k <;> rfl

end IdKind

namespace Identifier

/-! ### Parts -/

/-- The parts of an identifier, the digits of its stamp from a class of characters. -/
structure Parts (isPlace : Char → Bool) where
  lead : List Char
  kind : IdKind
  token : List Char
  stamp : List Char
  lead_ne_nil : lead ≠ []
  lead_chars : ∀ c ∈ lead, c.isAlphanum ∨ c = '-'
  token_length : token.length = 16
  token_chars : ∀ c ∈ token, c.isDigit ∨ 'a' ≤ c ∧ c ≤ 'f'
  stamp_length : stamp.length = 13
  stamp_chars : ∀ c ∈ stamp, isPlace c

/-- Four parts with underscores between them. -/
def spell (lead : List Char) (kind : IdKind) (token stamp : List Char) : List Char :=
  lead ++ '_' :: (kind.tag ++ '_' :: (token ++ '_' :: stamp))

/-- The text of an identifier. -/
def Parts.text {isPlace : Char → Bool} (p : Parts isPlace) : List Char :=
  spell p.lead p.kind p.token p.stamp

theorem toList_write (lead : String) (kind : IdKind) (token : List Char) (millis : Int) :
    (write lead kind token millis).toList = spell lead.toList kind token (decimalInt millis) := by
  simp [write, spell]

/-- The parts of text are told apart from its end: the stamp and the word for the kind hold no
underscore, and tokens have one length. -/
theorem spell_inj {lead lead' token token' stamp stamp' : List Char} {kind kind' : IdKind}
    (hstamp : '_' ∉ stamp) (hstamp' : '_' ∉ stamp') (hlength : token.length = token'.length)
    (h : spell lead kind token stamp = spell lead' kind' token' stamp') :
    lead = lead' ∧ kind = kind' ∧ token = token' ∧ stamp = stamp' := by
  simp only [spell, ← List.cons_append, ← List.append_assoc] at h
  obtain ⟨hfront, rfl⟩ := append_separator_inj hstamp hstamp' h
  obtain ⟨hfront, htoken⟩ := List.append_inj' hfront (congrArg Nat.succ hlength)
  obtain ⟨rfl, htag⟩ := append_separator_inj kind.not_mem_tag kind'.not_mem_tag hfront
  exact ⟨rfl, IdKind.tag_injective htag, (List.cons.inj htoken).2, rfl⟩

/-! ### Reading -/

theorem isLead_iff {c : Char} : isLead c ↔ c.isAlphanum ∨ c = '-' := by
  have hlower : ('a' ≤ c && c ≤ 'z') = c.isLower := rfl
  have hupper : ('A' ≤ c && c ≤ 'Z') = c.isUpper := (Bool.decide_and _ _).symm
  have hdigit : isAsciiDigit c = c.isDigit := rfl
  rw [isLead, hlower, hupper, hdigit, Bool.or_comm c.isLower, Bool.or_eq_true, beq_iff_eq]
  rfl

theorem isToken_iff {c : Char} : isToken c ↔ c.isDigit ∨ 'a' ≤ c ∧ c ≤ 'f' := by
  simp [isToken, isAsciiDigit, Char.isDigit, Char.le_def]

theorem readStamp?_eq_some_iff {cs stamp : List Char} :
    readStamp? cs = some stamp ↔ ∃ token, cs = token ++ '_' :: stamp ∧
      (token.length = tokenLength ∧ ∀ c ∈ token, isToken c) ∧
      stamp.length = stampLength ∧ ∀ c ∈ stamp, isDigit c := by
  constructor
  · intro h
    unfold readStamp? at h
    split at h
    · rename_i htoken
      split at h
      · rename_i rest hrest
        split at h
        · rename_i hstamp
          obtain rfl := Option.some.inj h
          refine ⟨cs.take tokenLength, ?_, by simpa using htoken, by simpa using hstamp⟩
          rw [← hrest, List.take_append_drop]
        · cases h
      · cases h
    · cases h
  · rintro ⟨token, rfl, ⟨hlength, htoken⟩, hstamp, hdigits⟩
    unfold readStamp?
    rw [List.take_left' hlength, List.drop_left' hlength]
    simp [hlength, List.all_eq_true.2 htoken, hstamp, List.all_eq_true.2 hdigits]

/-- What is read has the parts of an identifier, but for a line break at its end. -/
theorem exists_parts_of_read? {s : String} {kind : IdKind} {stamp : List Char}
    (h : read? s = some (kind, stamp)) :
    ∃ p : Parts isDigit, p.kind = kind ∧ p.stamp = stamp ∧ dropFinalBreak s.toList = p.text := by
  unfold read? at h
  dsimp only at h
  split at h
  · cases h
  rename_i hlead
  split at h
  · rename_i rest hrest
    split at h
    · rename_i kind' rest' hkind
      obtain ⟨stamp', hstamp, heq⟩ := Option.map_eq_some_iff.1 h
      obtain ⟨rfl, rfl⟩ := Prod.mk.inj heq
      obtain ⟨token, rfl, ⟨htoken, hhex⟩, hplaces, hdigits⟩ := readStamp?_eq_some_iff.1 hstamp
      obtain rfl := IdKind.read?_eq_some_iff.1 hkind
      refine ⟨{
        lead := (dropFinalBreak s.toList).takeWhile isLead
        kind := kind'
        token := token
        stamp := stamp'
        lead_ne_nil := fun hnil => hlead (List.isEmpty_iff.2 hnil)
        lead_chars := fun c hc => isLead_iff.1 (List.all_eq_true.1 List.all_takeWhile c hc)
        token_length := htoken
        token_chars := fun c hc => isToken_iff.1 (hhex c hc)
        stamp_length := hplaces
        stamp_chars := hdigits }, rfl, rfl, ?_⟩
      exact List.takeWhile_append_dropWhile.symm.trans (congrArg _ hrest)
    · cases h
  · cases h

/-- The parts of an identifier are read, also with a line break after them. -/
theorem read?_of_parts {s : String} (p : Parts isDigit) (h : dropFinalBreak s.toList = p.text) :
    read? s = some (p.kind, p.stamp) := by
  have hlead : ∀ c ∈ p.lead, isLead c := fun c hc => isLead_iff.2 (p.lead_chars c hc)
  have hstop : isLead '_' = false := rfl
  have htake : p.text.takeWhile isLead = p.lead := by
    rw [Parts.text, spell, List.takeWhile_append_of_pos hlead]
    simp [hstop]
  have hdrop : p.text.dropWhile isLead =
      '_' :: (p.kind.tag ++ '_' :: (p.token ++ '_' :: p.stamp)) := by
    rw [Parts.text, spell, List.dropWhile_append_of_pos hlead]
    simp [hstop]
  have hkind : IdKind.read? (p.kind.tag ++ '_' :: (p.token ++ '_' :: p.stamp)) =
      some (p.kind, p.token ++ '_' :: p.stamp) := IdKind.read?_tag _ _
  have hstamp : readStamp? (p.token ++ '_' :: p.stamp) = some p.stamp :=
    readStamp?_eq_some_iff.2 ⟨p.token, rfl,
      ⟨p.token_length, fun c hc => isToken_iff.2 (p.token_chars c hc)⟩, p.stamp_length,
      p.stamp_chars⟩
  unfold read?
  simp only [h, htake, hdrop, hkind, hstamp, List.isEmpty_iff, p.lead_ne_nil, if_false]
  rfl

theorem Parts.not_mem_stamp {isPlace : Char → Bool} (p : Parts isPlace) {c : Char}
    (h : isPlace c = false) : c ∉ p.stamp :=
  fun hc => Bool.false_ne_true (h.symm.trans (p.stamp_chars c hc))

theorem Parts.break_not_mem_text (p : Parts isDigit) : '\n' ∉ p.text := by
  have hlead : '\n' ∉ p.lead := fun hc => absurd (p.lead_chars _ hc) (by decide)
  have htoken : '\n' ∉ p.token := fun hc => absurd (p.token_chars _ hc) (by decide)
  have hstamp : '\n' ∉ p.stamp := p.not_mem_stamp (by decide)
  have htag : '\n' ∉ p.kind.tag := by cases p.kind <;> decide
  simp [text, spell, hlead, htoken, hstamp, htag]

/-- What is read is the text of an identifier or has one line break after it. -/
theorem read?_eq_some_iff {s : String} {kind : IdKind} {stamp : List Char} :
    read? s = some (kind, stamp) ↔ ∃ p : Parts isDigit, p.kind = kind ∧ p.stamp = stamp ∧
      (s.toList = p.text ∨ s.toList = p.text ++ ['\n']) := by
  constructor
  · intro h
    obtain ⟨p, hkind, hstamp, htext⟩ := exists_parts_of_read? h
    exact ⟨p, hkind, hstamp, (dropFinalBreak_eq_iff p.break_not_mem_text).1 htext⟩
  · rintro ⟨p, rfl, rfl, htext⟩
    exact read?_of_parts p ((dropFinalBreak_eq_iff p.break_not_mem_text).2 htext)

/-! ### Values -/

theorem accepts_null_iff {v : Value} :
    accepts v .null ↔ ∃ s, v = .text s ∧ ∃ kind stamp, read? s = some (kind, stamp) := by
  constructor
  · intro h
    cases v with
    | text s =>
      obtain ⟨⟨kind, stamp⟩, hread⟩ := Option.isSome_iff_exists.1 h
      exact ⟨s, rfl, kind, stamp, hread⟩
    | _ => cases h
  · rintro ⟨s, rfl, kind, stamp, hread⟩
    exact Option.isSome_iff_exists.2 ⟨_, hread⟩

theorem isValidFor_iff {s : String} {kind : IdKind} :
    isValidFor s kind ↔ ∃ stamp, read? s = some (kind, stamp) := by
  unfold isValidFor
  cases read? s with
  | none => simp
  | some r => simp [Prod.ext_iff]

/-- A kind is asked for by its word. -/
theorem accepts_text_iff {s : String} {k : Value} (hk : k ≠ .null) :
    accepts (.text s) k ↔ ∃ kind stamp, read? s = some (kind, stamp) ∧
      k = .text (String.ofList kind.tag) := by
  constructor
  · intro h
    cases k with
    | null => exact absurd rfl hk
    | text w =>
      obtain ⟨kind, hword, hvalid⟩ := (Option.any_eq_true _ _).1 h
      obtain ⟨stamp, hread⟩ := isValidFor_iff.1 hvalid
      exact ⟨kind, stamp, hread, congrArg Value.text (IdKind.ofTag?_eq_some_iff.1 hword)⟩
    | _ => cases h
  · rintro ⟨kind, stamp, hread, rfl⟩
    exact (Option.any_eq_true _ _).2
      ⟨kind, IdKind.ofTag?_eq_some_iff.2 rfl, isValidFor_iff.2 ⟨stamp, hread⟩⟩

theorem stampOf_eq_none_iff {s : String} : stampOf (.text s) = none ↔ read? s = none :=
  Option.map_eq_none_iff

/-! ### Identifiers of draws -/

theorem isHex_hexDigit {n : Nat} (h : n < 16) :
    (hexDigit n).isDigit ∨ 'a' ≤ hexDigit n ∧ hexDigit n ≤ 'f' := by
  have hall : ∀ m : Fin 16,
      (hexDigit m.val).isDigit ∨ 'a' ≤ hexDigit m.val ∧ hexDigit m.val ≤ 'f' := by decide
  exact hall ⟨n, h⟩

theorem isHex_of_mem_hexFixed {k n : Nat} {c : Char} (h : c ∈ hexFixed k n) :
    c.isDigit ∨ 'a' ≤ c ∧ c ≤ 'f' := by
  induction k generalizing n with
  | zero => cases h
  | succ k ih =>
    obtain h | h := List.mem_append.1 h
    · exact ih h
    · rw [List.mem_singleton.1 h]
      exact isHex_hexDigit (Nat.mod_lt n (by decide))

theorem length_tokenOf (draw : BitVec 128) : (tokenOf draw).length = 16 := by
  rw [tokenOf, List.length_take, length_hexFixed]
  rfl

/-- A stamp is of the form exactly if the number of milliseconds has thirteen digits. -/
theorem stamp_decimalInt_iff {millis : Int} :
    ((decimalInt millis).length = 13 ∧ ∀ c ∈ decimalInt millis, isDigit c) ↔
      10 ^ 12 ≤ millis ∧ millis < 10 ^ 13 := by
  by_cases hneg : millis < 0
  · refine iff_of_false (fun h => ?_) (by omega)
    rw [decimalInt, if_pos hneg] at h
    exact absurd (h.2 '-' List.mem_cons_self) (by decide)
  · have hlength := length_decimal_eq_iff (n := millis.natAbs) (k := 12) (by decide)
    rw [decimalInt, if_neg hneg, hlength]
    constructor
    · rintro ⟨hrange, -⟩
      omega
    · intro hrange
      exact ⟨by omega, fun c hc => isDigit_of_isDigit (isDigit_of_mem_decimal hc)⟩

/-- A lead and a number of milliseconds of which an identifier can be made: the lead is of letters,
digits and hyphens, and the number has thirteen digits. -/
def Suits (lead : String) (millis : Int) : Prop :=
  (lead ≠ "" ∧ ∀ c ∈ lead.toList, c.isAlphanum ∨ c = '-') ∧ 10 ^ 12 ≤ millis ∧ millis < 10 ^ 13

/-- The parts of the identifier that a draw makes of them. -/
def Suits.parts {lead : String} {millis : Int} (h : Suits lead millis) (kind : IdKind)
    (draw : BitVec 128) : Parts isDigit where
  lead := lead.toList
  kind := kind
  token := tokenOf draw
  stamp := decimalInt millis
  lead_ne_nil := fun hnil => h.1.1 (String.toList_eq_nil_iff.1 hnil)
  lead_chars := h.1.2
  token_length := length_tokenOf draw
  token_chars := fun _ hc => isHex_of_mem_hexFixed (List.mem_of_mem_take hc)
  stamp_length := (stamp_decimalInt_iff.2 h.2).1
  stamp_chars := (stamp_decimalInt_iff.2 h.2).2

theorem Suits.text_parts {lead : String} {millis : Int} (h : Suits lead millis) (kind : IdKind)
    (draw : BitVec 128) : (h.parts kind draw).text = (generate lead kind draw millis).toList := by
  simp only [generate, toList_write, Parts.text, parts]

/-- Only parts of the form spell an identifier that is generated, whatever its lead: no underscore
of the lead is taken for a later one. -/
theorem parts_of_toList_generate {lead : String} {kind : IdKind} {draw : BitVec 128} {millis : Int}
    {p : Parts isDigit} (h : (generate lead kind draw millis).toList = p.text ∨
      (generate lead kind draw millis).toList = p.text ++ ['\n']) :
    lead.toList = p.lead ∧ kind = p.kind ∧ decimalInt millis = p.stamp := by
  have hmillis : '_' ∉ decimalInt millis := not_mem_decimalInt millis (by decide) (by decide)
  have hstamp : '_' ∉ p.stamp := p.not_mem_stamp (by decide)
  have hlength := (length_tokenOf draw).trans p.token_length.symm
  rw [generate, toList_write] at h
  obtain h | h := h
  · obtain ⟨hlead, hkind, -, hmillis⟩ := spell_inj hmillis hstamp hlength h
    exact ⟨hlead, hkind, hmillis⟩
  · -- a number does not end in a line break
    have hspell : _ = spell p.lead p.kind p.token (p.stamp ++ ['\n']) :=
      h.trans (by simp [Parts.text, spell])
    obtain ⟨-, -, -, heq⟩ := spell_inj hmillis (by simpa using hstamp) hlength hspell
    have hbreak : '\n' ∉ decimalInt millis := not_mem_decimalInt millis (by decide) (by decide)
    exact absurd (heq ▸ by simp) hbreak

/-- An identifier that is generated is read exactly if its lead and its number are of the form, and
as the kind and the stamp it was written with. -/
theorem read?_generate_eq_some_iff {lead : String} {kind k : IdKind} {draw : BitVec 128}
    {millis : Int} {stamp : List Char} :
    read? (generate lead kind draw millis) = some (k, stamp) ↔
      Suits lead millis ∧ k = kind ∧ stamp = decimalInt millis := by
  rw [read?_eq_some_iff]
  constructor
  · rintro ⟨p, rfl, rfl, htext⟩
    obtain ⟨hlead, hkind, hstamp⟩ := parts_of_toList_generate htext
    refine ⟨⟨⟨?_, ?_⟩, stamp_decimalInt_iff.1 ?_⟩, hkind.symm, hstamp.symm⟩
    · rintro rfl
      exact p.lead_ne_nil hlead.symm
    · rw [hlead]
      exact p.lead_chars
    · rw [hstamp]
      exact ⟨p.stamp_length, p.stamp_chars⟩
  · rintro ⟨h, rfl, rfl⟩
    exact ⟨h.parts k draw, rfl, rfl, .inl (h.text_parts k draw).symm⟩

theorem readDigits_decimalInt {millis : Int} (h : 0 ≤ millis) :
    (readDigits (decimalInt millis) : Int) = millis := by
  rw [decimalInt, if_neg (Int.not_lt.2 h), readDigits_decimal, Int.natAbs_of_nonneg h]

/-- Identifiers that are generated are accepted exactly if the lead is not empty and of ASCII
letters, digits and hyphens, and the number of milliseconds has thirteen digits.  Then the number is
read back, and of all kinds that can be asked for it is accepted as its own.  Otherwise no number is
read back. -/
theorem generated_reads_back (lead : String) (kind : IdKind) (draw : BitVec 128) (millis : Int) :
    (accepts (.text (generate lead kind draw millis)) .null ↔
      (lead ≠ "" ∧ ∀ c ∈ lead.toList, c.isAlphanum ∨ c = '-') ∧
        10 ^ 12 ≤ millis ∧ millis < 10 ^ 13) ∧
    (accepts (.text (generate lead kind draw millis)) .null →
      (stampOf (.text (generate lead kind draw millis))).map Int.ofNat = some millis ∧
      ∀ k, k ≠ .null → (accepts (.text (generate lead kind draw millis)) k ↔
        k = .text (String.ofList kind.tag))) ∧
    (¬accepts (.text (generate lead kind draw millis)) .null →
      stampOf (.text (generate lead kind draw millis)) = none) := by
  have haccepts : accepts (.text (generate lead kind draw millis)) .null ↔ Suits lead millis := by
    rw [accepts_null_iff]
    constructor
    · rintro ⟨s, hs, k, stamp, hread⟩
      obtain rfl := Value.text.inj hs
      exact (read?_generate_eq_some_iff.1 hread).1
    · intro h
      exact ⟨_, rfl, kind, _, read?_generate_eq_some_iff.2 ⟨h, rfl, rfl⟩⟩
  refine ⟨haccepts, fun h => ?_, fun h => ?_⟩
  · have hsuits := haccepts.1 h
    have hread : read? (generate lead kind draw millis) = some (kind, decimalInt millis) :=
      read?_generate_eq_some_iff.2 ⟨hsuits, rfl, rfl⟩
    constructor
    · have hmillis : 0 ≤ millis := Int.le_trans (by decide) hsuits.2.1
      rw [stampOf, stamp?, hread, Option.map_some, Option.map_some]
      exact congrArg some (readDigits_decimalInt hmillis)
    · intro k hk
      rw [accepts_text_iff hk, hread]
      constructor
      · rintro ⟨_, _, heq, rfl⟩
        obtain ⟨rfl, rfl⟩ := Prod.mk.inj (Option.some.inj heq)
        rfl
      · rintro rfl
        exact ⟨kind, _, rfl, rfl⟩
  · cases hread : read? (generate lead kind draw millis) with
    | none => exact stampOf_eq_none_iff.2 hread
    | some r => exact absurd (haccepts.2 (read?_generate_eq_some_iff.1 hread).1) h

/-- An identifier with a hyphen in its lead, and one that is not accepted because its lead looks
like an identifier. -/
theorem generated_reads_back_hyphened :
    let id := generate "local-1" .subscription 0x0123456789abcdef0123456789abcdef#128 1700000000000
    let nested := generate "a_sub_0123456789abcdef_1700000000000" .subscription
      0x0123456789abcdef0123456789abcdef#128 1700000000000
    id = "local-1_sub_0123456789abcdef_1700000000000" ∧ accepts (.text id) .null ∧
      (stampOf (.text id)).map Int.ofNat = some 1700000000000 ∧
      accepts (.text id) (.text "sub") ∧ ¬accepts (.text id) (.text "cus") ∧
      ¬accepts (.text nested) .null ∧ stampOf (.text nested) = none := by
  intro id nested
  obtain ⟨haccepts, hread, -⟩ := generated_reads_back "local-1" .subscription
    0x0123456789abcdef0123456789abcdef#128 1700000000000
  obtain ⟨hrefused, -, hnone⟩ := generated_reads_back "a_sub_0123456789abcdef_1700000000000"
    .subscription 0x0123456789abcdef0123456789abcdef#128 1700000000000
  have hlead : ∀ c ∈ "local-1".toList, c.isAlphanum ∨ c = '-' := fun c hc =>
    isLead_iff.1 (List.all_eq_true.1 (by decide) c hc)
  have hid : accepts (.text id) .null := haccepts.2 ⟨⟨by decide, hlead⟩, by decide, by decide⟩
  have hnested : ¬accepts (.text nested) .null := fun h =>
    absurd ((hrefused.1 h).1.2 '_' (by decide)) (by decide)
  obtain ⟨hstamp, hkinds⟩ := hread hid
  refine ⟨by decide +kernel, hid, hstamp, ?_, fun h => ?_, hnested, hnone hnested⟩
  · exact (hkinds (.text "sub") nofun).2 (congrArg Value.text (by decide))
  · exact absurd (Value.text.inj ((hkinds (.text "cus") nofun).1 h)) (by decide)

/-! ### Values that are accepted -/

/-- The same parts, the digits of the stamp from another class. -/
def Parts.within {isPlace isPlace' : Char → Bool} (p : Parts isPlace)
    (h : ∀ c ∈ p.stamp, isPlace' c) : Parts isPlace' :=
  { p with stamp_chars := h }

theorem Parts.text_within {isPlace isPlace' : Char → Bool} (p : Parts isPlace)
    (h : ∀ c ∈ p.stamp, isPlace' c) : (p.within h).text = p.text :=
  rfl

/-- A value spells an identifier: it is text of a lead of ASCII letters, digits and hyphens, a kind,
a token of sixteen hexadecimal digits and a stamp of thirteen ASCII digits, with underscores between
them and nothing before or after. -/
def Spells (v : Value) : Prop :=
  ∃ p : Parts Char.isDigit, v = .text (String.ofList p.text)

/-- A value strays from the form of identifiers: it would spell one, but for a line break at its end
or a digit of another script in its stamp. -/
def Strays (v : Value) : Prop :=
  ∃ p : Parts isDigit, v = .text (String.ofList (p.text ++ ['\n'])) ∨
    v = .text (String.ofList p.text) ∧ ∃ c ∈ p.stamp, ¬c.isDigit

/-- An ASCII digit is a digit of some script. -/
theorem Parts.isDigit_of_mem_stamp (p : Parts Char.isDigit) : ∀ c ∈ p.stamp, isDigit c :=
  fun c hc => isDigit_of_isDigit (p.stamp_chars c hc)

theorem accepts_of_parts (p : Parts isDigit) {cs : List Char}
    (h : cs = p.text ∨ cs = p.text ++ ['\n']) : accepts (.text (String.ofList cs)) .null := by
  rw [← String.toList_ofList (l := cs)] at h
  exact accepts_null_iff.2 ⟨_, rfl, p.kind, p.stamp, read?_eq_some_iff.2 ⟨p, rfl, rfl, h⟩⟩

theorem accepts_null_iff_spells_or_strays {v : Value} :
    accepts v .null ↔ Spells v ∨ Strays v := by
  constructor
  · intro h
    obtain ⟨s, rfl, kind, stamp, hread⟩ := accepts_null_iff.1 h
    obtain ⟨p, -, -, htext⟩ := read?_eq_some_iff.1 hread
    rw [← String.ofList_toList (s := s)]
    obtain htext | htext := htext
    · rw [htext]
      by_cases hdigits : ∀ c ∈ p.stamp, c.isDigit
      · exact .inl ⟨p.within hdigits, by rw [p.text_within]⟩
      · push Not at hdigits
        exact .inr ⟨p, .inr ⟨rfl, hdigits⟩⟩
    · rw [htext]
      exact .inr ⟨p, .inl rfl⟩
  · rintro (⟨p, rfl⟩ | ⟨p, rfl | ⟨rfl, -⟩⟩)
    · exact accepts_of_parts (p.within p.isDigit_of_mem_stamp) (.inl rfl)
    · exact accepts_of_parts p (.inr rfl)
    · exact accepts_of_parts p (.inl rfl)

/-- What strays from the form does not have it in another way. -/
theorem Strays.not_spells {v : Value} (h : Strays v) : ¬Spells v := by
  rintro ⟨q, hq⟩
  obtain ⟨p, hp | ⟨hp, c, hc, hdigit⟩⟩ := h
  · have htext : p.text ++ ['\n'] = q.text :=
      String.ofList_injective (Value.text.inj (hp.symm.trans hq))
    have hbreak : '\n' ∉ q.text := (q.within q.isDigit_of_mem_stamp).break_not_mem_text
    exact hbreak (htext ▸ by simp)
  · have htext : p.text = q.text := String.ofList_injective (Value.text.inj (hp.symm.trans hq))
    obtain ⟨-, -, -, hstamp⟩ := spell_inj (p.not_mem_stamp (by decide))
      (q.not_mem_stamp (by decide)) (p.token_length.trans q.token_length.symm) htext
    exact hdigit (q.stamp_chars c (hstamp ▸ hc))

/-- The values that are accepted are those that spell an identifier and those that stray from the
form.  So a value is accepted just as it should be exactly if it does not stray: no line break
stands after an identifier, and the digits of its stamp are of ASCII. -/
theorem accepts_exactly_iff (v : Value) :
    (accepts v .null ↔ Spells v ∨ Strays v) ∧ ((accepts v .null ↔ Spells v) ↔ ¬Strays v) := by
  refine ⟨accepts_null_iff_spells_or_strays, fun h hstrays => ?_, fun h => ?_⟩
  · exact hstrays.not_spells (h.1 (accepts_null_iff_spells_or_strays.2 (.inr hstrays)))
  · rw [accepts_null_iff_spells_or_strays, or_iff_left h]

/-- The parts of a customer's identifier with a given stamp. -/
def emulatorParts (stamp : List Char) (length : stamp.length = 13)
    (chars : ∀ c ∈ stamp, isDigit c) : Parts isDigit where
  lead := "emulator".toList
  kind := .customer
  token := "a1b2c3d4e5f6a7b8".toList
  stamp := stamp
  lead_ne_nil := by decide
  lead_chars := fun c hc => isLead_iff.1 (List.all_eq_true.1 (by decide) c hc)
  token_length := by decide
  token_chars := fun c hc => isToken_iff.1 (List.all_eq_true.1 (by decide) c hc)
  stamp_length := length
  stamp_chars := chars

/-- An identifier with a line break after it is accepted, and so is one with a digit of another
script. -/
theorem not_spells_of_break :
    ¬(accepts (.text "emulator_cus_a1b2c3d4e5f6a7b8_1700000000000\n") .null ↔
      Spells (.text "emulator_cus_a1b2c3d4e5f6a7b8_1700000000000\n")) ∧
    ¬(accepts (.text "emulator_cus_a1b2c3d4e5f6a7b8_170000000000٣") .null ↔
      Spells (.text "emulator_cus_a1b2c3d4e5f6a7b8_170000000000٣")) := by
  have hbreak : Strays (.text "emulator_cus_a1b2c3d4e5f6a7b8_1700000000000\n") :=
    ⟨emulatorParts "1700000000000".toList (by decide) (List.all_eq_true.1 (by decide)),
      .inl (congrArg Value.text (by decide +kernel))⟩
  have hdigit : Strays (.text "emulator_cus_a1b2c3d4e5f6a7b8_170000000000٣") :=
    ⟨emulatorParts "170000000000٣".toList (by decide) (List.all_eq_true.1 (by decide)),
      .inr ⟨congrArg Value.text (by decide +kernel), '٣', by decide, by decide⟩⟩
  constructor
  · exact fun h => hbreak.not_spells (h.1 (accepts_null_iff_spells_or_strays.2 (.inr hbreak)))
  · exact fun h => hdigit.not_spells (h.1 (accepts_null_iff_spells_or_strays.2 (.inr hdigit)))

end Identifier

end Patronage
