import Patronage.Text.Utf8
/-!
# What is UTF-8

Bytes are decoded exactly if they are the encoding of characters, and then to these.  Main
statement:

* `decodeUtf8_eq_some_iff` — which bytes are decoded, and to what.
-/

namespace Patronage.Text

/-- The bytes that encode characters. -/
def encodeUtf8 (cs : List Char) : Bytes := cs.flatMap String.utf8EncodeChar

theorem eq_ofNat_of_toNat {b : UInt8} {n : Nat} (h : b.toNat = n) : UInt8.ofNat n = b := by
  rw [← h, UInt8.ofNat_toNat]

/-! ### Parts of an encoding -/

theorem continuation?_ofNat (n : Nat) : continuation? (UInt8.ofNat (n % 0x40 + 0x80)) =
    some (n % 64) := by
  rw [continuation?, UInt8.toNat_ofNat_of_lt' (show n % 0x40 + 0x80 < 256 by omega),
    if_pos (by omega)]
  exact congrArg some (by omega)

theorem toNat_of_continuation? {b : UInt8} {y : Nat} (h : continuation? b = some y) :
    b.toNat = y + 0x80 ∧ y < 64 := by
  unfold continuation? at h
  split at h
  · obtain rfl := Option.some.inj h
    omega
  · cases h

theorem scalar?_toNat {least : Nat} {c : Char} (h : least ≤ c.toNat) :
    scalar? least c.toNat = some c := by
  have hvalid : c.toNat.isValidChar := c.valid
  rw [scalar?, dif_pos hvalid, if_pos h]
  rfl

theorem toNat_of_scalar? {least n : Nat} {c : Char} (h : scalar? least n = some c) :
    least ≤ n ∧ c.toNat = n := by
  unfold scalar? at h
  by_cases hvalid : n.isValidChar
  · rw [dif_pos hvalid] at h
    by_cases hleast : least ≤ n
    · rw [if_pos hleast] at h
      obtain rfl := Option.some.inj h
      exact ⟨hleast, rfl⟩
    · rw [if_neg hleast] at h
      cases h
  · rw [dif_neg hvalid] at h
    cases h

/-! ### Characters -/

section

variable {a b b' b'' : UInt8} {rest : Bytes}

theorem decodeUtf8_one (h : a.toNat < 0x80) : decodeUtf8 (a :: rest) = do
    let c ← scalar? 0 a.toNat
    let cs ← decodeUtf8 rest
    return c :: cs := by
  conv => lhs; unfold decodeUtf8
  dsimp only
  rw [if_pos h]
  cases scalar? 0 a.toNat <;> cases decodeUtf8 rest <;> rfl

theorem decodeUtf8_two (h : 0xC0 ≤ a.toNat ∧ a.toNat < 0xE0) : decodeUtf8 (a :: b :: rest) = do
    let y ← continuation? b
    let c ← scalar? 0x80 (a.toNat % 32 * 64 + y)
    let cs ← decodeUtf8 rest
    return c :: cs := by
  rw [decodeUtf8, if_neg (by omega), if_pos (by simpa using h)]

theorem decodeUtf8_three (h : 0xE0 ≤ a.toNat ∧ a.toNat < 0xF0) :
    decodeUtf8 (a :: b :: b' :: rest) = do
      let y ← continuation? b
      let z ← continuation? b'
      let c ← scalar? 0x800 ((a.toNat % 16 * 64 + y) * 64 + z)
      let cs ← decodeUtf8 rest
      return c :: cs := by
  rw [decodeUtf8, if_neg (by omega), if_neg (by simp; omega), if_pos (by simpa using h)]

theorem decodeUtf8_four (h : 0xF0 ≤ a.toNat ∧ a.toNat < 0xF8) :
    decodeUtf8 (a :: b :: b' :: b'' :: rest) = do
      let y ← continuation? b
      let z ← continuation? b'
      let w ← continuation? b''
      let c ← scalar? 0x10000 (((a.toNat % 8 * 64 + y) * 64 + z) * 64 + w)
      let cs ← decodeUtf8 rest
      return c :: cs := by
  rw [decodeUtf8, if_neg (by omega), if_neg (by simp; omega), if_neg (by simp; omega),
    if_pos (by simpa using h)]

end

section

variable {c : Char}

theorem utf8EncodeChar_one (h : c.toNat < 0x80) :
    String.utf8EncodeChar c = [UInt8.ofNat c.toNat] :=
  if_pos (Nat.le_of_lt_succ h)

theorem utf8EncodeChar_two (h : 0x80 ≤ c.toNat ∧ c.toNat < 0x800) : String.utf8EncodeChar c =
    [UInt8.ofNat (c.toNat / 64 % 0x20 + 0xC0), UInt8.ofNat (c.toNat % 0x40 + 0x80)] :=
  (if_neg (Nat.not_le.2 h.1)).trans (if_pos (Nat.le_of_lt_succ h.2))

theorem utf8EncodeChar_three (h : 0x800 ≤ c.toNat ∧ c.toNat < 0x10000) :
    String.utf8EncodeChar c =
      [UInt8.ofNat (c.toNat / 4096 % 0x10 + 0xE0), UInt8.ofNat (c.toNat / 64 % 0x40 + 0x80),
        UInt8.ofNat (c.toNat % 0x40 + 0x80)] := by
  have hlow : ¬c.toNat ≤ 0x7F := by omega
  exact (if_neg hlow).trans ((if_neg (Nat.not_le.2 h.1)).trans (if_pos (Nat.le_of_lt_succ h.2)))

theorem utf8EncodeChar_four (h : 0x10000 ≤ c.toNat) : String.utf8EncodeChar c =
    [UInt8.ofNat (c.toNat / 262144 % 0x08 + 0xF0), UInt8.ofNat (c.toNat / 4096 % 0x40 + 0x80),
      UInt8.ofNat (c.toNat / 64 % 0x40 + 0x80), UInt8.ofNat (c.toNat % 0x40 + 0x80)] := by
  have hone : ¬c.toNat ≤ 0x7F := by omega
  have htwo : ¬c.toNat ≤ 0x7FF := by omega
  exact (if_neg hone).trans ((if_neg htwo).trans (if_neg (Nat.not_le.2 h)))

/-- One character is decoded after the other. -/
theorem decodeUtf8_append (c : Char) (rest : Bytes) :
    decodeUtf8 (String.utf8EncodeChar c ++ rest) = (decodeUtf8 rest).map (c :: ·) := by
  have hmax : c.toNat < 0x110000 := by
    have : c.toNat.isValidChar := c.valid
    unfold Nat.isValidChar at this
    omega
  have hrest : (decodeUtf8 rest >>= fun cs => pure (c :: cs)) =
      (decodeUtf8 rest).map (c :: ·) := by
    cases decodeUtf8 rest <;> rfl
  by_cases hone : c.toNat < 0x80
  · have ha := UInt8.toNat_ofNat_of_lt' (show c.toNat < 256 by omega)
    rw [utf8EncodeChar_one hone, List.cons_append, List.nil_append, decodeUtf8_one (by omega), ha,
      scalar?_toNat (by omega)]
    exact hrest
  by_cases htwo : c.toNat < 0x800
  · have ha := UInt8.toNat_ofNat_of_lt' (show c.toNat / 64 % 0x20 + 0xC0 < 256 by omega)
    have hn : (UInt8.ofNat (c.toNat / 64 % 0x20 + 0xC0)).toNat % 32 * 64 + c.toNat % 64 =
        c.toNat := by omega
    rw [utf8EncodeChar_two (by omega)]
    simp only [List.cons_append, List.nil_append]
    rw [decodeUtf8_two (by omega), continuation?_ofNat, Option.bind_eq_bind, Option.bind_some, hn,
      scalar?_toNat (by omega)]
    exact hrest
  by_cases hthree : c.toNat < 0x10000
  · have ha := UInt8.toNat_ofNat_of_lt' (show c.toNat / 4096 % 0x10 + 0xE0 < 256 by omega)
    have hn : ((UInt8.ofNat (c.toNat / 4096 % 0x10 + 0xE0)).toNat % 16 * 64 +
        c.toNat / 64 % 64) * 64 + c.toNat % 64 = c.toNat := by omega
    rw [utf8EncodeChar_three (by omega)]
    simp only [List.cons_append, List.nil_append]
    rw [decodeUtf8_three (by omega), continuation?_ofNat, Option.bind_eq_bind, Option.bind_some,
      continuation?_ofNat, Option.bind_some, hn, scalar?_toNat (by omega)]
    exact hrest
  · have ha := UInt8.toNat_ofNat_of_lt' (show c.toNat / 262144 % 0x08 + 0xF0 < 256 by omega)
    have hn : (((UInt8.ofNat (c.toNat / 262144 % 0x08 + 0xF0)).toNat % 8 * 64 +
        c.toNat / 4096 % 64) * 64 + c.toNat / 64 % 64) * 64 + c.toNat % 64 = c.toNat := by omega
    rw [utf8EncodeChar_four (by omega)]
    simp only [List.cons_append, List.nil_append]
    rw [decodeUtf8_four (by omega), continuation?_ofNat, Option.bind_eq_bind, Option.bind_some,
      continuation?_ofNat, Option.bind_some, continuation?_ofNat, Option.bind_some, hn,
      scalar?_toNat (by omega)]
    exact hrest

end

theorem decodeUtf8_encodeUtf8 (cs : List Char) : decodeUtf8 (encodeUtf8 cs) = some cs := by
  induction cs with
  | nil => rfl
  | cons c cs ih =>
    rw [encodeUtf8, List.flatMap_cons, decodeUtf8_append, ← encodeUtf8, ih, Option.map_some]

/-! ### From bytes to characters -/

/-- Bytes start with the encoding of the first of some characters and go on with bytes that are
decoded to the others. -/
def Leads (bs : Bytes) (ds : List Char) : Prop :=
  ∃ c rest cs, bs = String.utf8EncodeChar c ++ rest ∧ decodeUtf8 rest = some cs ∧ ds = c :: cs

theorem exists_of_scalar? {least n : Nat} {rest : Bytes} {ds : List Char}
    (h : (do
      let c ← scalar? least n
      let cs ← decodeUtf8 rest
      return c :: cs) = some ds) :
    ∃ c cs, (least ≤ n ∧ c.toNat = n) ∧ decodeUtf8 rest = some cs ∧ ds = c :: cs := by
  obtain ⟨c, hc, h⟩ := Option.bind_eq_some_iff.1 h
  obtain ⟨cs, hcs, h⟩ := Option.bind_eq_some_iff.1 h
  exact ⟨c, cs, toNat_of_scalar? hc, hcs, (Option.some.inj h).symm⟩

section

variable {a b b' b'' : UInt8} {rest : Bytes} {ds : List Char}

theorem leads_one (ha : a.toNat < 0x80) (h : decodeUtf8 (a :: rest) = some ds) :
    Leads (a :: rest) ds := by
  rw [decodeUtf8_one ha] at h
  obtain ⟨c, cs, ⟨-, hn⟩, hcs, rfl⟩ := exists_of_scalar? h
  refine ⟨c, rest, cs, ?_, hcs, rfl⟩
  rw [utf8EncodeChar_one (by omega), hn, UInt8.ofNat_toNat]
  rfl

theorem leads_two (ha : 0xC0 ≤ a.toNat ∧ a.toNat < 0xE0)
    (h : decodeUtf8 (a :: b :: rest) = some ds) : Leads (a :: b :: rest) ds := by
  rw [decodeUtf8_two ha] at h
  obtain ⟨y, hy, h⟩ := Option.bind_eq_some_iff.1 h
  obtain ⟨hb, hlt⟩ := toNat_of_continuation? hy
  obtain ⟨c, cs, ⟨hleast, hn⟩, hcs, rfl⟩ := exists_of_scalar? h
  refine ⟨c, rest, cs, ?_, hcs, rfl⟩
  rw [utf8EncodeChar_two (by omega), eq_ofNat_of_toNat (b := a) (by omega),
    eq_ofNat_of_toNat (b := b) (by omega)]
  rfl

theorem leads_three (ha : 0xE0 ≤ a.toNat ∧ a.toNat < 0xF0)
    (h : decodeUtf8 (a :: b :: b' :: rest) = some ds) : Leads (a :: b :: b' :: rest) ds := by
  rw [decodeUtf8_three ha] at h
  obtain ⟨y, hy, h⟩ := Option.bind_eq_some_iff.1 h
  obtain ⟨z, hz, h⟩ := Option.bind_eq_some_iff.1 h
  obtain ⟨hb, hlt⟩ := toNat_of_continuation? hy
  obtain ⟨hb', hlt'⟩ := toNat_of_continuation? hz
  obtain ⟨c, cs, ⟨hleast, hn⟩, hcs, rfl⟩ := exists_of_scalar? h
  refine ⟨c, rest, cs, ?_, hcs, rfl⟩
  rw [utf8EncodeChar_three (by omega), eq_ofNat_of_toNat (b := a) (by omega),
    eq_ofNat_of_toNat (b := b) (by omega), eq_ofNat_of_toNat (b := b') (by omega)]
  rfl

theorem leads_four (ha : 0xF0 ≤ a.toNat ∧ a.toNat < 0xF8)
    (h : decodeUtf8 (a :: b :: b' :: b'' :: rest) = some ds) :
    Leads (a :: b :: b' :: b'' :: rest) ds := by
  rw [decodeUtf8_four ha] at h
  obtain ⟨y, hy, h⟩ := Option.bind_eq_some_iff.1 h
  obtain ⟨z, hz, h⟩ := Option.bind_eq_some_iff.1 h
  obtain ⟨w, hw, h⟩ := Option.bind_eq_some_iff.1 h
  obtain ⟨hb, hlt⟩ := toNat_of_continuation? hy
  obtain ⟨hb', hlt'⟩ := toNat_of_continuation? hz
  obtain ⟨hb'', hlt''⟩ := toNat_of_continuation? hw
  obtain ⟨c, cs, ⟨hleast, hn⟩, hcs, rfl⟩ := exists_of_scalar? h
  refine ⟨c, rest, cs, ?_, hcs, rfl⟩
  rw [utf8EncodeChar_four (by omega), eq_ofNat_of_toNat (b := a) (by omega),
    eq_ofNat_of_toNat (b := b) (by omega), eq_ofNat_of_toNat (b := b') (by omega),
    eq_ofNat_of_toNat (b := b'') (by omega)]
  rfl

/-- The bytes that a character was decoded from are its encoding. -/
theorem leads_of_decodeUtf8 {bs : Bytes} (h : decodeUtf8 (a :: bs) = some ds) :
    Leads (a :: bs) ds := by
  have hcases := h
  conv at hcases => lhs; unfold decodeUtf8
  dsimp only at hcases
  split at hcases
  · rename_i ha
    exact leads_one ha h
  split at hcases
  · rename_i ha
    split at hcases
    · exact leads_two (by simpa using ha) h
    · cases hcases
  split at hcases
  · rename_i ha
    split at hcases
    · exact leads_three (by simpa using ha) h
    · cases hcases
  split at hcases
  · rename_i ha
    split at hcases
    · exact leads_four (by simpa using ha) h
    · cases hcases
  · cases hcases

end

theorem encodeUtf8_of_decodeUtf8 {bs : Bytes} {cs : List Char} (h : decodeUtf8 bs = some cs) :
    encodeUtf8 cs = bs := by
  induction hlen : bs.length using Nat.strongRecOn generalizing bs cs with
  | _ n ih =>
    cases bs with
    | nil =>
      obtain rfl := Option.some.inj h
      rfl
    | cons a bs =>
      obtain ⟨c, rest, cs, heq, hrest, rfl⟩ := leads_of_decodeUtf8 h
      have hlt : rest.length < n := by
        have := congrArg List.length heq
        have := c.utf8Size_pos
        simp only [List.length_append, String.length_utf8EncodeChar] at *
        omega
      rw [encodeUtf8, List.flatMap_cons, ← encodeUtf8, ih _ hlt hrest rfl, heq]

/-- Bytes are decoded exactly if they encode characters, and then to these. -/
theorem decodeUtf8_eq_some_iff {bs : Bytes} {cs : List Char} :
    decodeUtf8 bs = some cs ↔ bs = encodeUtf8 cs :=
  ⟨fun h => (encodeUtf8_of_decodeUtf8 h).symm, fun h => h ▸ decodeUtf8_encodeUtf8 cs⟩

end Patronage.Text
