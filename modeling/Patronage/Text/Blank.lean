/-!
# Blank characters

Two sets of blank characters and what trimming removes.  `isSpace` is the Unicode property
`White_Space`.  `isBlank` adds the four information separators, which the property leaves out.
Main statements:

* `isBlank_of_isSpace` — the second set holds the first;
* `trim_of_ends` — text that neither starts nor ends with a blank is left alone.
-/

namespace Patronage.Text

/-- The Unicode property `White_Space`. -/
def isSpace (c : Char) : Bool :=
  let n := c.toNat
  (0x9 ≤ n && n ≤ 0xD) || n == 0x20 || n == 0x85 || n == 0xA0 || n == 0x1680 ||
    (0x2000 ≤ n && n ≤ 0x200A) || n == 0x2028 || n == 0x2029 || n == 0x202F || n == 0x205F ||
    n == 0x3000

/-- White space and the four information separators, U+001C to U+001F. -/
def isBlank (c : Char) : Bool :=
  isSpace c || (0x1C ≤ c.toNat && c.toNat ≤ 0x1F)

theorem isBlank_of_isSpace {c : Char} (h : isSpace c = true) : isBlank c = true := by
  simp [isBlank, h]

/-- Text without the characters of a class at its two ends. -/
def trimWhile (p : Char → Bool) (cs : List Char) : List Char :=
  ((cs.dropWhile p).reverse.dropWhile p).reverse

/-- Text without blanks at its two ends. -/
def trim (cs : List Char) : List Char :=
  trimWhile isBlank cs

/-- Text without one line break at its end. -/
def dropFinalBreak (cs : List Char) : List Char :=
  if cs.getLast? = some '\n' then cs.dropLast else cs

theorem dropWhile_of_head {p : Char → Bool} {cs : List Char}
    (h : ∀ c, cs.head? = some c → p c = false) : cs.dropWhile p = cs := by
  cases cs with
  | nil => rfl
  | cons c r => simp [h c rfl]

/-- Text that neither starts nor ends with a blank is left alone. -/
theorem trim_of_ends {cs : List Char} (hd : ∀ c, cs.head? = some c → isBlank c = false)
    (tl : ∀ c, cs.getLast? = some c → isBlank c = false) : trim cs = cs := by
  unfold trim trimWhile
  rw [dropWhile_of_head hd, dropWhile_of_head, List.reverse_reverse]
  intro c hc
  exact tl c (by simpa using hc)

end Patronage.Text
