/-!
# Text split at a character

`splitAt` cuts text at every occurrence of a character.  Main statement: `intercalate_splitAt` —
putting the character back between the parts gives the text again.
-/

namespace Patronage.Text

/-- Text split at a character. -/
def splitAt (sep : Char) : List Char → List (List Char)
  | [] => [[]]
  | c :: cs =>
    if c == sep then [] :: splitAt sep cs
    else
      match splitAt sep cs with
      | [] => [[c]]
      | part :: parts => (c :: part) :: parts

theorem splitAt_ne_nil (sep : Char) (cs : List Char) : splitAt sep cs ≠ [] := by
  cases cs with
  | nil => simp [splitAt]
  | cons c cs =>
    unfold splitAt
    split
    · simp
    · split <;> simp

/-- Putting the character back between the parts gives the text again. -/
theorem intercalate_splitAt (sep : Char) (cs : List Char) :
    List.intercalate [sep] (splitAt sep cs) = cs := by
  induction cs with
  | nil => rfl
  | cons c cs ih =>
    cases hs : splitAt sep cs with
    | nil => exact absurd hs (splitAt_ne_nil sep cs)
    | cons part parts =>
      rw [hs] at ih
      by_cases h : c = sep
      · subst h
        simp only [splitAt, beq_self_eq_true, if_true, hs]
        rw [← ih]
        simp [List.intercalate, List.intersperse]
      · have h' : (c == sep) = false := by simpa using h
        simp only [splitAt, h', hs]
        rw [← ih]
        cases parts <;> simp [List.intercalate, List.intersperse]

end Patronage.Text
