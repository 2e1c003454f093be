import Patronage.Text.Case.Table
/-!
# Case mapping

Full Unicode case mapping of text.  A character may become several (`ß` is written `SS`), and a
capital sigma is lowered to its final form where a word ends.  ASCII letters never consult a table.
-/

namespace Patronage.Text

namespace Case

/-- The form of a code point in a table of runs and expansions, itself if it is in neither. -/
def mapped (runs : List Run) (expansions : List (Nat × List Nat)) (c : Char) : List Char :=
  match expansions.lookup c.toNat with
  | some ns => ns.map Char.ofNat
  | none =>
    match runs.find? (·.covers c.toNat) with
    | some r => [Char.ofNat (c.toNat + r.shift).toNat]
    | none => [c]

/-- Whether a code point lies in one of the ranges. -/
def inRanges (ranges : List (Nat × Nat)) (n : Nat) : Bool :=
  ranges.any fun r => r.1 ≤ n && n ≤ r.2

/-- Whether the nearest character that is not passed over is cased. -/
def casedNext : List Char → Bool
  | [] => false
  | c :: cs =>
    if inRanges ignorableRanges c.toNat then casedNext cs else inRanges casedRanges c.toNat

/-- The upper case form of a character. -/
def upperChar (c : Char) : List Char :=
  if c.toNat < 0x80 then [c.toUpper] else mapped upperRuns upperExpansions c

/-- The lower case form of a character, a capital sigma taken to stand within a word. -/
def lowerChar (c : Char) : List Char :=
  if c.toNat < 0x80 then [c.toLower] else mapped lowerRuns lowerExpansions c

/-- Lowers text that follows `before`, which is given last character first. -/
def lowerAfter (before : List Char) : List Char → List Char
  | [] => []
  | c :: cs =>
    let form := if c == 'Σ' && casedNext before && !casedNext cs then ['ς'] else lowerChar c
    form ++ lowerAfter (c :: before) cs

end Case

/-- The upper case form of text. -/
def upper (cs : List Char) : List Char :=
  cs.flatMap Case.upperChar

/-- The lower case form of text. -/
def lower (cs : List Char) : List Char :=
  Case.lowerAfter [] cs

/-- The upper case form of a string. -/
def upperString (s : String) : String :=
  String.ofList (upper s.toList)

/-- The lower case form of a string. -/
def lowerString (s : String) : String :=
  String.ofList (lower s.toList)

@[simp] theorem upper_nil : upper [] = [] := rfl

theorem upper_append (s t : List Char) : upper (s ++ t) = upper s ++ upper t := by
  simp [upper]

end Patronage.Text
