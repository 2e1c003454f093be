import Patronage.Number.Binary64
import Patronage.Text.Blank
import Patronage.Text.Case
import Patronage.Text.Digit
/-!
# Numerals

Reading whole numbers in any base up to 36 and floating point values in base ten.  Blanks around a
numeral do not count and decimal digits may be of any script.
-/

namespace Patronage.Text

/-- Splits a sign off the front of some text; the flag tells a minus sign. -/
def splitSign : List Char → Bool × List Char
  | '-' :: cs => (true, cs)
  | '+' :: cs => (false, cs)
  | cs => (false, cs)

/-- The value of an ASCII letter as a digit. -/
def letterValue? (c : Char) : Option Nat :=
  if 'a' ≤ c && c ≤ 'z' then some (c.toNat - 0x57)
  else if 'A' ≤ c && c ≤ 'Z' then some (c.toNat - 0x37)
  else none

/-- The value of a digit in a base. -/
def digitIn? (base : Nat) (c : Char) : Option Nat :=
  ((digitValue? c).or (letterValue? c)).filter (· < base)

/-- The letters that mark a base after a zero. -/
def baseMarks (base : Nat) : List Char :=
  if base = 2 then ['b', 'B'] else if base = 8 then ['o', 'O'] else if base = 16 then ['x', 'X']
  else []

/-- Text without the mark of a base at its front. -/
def dropBaseMark (base : Nat) (cs : List Char) : List Char :=
  match cs with
  | '0' :: c :: rest => if (baseMarks base).contains c then rest else cs
  | _ => cs

/-- The whole number that text writes in a base.  In base ten there is a bound on its digits. -/
def readWhole? (base : Nat) (cs : List Char) : Option Int := do
  let (negative, body) := splitSign (trim cs)
  let digits ← (dropBaseMark base body).mapM (digitIn? base)
  if digits.isEmpty || (base == 10 && countLimit < digits.length) then none
  let n := digits.foldl (fun n d => base * n + d) 0
  return if negative then -(n : Int) else n

/-- The exponent that the rest of a numeral writes, zero if there is no rest. -/
def readExponent? : List Char → Option Int
  | [] => some 0
  | c :: cs =>
    if c == 'e' || c == 'E' then
      let (negative, digits) := splitSign cs
      if digits.isEmpty || !digits.all isDigit then none
      else some (if negative then -(readDigits digits : Int) else readDigits digits)
    else none

/-- The floating point value that digits write, with a point among them and an exponent. -/
def readDecimal? (negative : Bool) (cs : List Char) : Option Binary64 := do
  let whole := cs.takeWhile isDigit
  let rest := cs.dropWhile isDigit
  let (fraction, rest) :=
    match rest with
    | '.' :: rest => (rest.takeWhile isDigit, rest.dropWhile isDigit)
    | rest => ([], rest)
  if whole.isEmpty && fraction.isEmpty then none
  let exponent ← readExponent? rest
  return .ofDecimal negative (readDigits (whole ++ fraction)) (exponent - fraction.length)

/-- The floating point value that text writes. -/
def readReal? (cs : List Char) : Option Binary64 :=
  let (negative, body) := splitSign (trim cs)
  let word := String.ofList (lower body)
  if word == "inf" || word == "infinity" then some (.infinite negative)
  else if word == "nan" then some .nan
  else readDecimal? negative body

end Patronage.Text
