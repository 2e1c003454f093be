/-!
# Numbers in decimal text

`decimal` writes a number in base ten, `padded` in at least a given number of places, and
`takePlaces` reads exactly a given number of ASCII digits off the front of some text.
-/

namespace Patronage.Text

/-- The ASCII digits of a number in base ten. -/
def decimal (n : Nat) : List Char :=
  Nat.toDigits 10 n

/-- An integer in base ten, a minus sign before a negative one. -/
def decimalInt (n : Int) : List Char :=
  if n < 0 then '-' :: decimal n.natAbs else decimal n.natAbs

/-- An integer in base ten, as a string.  It is assumed that no number of more than `countLimit`
digits is ever put into a message: an interpreter that does not read such a number does not write it
either, and what a refusal to write a message would do to an operation is not modelled. -/
def intString (n : Int) : String :=
  String.ofList (decimalInt n)

/-- A number in base ten, filled with zeros on the left to a width. -/
def padded (width n : Nat) : List Char :=
  let digits := decimal n
  List.replicate (width - digits.length) '0' ++ digits

/-- Whether a character is an ASCII digit. -/
def isAsciiDigit (c : Char) : Bool :=
  '0' ≤ c && c ≤ '9'

/-- The number that a run of ASCII digits writes in base ten. -/
def readAscii (cs : List Char) : Nat :=
  cs.foldl (fun n c => 10 * n + (c.toNat - 48)) 0

/-- Reads exactly `k` ASCII digits off the front of some text. -/
def takePlaces (k : Nat) (cs : List Char) : Option (Nat × List Char) :=
  let digits := cs.take k
  if digits.length == k && digits.all isAsciiDigit then some (readAscii digits, cs.drop k) else none

/-- Drops one expected character off the front of some text. -/
def takeChar (c : Char) : List Char → Option (List Char)
  | [] => none
  | d :: ds => if d = c then some ds else none

end Patronage.Text
