import Patronage.Number.Binary64
import Patronage.Text.Decimal
/-!
# The shortest decimal text of a floating point value

The text of a value has the fewest decimal digits that still round to it, and of several such
decimals the one nearest to it.  `shortestDigits` finds the digits in exact arithmetic: for one
digit, two digits and so on it tries the two neighbours of the value on that decimal grid.
`NumberFormat` says how digits and scale are laid out.
-/

namespace Patronage

open Text

/-- Digits of a positive number `0.d₁d₂… * 10 ^ scale`. -/
structure DecimalDigits where
  digits : List Char
  scale : Int

namespace Dyadic

/-- The least `k` with `a / b < 10 ^ k`, looked for upwards from `k` for `fuel` steps. -/
def decimalScale (a b : Nat) : Nat → Int → Int
  | 0, k => k
  | fuel + 1, k =>
    if a * .pow 10 (-k).toNat < b * .pow 10 k.toNat then k else decimalScale a b fuel (k + 1)

/-- Whether `c * 10 ^ p` rounds to the number, whose last kept digit is worth `2 ^ exponent`. -/
def roundsTo (x : Dyadic) (c : Nat) (p : Int) : Bool :=
  let y := nearest (c * .pow 10 p.toNat) (.pow 10 (-p).toNat)
  y.num * x.den == x.num * y.den

/-- The candidates with `n` digits, nearest first. -/
def candidates (x : Dyadic) (scale : Int) (n : Nat) : List Nat :=
  let p := scale - n
  let a := x.num * .pow 10 (-p).toNat
  let b := x.den * .pow 10 p.toNat
  let low := a / b
  let r := a % b
  if 2 * r < b || (2 * r == b && low % 2 == 0) then [low, low + 1] else [low + 1, low]

/-- Tries grids of `n` digits and more. -/
def searchDigits (x : Dyadic) (scale : Int) : Nat → Nat → Nat × Nat
  | 0, n => (((candidates x scale n).head?).getD 0, n)
  | fuel + 1, n =>
    match (candidates x scale n).find? fun c => x.roundsTo c (scale - n) with
    | some c => (c, n)
    | none => searchDigits x scale fuel (n + 1)

/-- The fewest digits that round to a positive number. -/
def shortestDigits (x : Dyadic) : DecimalDigits :=
  let scale := decimalScale x.num x.den 700 (-330)
  let (c, n) := searchDigits x scale 16 1
  let all := decimal c
  let kept := (all.reverse.dropWhile (· == '0')).reverse
  ⟨kept, scale + all.length - n⟩

end Dyadic

/-- How a floating point value is laid out as text. -/
structure NumberFormat where
  /-- Scales above this one are written with an exponent. -/
  largestScale : Int
  /-- Scales up to this one are written with an exponent. -/
  smallestScale : Int
  /-- The least number of digits of an exponent. -/
  exponentWidth : Nat
  infinity : String
  notANumber : String

namespace NumberFormat

/-- The layout of the digits of a positive number. -/
def layOut (f : NumberFormat) (d : DecimalDigits) : List Char :=
  let n := d.digits.length
  if d.scale ≤ f.smallestScale || f.largestScale < d.scale then
    let e := d.scale - 1
    let fraction := d.digits.drop 1
    d.digits.take 1 ++ (if fraction.isEmpty then [] else '.' :: fraction) ++
      'e' :: (if e < 0 then '-' else '+') :: padded f.exponentWidth e.natAbs
  else if d.scale ≤ 0 then
    '0' :: '.' :: List.replicate (-d.scale).toNat '0' ++ d.digits
  else if n ≤ d.scale.toNat then
    d.digits ++ List.replicate (d.scale.toNat - n) '0' ++ ['.', '0']
  else d.digits.take d.scale.toNat ++ '.' :: d.digits.drop d.scale.toNat

/-- The text of a floating point value. -/
def write (f : NumberFormat) : Binary64 → String
  | .nan => f.notANumber
  | .infinite negative => (if negative then "-" else "") ++ f.infinity
  | .finite negative x =>
    let size := if x.mantissa = 0 then ['0', '.', '0'] else f.layOut x.shortestDigits
    String.ofList (if negative then '-' :: size else size)

/-- Values from 10⁻⁴ up to 10¹⁶ are written positionally, with at least one place after the point,
all others with an exponent of two digits or more. -/
def plain : NumberFormat where
  largestScale := 16
  smallestScale := -4
  exponentWidth := 2
  infinity := "inf"
  notANumber := "nan"

end NumberFormat

end Patronage
