import Patronage.Calendar.Text
import Patronage.Data.Value
import Patronage.Text.Decimal
import Patronage.Text.Numeral
import Patronage.Text.Split
import Patronage.Yaml.Cursor
/-!
# The values of scalars

How the text of a scalar denotes a truth value, a number, a point in time or bytes.  Underscores in
numbers do not count; numbers can be written in base sixty with colons between the digits.
-/

namespace Patronage.Yaml

open Text Calendar

/-- The words for truth values. -/
def truthWords : List (String × Bool) :=
  [("yes", true), ("no", false), ("true", true), ("false", false), ("on", true), ("off", false)]

/-- The truth value that a word in any case denotes. -/
def truthValue (cs : List Char) : Except Failure Bool :=
  (truthWords.lookup (String.ofList (lower cs))).elim (.error .unknownWord) .ok

/-- Some value, or the failure that there is none. -/
def orBad {α : Type} (x : Option α) : Except Failure α := x.elim (.error .badValue) .ok

/-- The number that digits in base sixty write. -/
def sexagesimal (cs : List Char) : Option Int := do
  let parts ← (splitAt ':' cs).mapM (readWhole? 10)
  return parts.foldl (fun n d => 60 * n + d) 0

/-- The number that text without sign and underscores writes: a zero in front means base eight. -/
def wholeSize (cs : List Char) : Except Failure Int :=
  match cs with
  | [] => .error .noNumber
  | ['0'] => .ok 0
  | '0' :: 'b' :: digits => orBad (readWhole? 2 digits)
  | '0' :: 'x' :: digits => orBad (readWhole? 16 digits)
  | '0' :: _ => orBad (readWhole? 8 cs)
  | _ => orBad (if cs.contains ':' then sexagesimal cs else readWhole? 10 cs)

/-- Text in two parts: whether it starts with a minus sign, and what follows a sign. -/
def signed (cs : List Char) : Except Failure (Bool × List Char) :=
  if cs.isEmpty then .error .noNumber else .ok (splitSign cs)

/-- The whole number that a scalar denotes. -/
def wholeValue (cs : List Char) : Except Failure Int := do
  let (negative, body) ← signed (cs.filter (· != '_'))
  let size ← wholeSize body
  return if negative then -size else size

/-- The sum of floating point digits in base sixty, the last one counting once.  Every power of sixty
that a digit is multiplied by must have a place in the format. -/
def sexagesimalReal (parts : List Binary64) : Except Failure Binary64 :=
  if !(Dyadic.nearest (.pow 60 (parts.length - 1)) 1).isFinite then .error .tooLarge
  else
    .ok (parts.reverse.foldl (fun (s : Binary64 × Nat) x => (s.1.add (x.mulNat s.2), 60 * s.2))
      (.ofRatio false 0 1, 1)).1

/-- The floating point value that text without sign and underscores writes. -/
def realSize (cs : List Char) : Except Failure Binary64 := do
  let word := String.ofList cs
  if word == ".inf" then return .infinite false
  else if word == ".nan" then return .nan
  else if cs.contains ':' then sexagesimalReal (← orBad ((splitAt ':' cs).mapM readReal?))
  else orBad (readReal? cs)

/-- The floating point value that a scalar denotes. -/
def realValue (cs : List Char) : Except Failure Binary64 := do
  let (negative, body) ← signed (lower (cs.filter (· != '_')))
  let size ← realSize body
  return if negative then size.neg else size

/-! ### Points in time -/

/-- A time of day with the distance from UTC, if one is given, in minutes. -/
structure WrittenTime where
  hour : Nat
  minute : Nat
  second : Nat
  micros : Nat
  offset : Option Int

/-- A point in time as it is written. -/
structure WrittenStamp where
  date : Date
  /-- Whether month and day have two digits each. -/
  padded : Bool
  time : Option WrittenTime

/-- Reads one or two digits; the flag tells two. -/
def oneOrTwo : List Char → Option (Nat × Bool × List Char)
  | a :: b :: cs =>
    if !isAsciiDigit a then none
    else if isAsciiDigit b then some (readAscii [a, b], true, cs)
    else some (readAscii [a], false, b :: cs)
  | [a] => if isAsciiDigit a then some (readAscii [a], false, []) else none
  | [] => none

/-- Reads the distance from UTC that ends the text. -/
def writtenOffset : List Char → Option (Option Int)
  | [] => some none
  | cs =>
    match cs.dropWhile (fun c => c == ' ' || c == '\t') with
    | ['Z'] => some (some 0)
    | sign :: cs => do
      if sign != '+' && sign != '-' then none
      let (hours, _, cs) ← oneOrTwo cs
      let minutes ←
        match cs with
        | [] => some 0
        | ':' :: cs =>
          match takePlaces 2 cs with
          | some (m, []) => some m
          | _ => none
        | _ => none
      let size : Int := 60 * hours + minutes
      return some (if sign == '-' then -size else size)
    | [] => none

/-- Reads a time of day that ends the text. -/
def writtenTime (cs : List Char) : Option WrittenTime := do
  let (hour, _, cs) ← oneOrTwo cs
  let cs ← takeChar ':' cs
  let (minute, cs) ← takePlaces 2 cs
  let cs ← takeChar ':' cs
  let (second, cs) ← takePlaces 2 cs
  let (micros, cs) := splitFraction cs
  return ⟨hour, minute, second, micros, ← writtenOffset cs⟩

/-- Skips what stands between a date and a time: a `T`, or blanks. -/
def dateBreak : List Char → Option (List Char)
  | 'T' :: cs | 't' :: cs => some cs
  | cs =>
    let rest := cs.dropWhile fun c => c == ' ' || c == '\t'
    if rest.length < cs.length then some rest else none

/-- Reads a date, and a time of day if there is more. -/
def writtenStamp (cs : List Char) : Option WrittenStamp := do
  let (year, cs) ← takePlaces 4 (dropFinalBreak cs)
  let cs ← takeChar '-' cs
  let (month, padded, cs) ← oneOrTwo cs
  let cs ← takeChar '-' cs
  let (day, padded', cs) ← oneOrTwo cs
  let time ← if cs.isEmpty then some none else (dateBreak cs >>= writtenTime).map some
  return ⟨⟨year, month, day⟩, padded && padded', time⟩

/-- The moment that a time of day on a date denotes. -/
def momentOf (date : Date) (t : WrittenTime) : Option Moment := do
  let offset ←
    match t.offset with
    | some minutes => (Offset.ofMinutes? minutes).map some
    | none => some none
  if t.hour < 24 && t.minute < 60 && t.second < 60 then
    Moment.ofDate date (((t.hour * 60 + t.minute) * 60 + t.second) * 1000000 + t.micros) offset
  else none

/-- The date or moment that a scalar denotes. -/
def stampValue (cs : List Char) : Except Failure Value :=
  match writtenStamp cs with
  | none => .error .noTime
  | some ⟨date, _, none⟩ => if date.isValid then .ok (.date date) else .error .badValue
  | some ⟨date, _, some t⟩ => orBad ((momentOf date t).map .moment)

/-! ### Bytes -/

/-- The value of a character of the base 64 alphabet. -/
def sextet? (c : Char) : Option Nat :=
  if 'A' ≤ c && c ≤ 'Z' then some (c.toNat - 0x41)
  else if 'a' ≤ c && c ≤ 'z' then some (c.toNat - 0x61 + 26)
  else if '0' ≤ c && c ≤ '9' then some (c.toNat - 0x30 + 52)
  else if c == '+' then some 62
  else if c == '/' then some 63
  else none

/-- The sextets of some text up to its padding, and how many of the last four are missing.  Other
characters do not count; padding ends the text where it fills up four. -/
def sextets : List Char → Nat → Nat → List Nat × Nat
  | [], filled, _ => ([], filled)
  | c :: cs, filled, pads =>
    if c == '=' then
      if 2 ≤ filled && 4 ≤ filled + pads + 1 then ([], 0)
      else sextets cs filled (if 2 ≤ filled then pads + 1 else pads)
    else
      match sextet? c with
      | some v =>
        let (vs, left) := sextets cs ((filled + 1) % 4) 0
        (v :: vs, left)
      | none => sextets cs filled pads

/-- The octets that sextets make up, an incomplete last one dropped. -/
def octets : List Nat → Bytes
  | a :: b :: c :: d :: rest =>
    .ofNat (4 * a + b / 16) :: .ofNat (b % 16 * 16 + c / 4) :: .ofNat (c % 4 * 64 + d) ::
      octets rest
  | [a, b, c] => [.ofNat (4 * a + b / 16), .ofNat (b % 16 * 16 + c / 4)]
  | [a, b] => [.ofNat (4 * a + b / 16)]
  | _ => []

/-- The bytes that a scalar denotes in base 64. -/
def bytesValue (cs : List Char) : Except Failure Bytes :=
  let (vs, left) := sextets cs 0 0
  if cs.any (0x80 ≤ ·.toNat) || left ≠ 0 then .error .malformed else .ok (octets vs)

end Patronage.Yaml
