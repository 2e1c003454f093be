import Patronage.Calendar.Moment
import Patronage.Text.Decimal
/-!
# Moments in text

The written form of a moment: `2024-03-01T12:00:00.250000+05:30`.  The fraction has six places and
is left out when it is zero; a clock without a known offset has none written, and an offset of whole
minutes is written without seconds.  `Moment.ofText?` reads the form back, and also fractions of
other lengths and `Z` for UTC.
-/

namespace Patronage

open Calendar Text

namespace Calendar

/-- The written form of a fraction of a second in microseconds. -/
def fractionChars (fraction : Nat) : List Char :=
  if fraction = 0 then [] else '.' :: padded 6 fraction

/-- The written form of what an offset has beyond whole minutes, in microseconds. -/
def offsetRestChars (micros : Nat) : List Char :=
  if micros = 0 then []
  else ':' :: padded 2 (micros / 1000000) ++ fractionChars (micros % 1000000)

/-- The written form of an offset: sign, hours and minutes, and what there is beyond them. -/
def Offset.toChars (o : Offset) : List Char :=
  let n := o.micros.natAbs
  let minutes := n / 60000000
  (if o.micros < 0 then '-' else '+') :: padded 2 (minutes / 60) ++ ':' :: padded 2 (minutes % 60)
    ++ offsetRestChars (n % 60000000)

/-- The written form of a date. -/
def Date.toChars (d : Date) : List Char :=
  padded 4 d.year ++ '-' :: padded 2 d.month ++ '-' :: padded 2 d.day

/-- The written form of a count of microseconds since midnight. -/
def timeOfDayChars (micros : Nat) : List Char :=
  let seconds := micros / 1000000
  padded 2 (seconds / 3600) ++ ':' :: padded 2 (seconds / 60 % 60) ++ ':' :: padded 2 (seconds % 60)
    ++ fractionChars (micros % 1000000)

/-- Reads the six places of a fraction of a second, however many are written. -/
def readFraction (digits : List Char) : Nat :=
  readAscii ((digits ++ List.replicate 6 '0').take 6)

/-- The fraction of a second that leads some text, if any, and what follows it. -/
def splitFraction : List Char → Nat × List Char
  | '.' :: ds => (readFraction (ds.takeWhile isAsciiDigit), ds.dropWhile isAsciiDigit)
  | cs => (0, cs)

/-- Reads what an offset has beyond whole minutes, which fills the rest of some text. -/
def readOffsetRest? : List Char → Option Nat
  | [] => some 0
  | cs => do
    let cs ← takeChar ':' cs
    let (seconds, cs) ← takePlaces 2 cs
    let (fraction, cs) := splitFraction cs
    if cs.isEmpty then some (seconds * 1000000 + fraction) else none

/-- Reads an offset that fills the rest of some text; empty text is no offset. -/
def readOffset? : List Char → Option (Option Offset)
  | [] => some none
  | ['Z'] => some (some .utc)
  | sign :: cs => do
    let (hours, cs) ← takePlaces 2 cs
    let cs ← takeChar ':' cs
    let (minutes, cs) ← takePlaces 2 cs
    let rest ← readOffsetRest? cs
    let size : Int := (60 * hours + minutes) * microsPerMinute + rest
    let signed ← if sign = '+' then some size else if sign = '-' then some (-size) else none
    if h : -microsPerDay < signed ∧ signed < microsPerDay then some (some ⟨signed, h⟩) else none

end Calendar

namespace Moment

/-- The days from 0001-01-01 to the moment's day. -/
def ordinal (m : Moment) : Nat :=
  (m.wall / microsPerDay + epochOrdinal).toNat

/-- The microseconds from midnight to the moment. -/
def microsOfDay (m : Moment) : Nat :=
  (m.wall % microsPerDay).toNat

/-- The written form of a moment. -/
def toText (m : Moment) : String :=
  String.ofList <| (Date.ofOrdinal m.ordinal).toChars ++ 'T' :: timeOfDayChars m.microsOfDay ++
    (m.offset.map Offset.toChars).getD []

/-- The moment at a time of day on a date. -/
def ofDate (date : Date) (micros : Nat) (offset : Option Offset) : Option Moment :=
  if date.isValid then
    (ofWall ((date.ordinal - epochOrdinal : Int) * microsPerDay + micros) offset).toOption
  else none

/-- Reads the written form of a moment. -/
def ofText? (s : String) : Option Moment := do
  let (year, cs) ← takePlaces 4 s.toList
  let cs ← takeChar '-' cs
  let (month, cs) ← takePlaces 2 cs
  let cs ← takeChar '-' cs
  let (day, cs) ← takePlaces 2 cs
  let cs ← takeChar 'T' cs
  let (hour, cs) ← takePlaces 2 cs
  let cs ← takeChar ':' cs
  let (minute, cs) ← takePlaces 2 cs
  let cs ← takeChar ':' cs
  let (second, cs) ← takePlaces 2 cs
  let (fraction, cs) := splitFraction cs
  let offset ← readOffset? cs
  if hour < 24 && minute < 60 && second < 60 then
    ofDate ⟨year, month, day⟩ (((hour * 60 + minute) * 60 + second) * 1000000 + fraction) offset
  else none

end Moment

end Patronage
