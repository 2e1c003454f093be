/-!
# Dates

The proleptic Gregorian calendar.  A date is a year, a month and a day; `Date.ordinal` counts the
days from 0001-01-01 to a date and `Date.ofOrdinal` is its inverse on the years from 1 on.
-/

namespace Patronage.Calendar

/-- Whether a year has a 29th of February. -/
def isLeap (year : Nat) : Bool :=
  year % 4 == 0 && (year % 100 != 0 || year % 400 == 0)

/-- The lengths of the months of a year. -/
def monthLengths (leap : Bool) : List Nat :=
  [31, if leap then 29 else 28, 31, 30, 31, 30, 31, 31, 30, 31, 30, 31]

/-- The days from 0001-01-01 to the first day of a year. -/
def daysBeforeYear (year : Nat) : Nat :=
  let past := year - 1
  365 * past + past / 4 - past / 100 + past / 400

/-- A calendar date. -/
structure Date where
  year : Nat
  month : Nat
  day : Nat
deriving DecidableEq, Repr

namespace Date

/-- Whether the date exists, in a year from 1 to 9999. -/
def isValid (d : Date) : Bool :=
  1 ≤ d.year && d.year ≤ 9999 && 1 ≤ d.month && d.month ≤ 12 && 1 ≤ d.day &&
    d.day ≤ ((monthLengths (isLeap d.year))[d.month - 1]?).getD 0

/-- The days from 0001-01-01 to the date. -/
def ordinal (d : Date) : Nat :=
  let months := (monthLengths (isLeap d.year)).take (d.month - 1)
  daysBeforeYear d.year + months.foldr (· + ·) 0 + (d.day - 1)

/-- Splits a count of days within a year into months passed and days left. -/
def splitMonths : List Nat → Nat → Nat × Nat
  | [], n => (0, n)
  | l :: ls, n =>
    if n < l then (0, n) else ((splitMonths ls (n - l)).1 + 1, (splitMonths ls (n - l)).2)

/-- The year that holds the day a count of days after 0001-01-01. -/
def yearOfOrdinal (n : Nat) : Nat :=
  let guess := n * 400 / 146097 + 1
  if n < daysBeforeYear guess then guess - 1
  else if daysBeforeYear (guess + 1) ≤ n then guess + 1
  else guess

/-- The date a count of days after 0001-01-01. -/
def ofOrdinal (n : Nat) : Date :=
  let year := yearOfOrdinal n
  let (month, day) := splitMonths (monthLengths (isLeap year)) (n - daysBeforeYear year)
  ⟨year, month + 1, day + 1⟩

end Date

/-- The days from 0001-01-01 to 1970-01-01. -/
def epochOrdinal : Nat := 719162

theorem ordinal_epoch : Date.ordinal ⟨1970, 1, 1⟩ = epochOrdinal := by decide

example : Date.ofOrdinal epochOrdinal = ⟨1970, 1, 1⟩ := by decide

example : Date.ofOrdinal (Date.ordinal ⟨2024, 2, 29⟩) = ⟨2024, 2, 29⟩ := by decide

example : Date.ofOrdinal (Date.ordinal ⟨9999, 12, 31⟩) = ⟨9999, 12, 31⟩ := by decide

end Patronage.Calendar
