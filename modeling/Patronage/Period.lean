import Patronage.Calendar.Zone
import Patronage.Data.Value
import Patronage.Number.Binary64
import Patronage.Text.Blank
import Patronage.Text.Case
import Patronage.Text.Digit
/-!
# Billing periods

A period is written `P`, an optional whole number and one of the units `D`, `W`, `M`, `Y`, in either
case and with blanks around it.  A month counts thirty days and a year 365.  `Period.parse` reads
the text, `Period.millis` is the length, and `cyclesElapsed` counts how many periods have started
since a given time.  Main statements:

* `Period.day_le_millis` — a period is at least a day long;
* `Period.parse_congr` — case and surrounding blanks do not matter.
-/

namespace Patronage

open Calendar Text

/-- The unit that a period counts. -/
inductive PeriodUnit
  | day | week | month | year
deriving DecidableEq, Repr

namespace PeriodUnit

/-- The days that a unit stands for. -/
def days : PeriodUnit → Nat
  | .day => 1
  | .week => 7
  | .month => 30
  | .year => 365

/-- The unit with a given letter. -/
def ofLetter? : Char → Option PeriodUnit
  | 'D' => some .day
  | 'W' => some .week
  | 'M' => some .month
  | 'Y' => some .year
  | _ => none

theorem days_pos (u : PeriodUnit) : 0 < u.days := by
  cases u <;> decide

end PeriodUnit

/-- A positive number of units. -/
structure Period where
  count : Nat
  unit : PeriodUnit
  count_pos : 0 < count
deriving DecidableEq

/-- Why text is no period. -/
inductive PeriodError
  /-- There is no text, or the value is not text at all. -/
  | empty
  /-- The text, in capitals, does not start with `P`. -/
  | unmarked (text : String)
  /-- The text, in capitals, ends after `P`. -/
  | bare (text : String)
  /-- What follows `P` is not a number and a unit. -/
  | unsupported (text : String)
  /-- The number is not positive. -/
  | notPositive (count : Nat)
  /-- The number has more digits than are read. -/
  | tooManyDigits
deriving DecidableEq, Repr

namespace PeriodError

/-- What is reported; a number with too many digits is reported without text. -/
def message? : PeriodError → Option String
  | .empty => some "Period must be a non-empty string"
  | .unmarked t => some s!"Invalid period format: '{t}'. Must start with 'P'"
  | .bare t => some s!"Invalid period format: '{t}'. No duration specified"
  | .unsupported t =>
    some s!"Unsupported period format: '{t}'. Supported formats: P[n]D, P[n]W, P[n]M, P[n]Y"
  | .notPositive n => some s!"Period number must be positive, got: {n}"
  | .tooManyDigits => none

end PeriodError

namespace Period

/-- Milliseconds in a day. -/
def dayMillis : Nat := 86400000

/-- The length of a period in milliseconds. -/
def millis (p : Period) : Nat := p.count * (p.unit.days * dayMillis)

/-- The length of a period in microseconds, if it is short enough to be a span. -/
def span (p : Period) : Except TimeError Int :=
  let micros : Int := p.millis * 1000
  if spanFits micros then .ok micros else .error .outOfRange

/-- The number that a run of digits writes, one if there are none. -/
def readCount (digits : List Char) : Except PeriodError { n : Nat // 0 < n } :=
  if digits.isEmpty then .ok ⟨1, by decide⟩
  else if countLimit < digits.length then .error .tooManyDigits
  else if h : 0 < readDigits digits then .ok ⟨readDigits digits, h⟩
  else .error (.notPositive (readDigits digits))

/-- Reads capital letters without blanks around them. -/
def parseCapitals (cs : List Char) : Except PeriodError Period :=
  match cs with
  | 'P' :: [] => .error (.bare (String.ofList cs))
  | 'P' :: rest =>
    match rest.dropWhile isDigit with
    | [letter] =>
      match PeriodUnit.ofLetter? letter with
      | some unit =>
        (readCount (rest.takeWhile isDigit)).map fun n => ⟨n.val, unit, n.property⟩
      | none => .error (.unsupported (String.ofList cs))
    | _ => .error (.unsupported (String.ofList cs))
  | _ => .error (.unmarked (String.ofList cs))

/-- Reads a written period. -/
def parse (s : String) : Except PeriodError Period :=
  if s.isEmpty then .error .empty else parseCapitals (upper (trim s.toList))

/-- Reads a value as a written period; only text can be one. -/
def ofValue : Value → Except PeriodError Period
  | .text s => parse s
  | _ => .error .empty

/-- Whether a value is a written period. -/
def isWritten (v : Value) : Bool :=
  (ofValue v).isOk

/-- Case and surrounding blanks do not matter. -/
theorem parse_congr {s t : String} (hs : s.isEmpty = false) (ht : t.isEmpty = false)
    (h : upper (trim s.toList) = upper (trim t.toList)) : parse s = parse t := by
  simp [parse, hs, ht, h]

theorem dayMillis_dvd_millis (p : Period) : dayMillis ∣ p.millis :=
  ⟨p.count * p.unit.days, by rw [millis, ← Nat.mul_assoc, Nat.mul_comm]⟩

/-- A period is at least a day long. -/
theorem day_le_millis (p : Period) : dayMillis ≤ p.millis := by
  have h := Nat.mul_le_mul p.count_pos (Nat.mul_le_mul_right dayMillis p.unit.days_pos)
  simpa [millis] using h

end Period

/-- A period together with the text it was written as. -/
structure WrittenPeriod where
  text : String
  period : Period
  parses : Period.parse text = .ok period

namespace WrittenPeriod

/-- The written period of some text. -/
def ofText? (s : String) : Option WrittenPeriod :=
  match h : Period.parse s with
  | .ok p => some ⟨s, p, h⟩
  | .error _ => none

instance : DecidableEq WrittenPeriod := fun a b =>
  if h : a.text = b.text then
    isTrue <| by
      obtain ⟨t, p, hp⟩ := a
      obtain ⟨u, q, hq⟩ := b
      simp only at h
      subst h
      rw [hp] at hq
      cases hq
      rfl
  else isFalse fun e => h (by rw [e])

end WrittenPeriod

/-- Why a count of billing cycles has no answer. -/
inductive CycleError
  /-- The count would run backwards. -/
  | reversed
  | period (e : PeriodError)
  | time (e : TimeError)
deriving DecidableEq, Repr

/-- Milliseconds in a distance of time: seconds rounded to 53 binary digits, times a thousand
rounded again, the fraction dropped. -/
def roundedMillis (micros : Nat) : Nat :=
  ((Dyadic.nearest micros 1000000).times 1000).floor

/-- Whole seconds in a signed distance of time: seconds rounded to 53 binary digits, the fraction
dropped. -/
def roundedSeconds (micros : Int) : Int :=
  let seconds : Int := (Dyadic.nearest micros.natAbs 1000000).floor
  if micros < 0 then -seconds else seconds

namespace Period

/-- The number of the cycle running a distance of time after the first one started. -/
def cycleAfter (p : Period) (micros : Nat) : Nat :=
  roundedMillis micros / p.millis + 1

/-- The number of the cycle running at `now` if the first one started at `start`. -/
def cycleBetween (p : Period) (start now : ZonedTime) : Except CycleError Nat :=
  match now.since start with
  | .error e => .error (.time e)
  | .ok d => if d < 0 then .error .reversed else .ok (p.cycleAfter d.toNat)

/-- The number of the cycle running at `now` on clocks that are never set. -/
def cyclesElapsed (p : Period) (start now : Moment) : Except CycleError Nat :=
  p.cycleBetween start.zoned now.zoned

theorem cyclesElapsed_eq (p : Period) (start now : Moment) : p.cyclesElapsed start now =
    match now.since start with
    | .error e => .error (.time e)
    | .ok d => if d < 0 then .error .reversed else .ok (p.cycleAfter d.toNat) := by
  rw [cyclesElapsed, cycleBetween, Moment.since_zoned]

/-- When a cycle starts if the first one, which has the number one, started at `start`. -/
def startOfCycle (p : Period) (start : ZonedTime) (cycle : Nat) : Except TimeError ZonedTime := do
  let span ← p.span
  start.add (((cycle : Int) - 1) * span)

end Period

/-- The number of the cycle of a written period running at `now` if the first one started at
`start`.  The order of the times is looked at before the period. -/
def cycleBetween (start now : ZonedTime) (period : Value) : Except CycleError Nat :=
  match now.since start with
  | .error e => .error (.time e)
  | .ok d =>
    if d < 0 then .error .reversed
    else
      match Period.ofValue period with
      | .error e => .error (.period e)
      | .ok p => .ok (p.cycleAfter d.toNat)

/-- The number of the cycle of a written period running at `now` on clocks that are never set. -/
def cyclesElapsed (start now : Moment) (period : Value) : Except CycleError Nat :=
  cycleBetween start.zoned now.zoned period

/-- Whole seconds from 1970 to a moment, a clock without an offset taken to show UTC. -/
def Moment.epochSeconds (m : Moment) : Except TimeError Int :=
  if m.hasUtc then .ok (roundedSeconds m.utcMicros) else .error .noSuchYear

end Patronage
