import Patronage.Data.Value
import Patronage.Text.Decimal
/-!
# Issues of a document

What is wrong with a value, and where in its document the value stands.  `Checked` is the outcome of
a check: a value, or every issue found.  `Checked.both` keeps the issues of both of its parts.
-/

namespace Patronage

open Text

/-- One step from a value to a part of it. -/
inductive PathStep
  | name (s : String)
  | number (n : Int)
deriving DecidableEq, Repr

/-- Rules of the domain that a value of the right type can still break. -/
inductive Rejection
  /-- A duration of a badge is not a written period. -/
  | duration (text : String)
  /-- The billing period of the emulator is not a written period. -/
  | billingPeriod (text : String)
  /-- A level is negative. -/
  | negativeLevel (level : Int)
deriving DecidableEq, Repr

namespace Rejection

/-- What is reported. -/
def message : Rejection → String
  | .duration t => s!"Invalid duration: {t}"
  | .billingPeriod t => s!"Invalid billing period: {t}"
  | .negativeLevel n => "Subscription level must be non-negative, got: " ++ intString n

end Rejection

/-- What is wrong with a value. -/
inductive Flaw
  /-- A required field is not there. -/
  | missing
  /-- Text was wanted. -/
  | notText
  /-- Bytes stand where text was wanted and are not UTF-8. -/
  | notUnicode
  /-- A whole number was wanted. -/
  | notNumber
  /-- The text does not write a whole number. -/
  | notNumeral
  /-- The text writes a whole number of too many digits, or the number is too large to convert. -/
  | tooLarge
  /-- The number has a fraction. -/
  | fractional
  /-- The number is infinite or none at all. -/
  | notFinite
  /-- A mapping was wanted. -/
  | notMapping
  /-- A record, given as a mapping, was wanted. -/
  | notRecord
  /-- The value is none of the choices. -/
  | noSuchChoice
  /-- The number must be greater than its bound. -/
  | notAbove
  /-- The number must not be less than its bound. -/
  | below
  /-- A moment was wanted. -/
  | notMoment
  /-- The value has the right type and breaks a rule. -/
  | rejected (why : Rejection)
deriving DecidableEq, Repr

/-- A flaw with the path from the document's root to the value that has it. -/
structure Issue where
  path : List PathStep
  flaw : Flaw
deriving DecidableEq, Repr

/-- The outcome of a check: a value, or every issue found. -/
abbrev Checked (α : Type) := Except (List Issue) α

namespace Checked

variable {α β : Type}

/-- A check that finds one flaw in the value itself. -/
def flawed (f : Flaw) : Checked α := .error [⟨[], f⟩]

/-- The issues found. -/
def issues : Checked α → List Issue
  | .ok _ => []
  | .error es => es

/-- Both outcomes, with the issues of both. -/
def both (x : Checked α) (y : Checked β) : Checked (α × β) :=
  match x, y with
  | .ok a, .ok b => .ok (a, b)
  | x, y => .error (x.issues ++ y.issues)

/-- All outcomes, with the issues of all. -/
def all : List (Checked α) → Checked (List α)
  | [] => .ok []
  | x :: xs => (both x (all xs)).map fun p => p.1 :: p.2

/-- Places the issues of a part below a step. -/
def under (step : PathStep) (x : Checked α) : Checked α :=
  x.mapError (·.map fun i => { i with path := step :: i.path })

@[simp] theorem issues_both (x : Checked α) (y : Checked β) :
    (both x y).issues = x.issues ++ y.issues := by
  cases x <;> cases y <;> rfl

theorem both_eq_ok {x : Checked α} {y : Checked β} {p : α × β} :
    both x y = .ok p ↔ x = .ok p.1 ∧ y = .ok p.2 := by
  obtain ⟨a, b⟩ := p
  cases x <;> cases y <;> simp [both]

end Checked

end Patronage
