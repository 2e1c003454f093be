import Patronage.Schema.Key
import Patronage.Text.Blank
import Patronage.Text.Decimal
import Patronage.Text.Digit
import Patronage.Text.Numeral
import Patronage.Text.Utf8
/-!
# Checks of single values and of fields

What counts as a whole number, as text or as one of several choices, and how the fields of a mapping
are checked.  A whole number may be given as a truth value, as a floating point value without a
fraction, or as text: a sign, digits with single underscores between them and a fraction of zeros.
Fields that no check asks for are ignored.
-/

namespace Patronage

open Text

namespace Schema

/-- The digits of a group of ASCII digits with single underscores between them. -/
def ungroup : List Char → Option (List Char)
  | [] => none
  | [c] => if isAsciiDigit c then some [c] else none
  | c :: '_' :: cs => if isAsciiDigit c then (ungroup cs).map (c :: ·) else none
  | c :: cs => if isAsciiDigit c then (ungroup cs).map (c :: ·) else none

/-- Whether text is empty or a point and at least one zero. -/
def isZeroFraction : List Char → Bool
  | [] => true
  | '.' :: cs => !cs.isEmpty && cs.all (· == '0')
  | _ => false

/-- The whole number that text writes, blanks around it not counting. -/
def numeral (cs : List Char) : Checked Int :=
  let (negative, body) := splitSign (trimWhile isSpace cs)
  if isZeroFraction (body.dropWhile (· != '.')) then
    match ungroup (body.takeWhile (· != '.')) with
    | some digits =>
      if countLimit < digits.length then Checked.flawed .tooLarge
      else .ok (if negative then -(readAscii digits : Int) else readAscii digits)
    | none => Checked.flawed .notNumeral
  else Checked.flawed .notNumeral

/-- The whole number that a floating point value equals; only sizes below `2 ^ 63` are converted. -/
def wholeReal (x : Binary64) : Checked Int :=
  match x with
  | .finite _ _ =>
    match x.whole? with
    | some n => if n.natAbs < 0x8000000000000000 then .ok n else Checked.flawed .tooLarge
    | none => Checked.flawed .fractional
  | _ => Checked.flawed .notFinite

/-- A value as a whole number. -/
def whole : Value → Checked Int
  | .int n => .ok n
  | .bool b => .ok (if b then 1 else 0)
  | .real x => wholeReal x
  | .text s => numeral s.toList
  | .brokenText => Checked.flawed .notNumeral
  | .bytes b =>
    match decodeUtf8 b with
    | some cs => numeral cs
    | none => Checked.flawed .notNumeral
  | _ => Checked.flawed .notNumber

/-- A value as a whole number greater than a bound. -/
def wholeAbove (bound : Int) (v : Value) : Checked { n : Int // bound < n } := do
  let n ← whole v
  if h : bound < n then return ⟨n, h⟩ else Checked.flawed .notAbove

/-- A value as a whole number not less than a bound. -/
def wholeFrom (bound : Int) (v : Value) : Checked { n : Int // bound ≤ n } := do
  let n ← whole v
  if h : bound ≤ n then return ⟨n, h⟩ else Checked.flawed .below

/-- A value as text. -/
def text : Value → Checked String
  | .text s => .ok s
  | .brokenText => Checked.flawed .notUnicode
  | .bytes b =>
    match decodeUtf8 b with
    | some cs => .ok (String.ofList cs)
    | none => Checked.flawed .notUnicode
  | _ => Checked.flawed .notText

/-- A value as a moment. -/
def moment : Value → Checked Moment
  | .moment m => .ok m
  | _ => Checked.flawed .notMoment

/-- A value as one of several choices, looked up by `find`; any issue of the value itself is that it
is no choice. -/
def choice {α β : Type} (check : Value → Checked α) (find : α → Option β) (v : Value) :
    Checked β :=
  match check v with
  | .ok a => (find a).elim (Checked.flawed .noSuchChoice) .ok
  | .error _ => Checked.flawed .noSuchChoice

/-- The entries of a value that is a mapping. -/
def entries (f : Flaw) : Value → Checked (List (Value × Value))
  | .map es => .ok es
  | _ => Checked.flawed f

variable {α : Type}

/-- Checks a field that must be there. -/
def required (fields : List (Value × Value)) (name : String) (check : Value → Checked α) :
    Checked α :=
  Checked.under (.name name) <|
    match Value.field? fields name with
    | some v => check v
    | none => Checked.flawed .missing

/-- Checks a field that has a value if it is not there. -/
def optional (fields : List (Value × Value)) (name : String) (fallback : α)
    (check : Value → Checked α) : Checked α :=
  match Value.field? fields name with
  | some v => Checked.under (.name name) (check v)
  | none => .ok fallback

/-! ### Mappings -/

/-- The step that marks a key itself rather than the value under it. -/
def keyMark : PathStep := .name "[key]"

/-- Checks every entry of a mapping, keys and values. -/
def eachEntry {κ β : Type} (key : Value → Checked κ) (value : Value → Checked β)
    (es : List (Value × Value)) : Checked (List (κ × β)) :=
  Checked.all <| es.map fun e =>
    Checked.under (keyStep e.1) (Checked.both (Checked.under keyMark (key e.1)) (value e.2))

end Schema

end Patronage
