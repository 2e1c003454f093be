import Patronage.Yaml.Scalar
/-!
# Tags

A tag says what kind of value a node denotes.  A plain scalar without a tag gets one by its form,
tried in a fixed order: truth values, floating point values, whole numbers, the merge key, null,
points in time and the value key; anything else is text.
-/

namespace Patronage.Yaml

open Text

/-- What kind of value a node denotes. -/
inductive Tag
  | null | bool | int | real | bytes | stamp | text
  | list | map | set
  /-- A list of single pairs whose order counts. -/
  | ordered
  /-- A list of single pairs. -/
  | pairs
  /-- The key whose value is merged into its mapping. -/
  | merge
  /-- The key whose value stands for its mapping. -/
  | value
  | unknown
deriving DecidableEq, Repr

namespace Tag

/-- What the names of known tags start with. -/
def family : List Char := "tag:yaml.org,2002:".toList

/-- The known tags by the rest of their names. -/
def known : List (String × Tag) :=
  [("null", .null), ("bool", .bool), ("int", .int), ("float", .real), ("binary", .bytes),
    ("timestamp", .stamp), ("str", .text), ("seq", .list), ("map", .map), ("set", .set),
    ("omap", .ordered), ("pairs", .pairs), ("merge", .merge), ("value", .value)]

/-- The tag with a name. -/
def ofName (cs : List Char) : Tag :=
  if family.isPrefixOf cs then
    (known.lookup (String.ofList (cs.drop family.length))).getD .unknown
  else .unknown

end Tag

/-! ### Tags by form -/

/-- Words for truth values as plain scalars write them. -/
def plainTruths : List String :=
  ["yes", "Yes", "YES", "no", "No", "NO", "true", "True", "TRUE", "false", "False", "FALSE", "on",
    "On", "ON", "off", "Off", "OFF"]

/-- Words for null as plain scalars write them. -/
def plainNulls : List String := ["~", "null", "Null", "NULL"]

/-- A decimal digit or an underscore. -/
def isDigitOr (c : Char) : Bool := isAsciiDigit c || c == '_'

/-- Whether text is a digit, and digits or underscores after it. -/
def isDigits (cs : List Char) : Bool :=
  match cs with
  | c :: rest => isAsciiDigit c && rest.all isDigitOr
  | [] => false

/-- Whether text is the later digits of a number in base sixty: below sixty, in one or two decimal
digits. -/
def isSixtieth (cs : List Char) : Bool :=
  match cs with
  | [a] => isAsciiDigit a
  | [a, b] => ('0' ≤ a && a ≤ '5') && isAsciiDigit b
  | _ => false

/-- Whether text is an exponent, whose sign must be written, or nothing. -/
def isExponent (cs : List Char) : Bool :=
  match cs with
  | [] => true
  | e :: sign :: digits =>
    (e == 'e' || e == 'E') && (sign == '+' || sign == '-') && !digits.isEmpty &&
      digits.all isAsciiDigit
  | _ => false

/-- Whether text without a sign is digits of base sixty with colons between them, the first ones
passing a test. -/
def isSexagesimal (first : List Char → Bool) (cs : List Char) : Bool :=
  match splitAt ':' cs with
  | lead :: part :: parts => first lead && (part :: parts).all isSixtieth
  | _ => false

/-- Whether a plain scalar writes a floating point value. -/
def isPlainReal (cs : List Char) : Bool :=
  let body := (splitSign cs).2
  let whole := body.takeWhile (· != '.')
  match body.dropWhile (· != '.') with
  | [] => false
  | _ :: fraction =>
    (isDigits whole && isExponent (fraction.dropWhile isDigitOr)) ||
      (whole.isEmpty && body == cs && isDigits (fraction.takeWhile isDigitOr) &&
        isExponent (fraction.dropWhile isDigitOr)) ||
      (isSexagesimal isDigits whole && fraction.all isDigitOr) ||
      [".inf", ".Inf", ".INF"].contains (String.ofList body) ||
      [".nan", ".NaN", ".NAN"].contains (String.ofList cs)

/-- A digit of base two, eight or sixteen, or an underscore. -/
def isBaseDigit (base : Nat) (c : Char) : Bool :=
  c == '_' || (c.toNat < 0x80 && (digitIn? base c).isSome)

/-- Whether text is not empty and has only characters of a class. -/
def isRun (p : Char → Bool) (cs : List Char) : Bool := !cs.isEmpty && cs.all p

/-- Whether a plain scalar writes a whole number. -/
def isPlainWhole (cs : List Char) : Bool :=
  match (splitSign cs).2 with
  | ['0'] => true
  | '0' :: 'b' :: digits => isRun (isBaseDigit 2) digits
  | '0' :: 'x' :: digits => isRun (isBaseDigit 16) digits
  | '0' :: digits => isRun (isBaseDigit 8) digits
  | body => isDigits body || isSexagesimal isDigits body

/-- Whether a plain scalar writes a date or a moment: a date alone has two digits for month and
day. -/
def isPlainStamp (cs : List Char) : Bool :=
  (writtenStamp cs).any fun s => s.time.isSome || s.padded

/-- The tag of a plain scalar by its form; a line break at the end does not count. -/
def plainTag (cs : List Char) : Tag :=
  let body := dropFinalBreak cs
  let word := String.ofList body
  if plainTruths.contains word then .bool
  else if isPlainReal body then .real
  else if isPlainWhole body then .int
  else if word == "<<" then .merge
  else if cs.isEmpty || plainNulls.contains word then .null
  else if isPlainStamp cs then .stamp
  else if word == "=" then .value
  else if ["!", "&", "*"].contains word then .unknown
  else .text

end Patronage.Yaml
