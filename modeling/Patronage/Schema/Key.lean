import Patronage.Schema.Issue
/-!
# Keys on a path

The step from a mapping to the value under one of its keys.  Text and whole numbers of up to 64 bits
are steps as they are; every other key is written out.
-/

namespace Patronage

open Text

namespace Schema

/-- Whether a whole number is a step of its own; larger ones are written out. -/
def isSmall (n : Int) : Bool :=
  -0x8000000000000000 ≤ n && n < 0x8000000000000000

/-- A byte of a bytes key: printable ASCII as it is, all else escaped. -/
def byteChars (quote : Char) (b : UInt8) : List Char :=
  let c := Char.ofNat b.toNat
  if c == '\\' || c == quote then ['\\', c]
  else if c == '\t' then ['\\', 't']
  else if c == '\n' then ['\\', 'n']
  else if c == '\r' then ['\\', 'r']
  else if 0x20 ≤ b.toNat && b.toNat < 0x7F then [c]
  else '\\' :: 'x' :: Bytes.octetHex b

/-- The text of a bytes key. -/
def bytesText (b : Bytes) : String :=
  let quote := if b.contains 0x27 && !b.contains 0x22 then '"' else '\''
  String.ofList ('b' :: quote :: b.flatMap (byteChars quote) ++ [quote])

/-- The fields of a date key, which are written as a call. -/
def dateFields (d : Calendar.Date) : List Nat := [d.year, d.month, d.day]

/-- The fields of the time of a moment key: trailing parts after the minute are left out if zero. -/
def timeFields (m : Moment) : List Nat :=
  let seconds := m.microsOfDay / 1000000
  let fraction := m.microsOfDay % 1000000
  [seconds / 3600, seconds / 60 % 60] ++
    if fraction ≠ 0 then [seconds % 60, fraction]
    else if seconds % 60 ≠ 0 then [seconds % 60]
    else []

/-- The text of an offset of a moment key. -/
def offsetText (o : Calendar.Offset) : String :=
  if o.micros = 0 then "datetime.timezone.utc"
  else
    let time := o.micros % Calendar.microsPerDay
    let parts := [("days=", o.micros / Calendar.microsPerDay),
      ("seconds=", time / Calendar.microsPerSecond),
      ("microseconds=", time % Calendar.microsPerSecond)]
    let written := (parts.filter (·.2 ≠ 0)).map fun p => p.1 ++ intString p.2
    "datetime.timezone(datetime.timedelta(" ++ ", ".intercalate written ++ "))"

/-- Numbers with commas between them. -/
def commaList (ns : List Nat) : String :=
  ", ".intercalate (ns.map fun n => String.ofList (decimal n))

/-- The step from a mapping to the value under a key. -/
def keyStep : Value → PathStep
  | .text s => .name s
  | .int n => if isSmall n then .number n else .name (intString n)
  | .bool b => .number (if b then 1 else 0)
  | .real x => .name (NumberFormat.plain.write x)
  | .bytes b => .name (bytesText b)
  | .date d => .name ("datetime.date(" ++ commaList (dateFields d) ++ ")")
  | .moment m =>
    let fields := dateFields (Calendar.Date.ofOrdinal m.ordinal) ++ timeFields m
    let offset := (m.offset.map fun o => ", tzinfo=" ++ offsetText o).getD ""
    .name ("datetime.datetime(" ++ commaList fields ++ offset ++ ")")
  | _ => .name "None"

end Schema

end Patronage
