import Patronage.Text.Digit
import Patronage.Text.Hex
import Patronage.Text.Utf8
import Patronage.Yaml.Token
/-!
# Names, tags and directives

The tokens that start with `&`, `*`, `!` and `%`.
-/

namespace Patronage.Yaml.Scan

open Text

/-- What can follow the name of an anchor or an alias. -/
def endsName (c : Char) : Bool :=
  endsItem c || "?:,]\x7d%@`".toList.contains c

/-- Reads the name of an anchor or an alias and its indicator. -/
def anchorName : Scan (List Char) := do
  move 1
  let name ← run isWord
  if name.isEmpty then fail
  expect endsName
  return name

/-- Characters of the rest of a tag, percent signs apart. -/
def isUri (c : Char) : Bool :=
  isWord c || ";/?:@&=+$,.!~*'()[]".toList.contains c

/-- Reads the octets of a run of percent escapes. -/
def uriOctets : Nat → Scan Bytes
  | 0 => return []
  | fuel + 1 => do
    if (← head) != '%' then return []
    match hexValue? (← peek 1), hexValue? (← peek 2) with
    | some a, some b =>
      move 3
      return UInt8.ofNat (16 * a + b) :: (← uriOctets fuel)
    | _, _ => fail

/-- Reads characters of a tag and escapes, which write UTF-8. -/
def uriParts : Nat → Scan (List Char)
  | 0 => return []
  | fuel + 1 => do
    let ch ← head
    if ch == '%' then
      match decodeUtf8 (← uriOctets (← get).rest.length) with
      | some cs => return cs ++ (← uriParts fuel)
      | none => fail
    else if isUri ch then
      let cs ← run isUri
      return cs ++ (← uriParts fuel)
    else return []

/-- Reads the rest of a tag, which is not empty. -/
def uri : Scan (List Char) := do
  expect fun ch => ch == '%' || isUri ch
  uriParts (← get).rest.length

/-- Reads the handle of a tag: one exclamation mark, or a word between two. -/
def tagHandle : Scan (List Char) := do
  expect (· == '!')
  move 1
  if (← head) == ' ' then return ['!']
  let word ← run isWord
  expect (· == '!')
  move 1
  return '!' :: word ++ ['!']

/-- Reads the handle of a tag, which is a single exclamation mark if no second one follows. -/
def shortHandle : Scan (List Char) := do
  let word := ((← get).rest.drop 1).takeWhile (!endsWord ·)
  if word.contains '!' then tagHandle
  else
    move 1
    return ['!']

/-- Reads a tag as it is written, up to what must follow it. -/
def tagBody : Scan WrittenTag := do
  let next ← peek 1
  if next == '<' then
    move 2
    let suffix ← uri
    expect (· == '>')
    move 1
    return ⟨none, suffix⟩
  else if endsItem next then
    move 1
    return ⟨none, ['!']⟩
  else
    let handle ← shortHandle
    return ⟨some handle, ← uri⟩

/-- Reads a tag as it is written. -/
def writtenTag : Scan WrittenTag := do
  let t ← tagBody
  expect endsWord
  return t

/-- Reads a whole number; one with too many digits is none. -/
def directiveNumber : Scan Nat := do
  let digits ← run fun ch => '0' ≤ ch && ch ≤ '9'
  if digits.isEmpty then fail
  if countLimit < digits.length then throw .badValue
  return readDigits digits

/-- Reads the version that a directive names. -/
def directiveVersion : Scan Directive := do
  skip (· == ' ')
  let major ← directiveNumber
  expect (· == '.')
  move 1
  let _ ← directiveNumber
  expect endsWord
  return .version major

/-- Reads the handle that a directive introduces and what it stands for. -/
def directiveHandle : Scan Directive := do
  skip (· == ' ')
  let name ← tagHandle
  expect (· == ' ')
  skip (· == ' ')
  let stands ← uri
  expect endsWord
  return .handle name stands

/-- Reads what a directive with a given name says. -/
def directiveBody (name : List Char) : Scan Directive := do
  if name == "YAML".toList then directiveVersion
  else if name == "TAG".toList then directiveHandle
  else
    skip (!endsLine ·)
    return .other

/-- Reads a directive to the end of its line. -/
def directive : Scan Directive := do
  move 1
  let name ← run isWord
  if name.isEmpty then fail
  expect endsWord
  let d ← directiveBody name
  ignoredLine
  return d

end Patronage.Yaml.Scan
