/-!
# A place in a document's text

A `Cursor` is the text still to be read, with the number of characters, lines and columns before it.
Line breaks are taken to be normalized: a carriage return is a character like any other.  `NUL`,
which no document holds, stands for the end of the text.
-/

namespace Patronage.Yaml

/-- Why a document cannot be read. -/
inductive Failure
  /-- The text is no document. -/
  | malformed
  /-- Text is not of the form that its type requires, or denotes no value of it. -/
  | badValue
  /-- A number is too large. -/
  | tooLarge
  /-- A word is none of those of its type. -/
  | unknownWord
  /-- A number is written as nothing at all. -/
  | noNumber
  /-- Text does not look like a point in time. -/
  | noTime
  /-- Collections are nested too deeply. -/
  | tooDeep
deriving DecidableEq, Repr

/-- Characters that a document can hold. -/
def isPrintable (c : Char) : Bool :=
  let n := c.toNat
  n == 0x09 || n == 0x0A || n == 0x0D || (0x20 ≤ n && n ≤ 0x7E) || n == 0x85 ||
    (0xA0 ≤ n && n ≤ 0xFFFD) || 0x10000 ≤ n

/-- Characters that end a line. -/
def isBreak (c : Char) : Bool :=
  c == '\n' || c == '\u0085' || c == '\u2028' || c == '\u2029'

/-- The end of the text or of a line. -/
def endsLine (c : Char) : Bool := c == '\x00' || isBreak c

/-- The end of the text or of a line, or a space. -/
def endsWord (c : Char) : Bool := c == ' ' || endsLine c

/-- The end of the text or of a line, a space or a tab. -/
def endsItem (c : Char) : Bool := c == '\t' || endsWord c

/-- A space or a tab. -/
def isBlank (c : Char) : Bool := c == ' ' || c == '\t'

/-- Characters of anchors and handles. -/
def isWord (c : Char) : Bool :=
  ('0' ≤ c && c ≤ '9') || ('A' ≤ c && c ≤ 'Z') || ('a' ≤ c && c ≤ 'z') || c == '-' || c == '_'

/-- A place in a text. -/
structure Cursor where
  rest : List Char
  index : Nat
  line : Nat
  column : Nat
deriving Repr

namespace Cursor

/-- The start of a text. -/
def start (cs : List Char) : Cursor := ⟨cs, 0, 0, 0⟩

/-- The character a number of places ahead. -/
def peek (c : Cursor) (ahead : Nat) : Char := (c.rest.drop ahead).headD '\x00'

/-- The next character. -/
def head (c : Cursor) : Char := c.rest.headD '\x00'

/-- The place after the next character; byte order marks take no column. -/
def step (c : Cursor) : Cursor :=
  match c.rest with
  | [] => c
  | ch :: cs =>
    if isBreak ch then ⟨cs, c.index + 1, c.line + 1, 0⟩
    else ⟨cs, c.index + 1, c.line, if ch == '\uFEFF' then c.column else c.column + 1⟩

/-- The place a number of characters ahead. -/
def advance (c : Cursor) : Nat → Cursor
  | 0 => c
  | n + 1 => c.step.advance n

/-- The longest run of characters with a property, and the place after it. -/
def span (c : Cursor) (p : Char → Bool) : List Char × Cursor :=
  let run := c.rest.takeWhile p
  (run, c.advance run.length)

/-- The place after all characters with a property. -/
def skip (c : Cursor) (p : Char → Bool) : Cursor := (c.span p).2

/-- Whether three characters and an end of an item come next. -/
def marks (c : Cursor) (ch : Char) : Bool :=
  c.rest.take 3 == [ch, ch, ch] && endsItem (c.peek 3)

/-- Whether a mark of a document's start or end comes next. -/
def isDocumentMark (c : Cursor) : Bool := c.marks '-' || c.marks '.'

end Cursor

/-- A reader of a part of a text, which moves a cursor or fails. -/
abbrev Scan := StateT Cursor (Except Failure)

namespace Scan

/-- Fails because the text is no document. -/
def fail {α : Type} : Scan α := throw .malformed

/-- The next character. -/
def head : Scan Char := return (← get).head

/-- The character a number of places ahead. -/
def peek (ahead : Nat) : Scan Char := return (← get).peek ahead

/-- Moves past some characters. -/
def move (n : Nat) : Scan Unit := modify (·.advance n)

/-- Reads the longest run of characters with a property. -/
def run (p : Char → Bool) : Scan (List Char) := do
  let (cs, c) := (← get).span p
  set c
  return cs

/-- Skips all characters with a property. -/
def skip (p : Char → Bool) : Scan Unit := do
  let _ ← run p

/-- Fails unless the next character has a property. -/
def expect (p : Char → Bool) : Scan Unit := do
  if p (← head) then return else fail

/-- Reads a line break if there is one; the breaks of plain text all become line feeds. -/
def lineBreak : Scan (List Char) := do
  let ch ← head
  if isBreak ch then
    move 1
    return [if ch == '\u0085' then '\n' else ch]
  else return []

/-- Skips spaces and a comment. -/
def skipComment : Scan Unit := do
  skip (· == ' ')
  if (← head) == '#' then skip (!endsLine ·)

/-- Skips the rest of a line that may hold a comment only, and its break. -/
def ignoredLine : Scan Unit := do
  skipComment
  expect endsLine
  let _ ← lineBreak

end Scan

end Patronage.Yaml
