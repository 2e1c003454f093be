import Patronage.Yaml.Token
/-!
# Block scalars

Scalars that stand indented below an indicator, with their line breaks kept or, if folded, made into
spaces between lines that start with text.  The header can give the indentation and says what
becomes of the breaks at the end.
-/

namespace Patronage.Yaml.Scan

/-- What becomes of the line breaks at the end of a block scalar. -/
inductive Chomping
  /-- All are dropped. -/
  | strip
  /-- One is kept. -/
  | clip
  /-- All are kept. -/
  | keep
deriving DecidableEq, Repr

/-- The chomping that an indicator asks for. -/
def chomping? : Char → Option Chomping
  | '+' => some .keep
  | '-' => some .strip
  | _ => none

/-- The indentation that a digit asks for. -/
def increment? (c : Char) : Option Nat :=
  if '0' ≤ c && c ≤ '9' then some (c.toNat - 0x30) else none

/-- Reads a chomping indicator if there is one. -/
def chompingMark : Scan (Option Chomping) := do
  let mark := chomping? (← head)
  if mark.isSome then move 1
  return mark

/-- Reads an indentation indicator if there is one; it is not zero. -/
def incrementMark : Scan (Option Nat) := do
  let mark := increment? (← head)
  if mark == some 0 then fail
  if mark.isSome then move 1
  return mark

/-- Reads the two indicators of a header in either order. -/
def blockHeader : Scan (Chomping × Option Nat) := do
  let first ← chompingMark
  let increment ← incrementMark
  let second ← if first.isNone && increment.isSome then chompingMark else pure none
  expect endsWord
  return ((first.or second).getD .clip, increment)

/-- Reads the blank lines before the first line of a block and finds its indentation. -/
def blockIndentation : Nat → Nat → Scan (List Char × Nat)
  | 0, deepest => return ([], deepest)
  | fuel + 1, deepest => do
    let ch ← head
    if ch == ' ' then
      move 1
      blockIndentation fuel (max deepest (← get).column)
    else if isBreak ch then
      let br ← lineBreak
      let (more, deepest) ← blockIndentation fuel deepest
      return (br ++ more, deepest)
    else return ([], deepest)

/-- Skips indentation up to a column. -/
def indentation (indent : Nat) : Scan Unit := do
  let c ← get
  move ((c.rest.take (indent - c.column)).takeWhile (· == ' ')).length

/-- Reads blank lines of a block. -/
def blockBreaks (indent : Nat) : Nat → Scan (List Char)
  | 0 => return []
  | fuel + 1 => do
    indentation indent
    let br ← lineBreak
    if br.isEmpty then return []
    return br ++ (← blockBreaks indent fuel)

/-- Whether a line of the block starts here. -/
def atBlockLine (indent : Nat) : Scan Bool := do
  let c ← get
  return c.column == indent && c.head != '\x00'

/-- Reads the lines of a block: their text, the last break and the breaks after it. -/
def blockLines (folded : Bool) (indent : Nat) :
    Nat → List Char → Scan (List Char × List Char × List Char)
  | 0, breaks => return ([], [], breaks)
  | fuel + 1, breaks => do
    let startsWithText := !isBlank (← head)
    let line ← run (!endsLine ·)
    let br ← lineBreak
    let after ← blockBreaks indent (← get).rest.length.succ
    if ← atBlockLine indent then
      let joint :=
        if folded && br == ['\n'] && startsWithText && !isBlank (← head) then
          if after.isEmpty then [' '] else []
        else br
      let (more, last, trailing) ← blockLines folded indent fuel after
      return (breaks ++ line ++ joint ++ more, last, trailing)
    else return (breaks ++ line, br, after)

/-- Reads a block scalar with its header, within a block indented by `indent`. -/
def block (folded : Bool) (indent : Int) : Scan Content := do
  move 1
  let (chomping, increment) ← blockHeader
  ignoredLine
  let least := (max (indent + 1) 1).toNat
  let fuel := (← get).rest.length.succ
  let (breaks, own) ←
    match increment with
    | none => do
      let (breaks, deepest) ← blockIndentation fuel 0
      pure (breaks, max least deepest)
    | some n => do
      let own := least + n - 1
      pure (← blockBreaks own fuel, own)
  let (text, last, trailing) ←
    if ← atBlockLine own then blockLines folded own fuel breaks else pure ([], [], breaks)
  return .ofChars <|
    match chomping with
    | .strip => text
    | .clip => text ++ last
    | .keep => text ++ last ++ trailing

end Patronage.Yaml.Scan
