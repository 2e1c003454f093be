import Patronage.Text.Hex
import Patronage.Yaml.Token
/-!
# Quoted scalars

Scalars between single or double quotes.  A line break within one is folded: alone it becomes a
space, and of several the first is dropped.  A doubled single quote stands for one; between double
quotes a backslash starts an escape.
-/

namespace Patronage.Yaml.Scan

open Text

/-- The character that a one-letter escape stands for. -/
def escapeOf? : Char → Option Char
  | '0' => some '\x00'
  | 'a' => some '\x07'
  | 'b' => some '\x08'
  | 't' | '\t' => some '\t'
  | 'n' => some '\n'
  | 'v' => some '\x0b'
  | 'f' => some '\x0c'
  | 'r' => some '\r'
  | 'e' => some '\x1b'
  | ' ' => some ' '
  | '"' => some '"'
  | '\\' => some '\\'
  | '/' => some '/'
  | 'N' => some '\u0085'
  | '_' => some '\u00a0'
  | 'L' => some '\u2028'
  | 'P' => some '\u2029'
  | _ => none

/-- How many digits follow the letter of a numeric escape. -/
def escapeDigits? : Char → Option Nat
  | 'x' => some 2
  | 'u' => some 4
  | 'U' => some 8
  | _ => none

/-- A code that denotes a character does so as a 32-bit number. -/
theorem isValidChar_ofNat {n : Nat} (h : n.isValidChar) : (UInt32.ofNat n).isValidChar := by
  have hlt : n < UInt32.size := by
    rcases h with h | ⟨_, h⟩ <;> simp only [UInt32.size] <;> omega
  simpa [UInt32.isValidChar, UInt32.toNat_ofNat_of_lt' hlt] using h

/-- The content of a numeric escape: a surrogate is no character, and what is no code point at all
cannot be converted. -/
def escapedCode (n : Nat) : Except Failure Content :=
  if h : n.isValidChar then .ok (.ofChars [⟨UInt32.ofNat n, isValidChar_ofNat h⟩])
  else if n < 0x110000 then .ok ⟨[], true⟩
  else if n < 0x80000000 then .error .badValue
  else .error .tooLarge

/-- Reads the digits of a numeric escape. -/
def numericEscape (places : Nat) : Scan Content := do
  let digits := (← get).rest.take places
  match digits.mapM hexValue? with
  | some values =>
    if values.length != places then fail
    let content ← escapedCode (values.foldl (fun n d => 16 * n + d) 0)
    move places
    return content
  | none => fail

/-- Reads blank lines within quotes; a mark of a document's start or end cannot stand in one. -/
def quotedBreaks : Nat → Scan (List Char)
  | 0 => return []
  | fuel + 1 => do
    if (← get).isDocumentMark then fail
    skip isBlank
    let br ← lineBreak
    if br.isEmpty then return []
    return br ++ (← quotedBreaks fuel)

/-- Reads an escape after its backslash. -/
def escape : Scan Content := do
  let ch ← head
  match escapeOf? ch, escapeDigits? ch with
  | some c, _ =>
    move 1
    return .ofChars [c]
  | none, some places =>
    move 1
    numericEscape places
  | none, none =>
    if (← lineBreak).isEmpty then fail
    return .ofChars (← quotedBreaks (← get).rest.length)

/-- Characters that stand for themselves within quotes of either kind. -/
def isQuotedPlain (c : Char) : Bool :=
  !(c == '\'' || c == '"' || c == '\\' || endsItem c)

/-- Reads quoted content up to a blank, a break or the closing quote. -/
def quotedWord (double : Bool) : Nat → Scan Content
  | 0 => return .empty
  | fuel + 1 => do
    let cs ← run isQuotedPlain
    let ch ← head
    let more : Option Content ←
      if !double && ch == '\'' && (← peek 1) == '\'' then do
        move 2
        pure (some (.ofChars ['\'']))
      else if (double && ch == '\'') || (!double && (ch == '"' || ch == '\\')) then do
        move 1
        pure (some (.ofChars [ch]))
      else if double && ch == '\\' then do
        move 1
        pure (some (← escape))
      else pure none
    match more with
    | some content =>
      return .append (.ofChars cs) (.append content (← quotedWord double fuel))
    | none => return .ofChars cs

/-- Reads the blanks and breaks between two words of quoted content, folding the breaks. -/
def quotedSpace : Scan Content := do
  let blanks ← run isBlank
  if (← head) == '\x00' then fail
  let br ← lineBreak
  if br.isEmpty then return .ofChars blanks
  let breaks ← quotedBreaks (← get).rest.length
  if br != ['\n'] then return .ofChars (br ++ breaks)
  return .ofChars (if breaks.isEmpty then [' '] else breaks)

/-- Reads the words of quoted content up to the closing quote. -/
def quotedWords (double : Bool) : Nat → Scan Content
  | 0 => fail
  | fuel + 1 => do
    let word ← quotedWord double (← get).rest.length.succ
    if (← head) == (if double then '"' else '\'') then return word
    let space ← quotedSpace
    return .append word (.append space (← quotedWords double fuel))

/-- Reads a quoted scalar with its quotes. -/
def quoted (double : Bool) : Scan Content := do
  move 1
  let content ← quotedWords double (← get).rest.length.succ
  move 1
  return content

end Patronage.Yaml.Scan
