import Patronage.Text.Hex
/-!
# UTF-8

Strict decoding: overlong forms, surrogates, code points past U+10FFFF and truncated forms are
refused.
-/

namespace Patronage.Text

/-- The six low bits of a continuation byte. -/
def continuation? (b : UInt8) : Option Nat :=
  if b.toNat / 64 = 2 then some (b.toNat % 64) else none

/-- The character at a code point no smaller than `least`, if there is one. -/
def scalar? (least n : Nat) : Option Char :=
  if h : n.isValidChar then if least ≤ n then some (Char.ofNatAux n h) else none else none

/-- The characters that a string of bytes encodes. -/
def decodeUtf8 : Bytes → Option (List Char)
  | [] => some []
  | a :: bs =>
    let n := a.toNat
    if n < 0x80 then
      (decodeUtf8 bs).bind fun cs => (scalar? 0 n).map (· :: cs)
    else if 0xC0 ≤ n && n < 0xE0 then
      match bs with
      | b :: rest => do
        let y ← continuation? b
        let c ← scalar? 0x80 (n % 32 * 64 + y)
        let cs ← decodeUtf8 rest
        return c :: cs
      | _ => none
    else if 0xE0 ≤ n && n < 0xF0 then
      match bs with
      | b :: b' :: rest => do
        let y ← continuation? b
        let z ← continuation? b'
        let c ← scalar? 0x800 ((n % 16 * 64 + y) * 64 + z)
        let cs ← decodeUtf8 rest
        return c :: cs
      | _ => none
    else if 0xF0 ≤ n && n < 0xF8 then
      match bs with
      | b :: b' :: b'' :: rest => do
        let y ← continuation? b
        let z ← continuation? b'
        let w ← continuation? b''
        let c ← scalar? 0x10000 (((n % 8 * 64 + y) * 64 + z) * 64 + w)
        let cs ← decodeUtf8 rest
        return c :: cs
      | _ => none
    else none

example : decodeUtf8 [0xE4, 0xB8, 0xAD] = some ['中'] := by decide

example : decodeUtf8 [0xC0, 0x80] = none := by decide

example : decodeUtf8 [0xED, 0xA0, 0x80] = none := by decide

end Patronage.Text
