import Patronage.Data.Value
import Patronage.Text.Blank
import Patronage.Text.Decimal
import Patronage.Text.Digit
/-!
# Generated identifiers

Customers, subscriptions and payment items get identifiers of the form
`lead_kind_token_stamp`: a lead of ASCII letters, digits and hyphens, one of `cus`, `sub`, `item`,
sixteen lower case hexadecimal digits and the time of creation in milliseconds, in thirteen digits.
`Identifier.write` puts the parts together and `Identifier.read?` takes them apart; reading allows
digits of any script in the stamp and one line break at the end.  A token is half of what a draw of
128 bits writes in hexadecimal digits (`Identifier.generate`).  The tokens of a whole run come from
a `TokenSource`, which never hands out the same draw twice.
-/

namespace Patronage

open Text

/-- What an identifier names. -/
inductive IdKind
  | customer | subscription | item
deriving DecidableEq, Repr

namespace IdKind

/-- The word for a kind within an identifier. -/
def tag : IdKind → List Char
  | .customer => ['c', 'u', 's']
  | .subscription => ['s', 'u', 'b']
  | .item => ['i', 't', 'e', 'm']

/-- Reads the word for a kind and the underscore after it. -/
def read? : List Char → Option (IdKind × List Char)
  | 'c' :: 'u' :: 's' :: '_' :: cs => some (.customer, cs)
  | 's' :: 'u' :: 'b' :: '_' :: cs => some (.subscription, cs)
  | 'i' :: 't' :: 'e' :: 'm' :: '_' :: cs => some (.item, cs)
  | _ => none

/-- The kind with a given word. -/
def ofTag? (s : String) : Option IdKind :=
  [IdKind.customer, .subscription, .item].find? fun k => k.tag == s.toList

theorem read?_tag (k : IdKind) (cs : List Char) : read? (k.tag ++ '_' :: cs) = some (k, cs) := by
  cases k <;> rfl

end IdKind

namespace Identifier

/-- Characters of the lead of an identifier. -/
def isLead (c : Char) : Bool :=
  ('a' ≤ c && c ≤ 'z') || ('A' ≤ c && c ≤ 'Z') || isAsciiDigit c || c == '-'

/-- Characters of the token of an identifier. -/
def isToken (c : Char) : Bool :=
  isAsciiDigit c || ('a' ≤ c && c ≤ 'f')

/-- The number of characters of a token. -/
def tokenLength : Nat := 16

/-- The number of digits of a stamp. -/
def stampLength : Nat := 13

/-- An identifier with a given stamp, a number of milliseconds since 1970. -/
def write (lead : String) (kind : IdKind) (token : List Char) (millis : Int) : String :=
  String.ofList (lead.toList ++ '_' :: kind.tag ++ '_' :: token ++ '_' :: decimalInt millis)

/-- The token of a draw of 128 bits: the first half of its hexadecimal digits. -/
def tokenOf (draw : BitVec 128) : List Char :=
  (hexFixed 32 draw.toNat).take tokenLength

/-- The identifier that a draw makes at a moment, a number of milliseconds since 1970. -/
def generate (lead : String) (kind : IdKind) (draw : BitVec 128) (millis : Int) : String :=
  write lead kind (tokenOf draw) millis

/-- Reads the token, the underscore after it and the stamp, which ends the text. -/
def readStamp? (cs : List Char) : Option (List Char) :=
  if (cs.take tokenLength).length == tokenLength && (cs.take tokenLength).all isToken then
    match cs.drop tokenLength with
    | '_' :: stamp =>
      if stamp.length == stampLength && stamp.all isDigit then some stamp else none
    | _ => none
  else none

/-- The kind and the stamp of an identifier. -/
def read? (s : String) : Option (IdKind × List Char) :=
  let cs := dropFinalBreak s.toList
  if (cs.takeWhile isLead).isEmpty then none
  else
    match cs.dropWhile isLead with
    | '_' :: cs =>
      match IdKind.read? cs with
      | some (kind, cs) => (readStamp? cs).map fun stamp => (kind, stamp)
      | none => none
    | _ => none

/-- Whether text is an identifier. -/
def isValid (s : String) : Bool :=
  (read? s).isSome

/-- Whether text is an identifier of a kind. -/
def isValidFor (s : String) (kind : IdKind) : Bool :=
  (read? s).any (·.1 = kind)

/-- The stamp of an identifier in milliseconds. -/
def stamp? (s : String) : Option Nat :=
  (read? s).map fun r => readDigits r.2

/-- Whether a value is an identifier, of the kind whose word a second value is unless that is
null. -/
def accepts (value kind : Value) : Bool :=
  match value, kind with
  | .text s, .null => isValid s
  | .text s, .text k => (IdKind.ofTag? k).any (isValidFor s)
  | _, _ => false

/-- The stamp of a value that is an identifier. -/
def stampOf (value : Value) : Option Nat :=
  match value with
  | .text s => stamp? s
  | _ => none

end Identifier

/-- A supply of tokens for identifiers, with what the clock of the system shows when they are drawn.
That clock is not the one that operations are given. -/
structure TokenSource where
  /-- The token of each draw. -/
  token : Nat → List Char
  /-- The stamp of each draw, in milliseconds since 1970. -/
  stamp : Nat → Int
  /-- How many tokens have been drawn. -/
  drawn : Nat

namespace TokenSource

/-- The supply whose `n`-th token, from one on, is `n` in sixteen hexadecimal digits, while the clock
of the system stands still at 1970. -/
def counting : TokenSource where
  token n := hexFixed Identifier.tokenLength (n + 1)
  stamp _ := 0
  drawn := 0

/-- The supply while the clock of the system stands still at a time. -/
def stampedAt (s : TokenSource) (millis : Int) : TokenSource := { s with stamp := fun _ => millis }

/-- The next token. -/
def next (s : TokenSource) : List Char := s.token s.drawn

/-- The stamp of the next token. -/
def nextStamp (s : TokenSource) : Int := s.stamp s.drawn

/-- The supply after a draw. -/
def advance (s : TokenSource) : TokenSource := { s with drawn := s.drawn + 1 }

end TokenSource

/-- Whole milliseconds from 1970 to a moment, the fraction dropped. -/
def Moment.epochMillis (m : Moment) : Int :=
  m.utcMicros.tdiv 1000

end Patronage
