import Patronage.Calendar.Text
import Patronage.Number.Shortest
import Patronage.Text.Hex
/-!
# Dynamic values

The values that a configuration document or a request body can hold: scalars of several kinds,
lists, sets, and mappings whose keys are themselves values.  Mappings are lists of entries in the
order of the document, each key once (`Value.sameKey` says which keys are one).
-/

namespace Patronage

open Calendar

/-- A value of a document. -/
inductive Value
  | null
  | bool (b : Bool)
  | int (n : Int)
  | real (x : Binary64)
  | text (s : String)
  /-- Text with code points that are no characters. -/
  | brokenText
  | bytes (b : Bytes)
  | date (d : Date)
  | moment (m : Moment)
  | list (xs : List Value)
  | set (xs : List Value)
  | map (entries : List (Value × Value))
deriving Inhabited

namespace Value

/-- A number, a truth value counting as zero or one, as a signed quotient. -/
def ratio? : Value → Option (Int × Nat)
  | .bool b => some (if b then 1 else 0, 1)
  | .int n => some (n, 1)
  | .real x => x.ratio?
  | _ => none

/-- Whether two values are one key of a mapping.  Numbers are compared by value across their kinds,
moments by the instant. -/
def sameKey (v w : Value) : Bool :=
  match v.ratio?, w.ratio? with
  | some (a, b), some (c, d) => a * d == c * b
  | some _, none | none, some _ => false
  | none, none =>
    match v, w with
    | .null, .null => true
    | .real x, .real y => x = y
    | .text s, .text t => s == t
    | .bytes a, .bytes b => a == b
    | .date a, .date b => a = b
    | .moment a, .moment b => a.offset.isSome == b.offset.isSome && a.utcMicros == b.utcMicros
    | _, _ => false

/-- Whether a value can be a key of a mapping. -/
def isKey : Value → Bool
  | .list _ | .set _ | .map _ => false
  | _ => true

/-- Whether a document with this value counts as one that says nothing. -/
def isVoid : Value → Bool
  | .null => true
  | .bool b => !b
  | .int n => n == 0
  | .real (.finite _ x) => x.mantissa == 0
  | .real _ => false
  | .text s => s.isEmpty
  | .brokenText => false
  | .bytes b => b.isEmpty
  | .date _ | .moment _ => false
  | .list xs | .set xs => xs.isEmpty
  | .map es => es.isEmpty

/-- Writes an entry of a mapping: the value under an equal key is replaced, the key kept. -/
def writeEntry (key value : Value) : List (Value × Value) → List (Value × Value)
  | [] => [(key, value)]
  | (k, v) :: es => if k.sameKey key then (k, value) :: es else (k, v) :: writeEntry key value es

/-- The value under a text key of a mapping. -/
def field? (entries : List (Value × Value)) (name : String) : Option Value :=
  (entries.find? fun e => match e.1 with | .text s => s == name | _ => false).map (·.2)

end Value

end Patronage
