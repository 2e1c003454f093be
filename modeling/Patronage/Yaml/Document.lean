import Patronage.Yaml.Node
/-!
# The value of a document

What the nodes of a document denote.  Reading goes in rounds: in each round the scalars directly
within the collections of the round before are read, from left to right, so of two failures the one
that is nested less deeply counts, and of two at the same depth the first.  The value of the key `<<`
is a mapping, or a sequence of mappings, whose entries come before those of the mapping it stands in.
Main definition: `Yaml.load`, the value of a text.
-/

namespace Patronage.Yaml

open Text

/-! ### Rounds -/

/-- A failure with the round in which it shows. -/
structure Late where
  round : Nat
  failure : Failure
deriving DecidableEq, Repr

/-- A value, or the failure that shows first. -/
abbrev Timed (α : Type) := Except Late α

namespace Timed

variable {α β : Type}

/-- A failure that shows at once. -/
def now (f : Failure) : Timed α := .error ⟨0, f⟩

/-- What shows one round later. -/
def later (x : Timed α) : Timed α := x.mapError fun e => { e with round := e.round + 1 }

/-- Two values, or of their failures the one that shows first. -/
def both (x : Timed α) (y : Timed β) : Timed (α × β) :=
  match x, y with
  | .ok a, .ok b => .ok (a, b)
  | .error e, .ok _ => .error e
  | .ok _, .error e => .error e
  | .error e, .error f => .error (if f.round < e.round then f else e)

/-- All values, or of their failures the one that shows first. -/
def all (xs : List (Timed α)) : Timed (List α) :=
  xs.foldr (fun x rest => (both x rest).map fun p => p.1 :: p.2) (.ok [])

end Timed

/-! ### Nodes with their values -/

/-- A node together with what it denotes. -/
inductive Built
  | scalar (tag : Tag) (content : Content) (value : Timed Value)
  | sequence (tag : Tag) (items : List Built) (value : Timed Value)
  /-- `merged` are the entries with those of merge keys put in, `text` is what the mapping stands for
  where text is wanted. -/
  | mapping (tag : Tag) (entries : List (Built × Built))
      (merged : Except Failure (List (Built × Built))) (text : Option Content)
      (value : Timed Value)

namespace Built

/-- The tag of a node. -/
def tag : Built → Tag
  | .scalar t _ _ | .sequence t _ _ | .mapping t _ _ _ _ => t

/-- What a node denotes. -/
def value : Built → Timed Value
  | .scalar _ _ v | .sequence _ _ v | .mapping _ _ _ _ v => v

/-- What a node stands for where text is wanted. -/
def text : Built → Option Content
  | .scalar _ c _ => some c
  | .sequence .. => none
  | .mapping _ _ _ t _ => t

/-- The content of a scalar as text. -/
def textValue (c : Content) : Value :=
  if c.broken then .brokenText else .text (String.ofList c.chars)

/-- What characters denote under the tag of a scalar. -/
def scalarOf (tag : Tag) (cs : List Char) : Except Failure Value :=
  match tag with
  | .null => .ok .null
  | .bool => (truthValue cs).map .bool
  | .int => (wholeValue cs).map .int
  | .real => (realValue cs).map .real
  | .bytes => (bytesValue cs).map .bytes
  | .stamp => stampValue cs
  | _ => .error .malformed

/-- What a node with the tag of a scalar denotes. -/
def scalarValue (tag : Tag) (text : Option Content) : Timed Value :=
  match text with
  | none => .now .malformed
  | some c =>
    if tag = .text then .ok (textValue c)
    else if c.broken then .now .malformed
    else (scalarOf tag c.chars).mapError fun f => ⟨0, f⟩

/-- Whether a tag is one of a collection. -/
def isCollection : Tag → Bool
  | .list | .map | .set | .ordered | .pairs => true
  | _ => false

/-- What a node without the right form for the tag of a collection denotes. -/
def misfit (tag : Tag) (text : Option Content) : Timed Value :=
  if isCollection tag then .error ⟨1, .malformed⟩ else scalarValue tag text

/-- A scalar with what it denotes. -/
def ofScalar (tag : Tag) (c : Content) : Built := .scalar tag c (misfit tag (some c))

/-- An item of a list of single pairs. -/
def pairValue : Built → Timed Value
  | .mapping _ [(k, v)] _ _ _ => (Timed.both k.value v.value).map fun p => .list [p.1, p.2]
  | _ => .now .malformed

/-- A sequence with what it denotes. -/
def ofItems (tag : Tag) (items : List Built) : Built :=
  .sequence tag items <|
    if tag = .list then (Timed.all (items.map fun i => i.value.later)).map .list
    else if tag = .ordered || tag = .pairs then
      (Timed.all (items.map fun i => i.pairValue.later)).map .list
    else misfit tag none

/-- The entries that the value of a merge key stands for. -/
def mergedEntries : Built → Except Failure (List (Built × Built))
  | .mapping _ _ merged _ _ => merged
  | .sequence _ items _ => do
    let parts ← items.mapM fun i =>
      match i with
      | .mapping _ _ merged _ _ => merged
      | _ => .error .malformed
    return parts.reverse.flatten
  | .scalar .. => .error .malformed

/-- Entries with those of merge keys put in front. -/
def mergeEntries (entries : List (Built × Built)) : Except Failure (List (Built × Built)) := do
  let merges ← (entries.filter (·.1.tag = .merge)).mapM fun e => e.2.mergedEntries
  return merges.flatten ++ entries.filter (·.1.tag ≠ .merge)

/-- What a node denotes as a key: not a collection, and the value key is text. -/
def keyValue (k : Built) : Timed Value :=
  let v := if k.tag = .value then scalarValue .text k.text else k.value
  match v with
  | .ok v => if v.isKey then .ok v else .now .malformed
  | .error e => if e.round = 0 then .error e else .now .malformed

/-- The mapping that entries denote; of equal keys the last value counts. -/
def mappingValue (entries : List (Built × Built)) : Timed (List (Value × Value)) :=
  (Timed.all (entries.map fun e => (Timed.both e.1.keyValue e.2.value).later)).map fun es =>
    es.foldl (fun m e => Value.writeEntry e.1 e.2 m) []

/-- What a mapping with some entries denotes. -/
def entriesValue (merged : Except Failure (List (Built × Built))) :
    Timed (List (Value × Value)) :=
  match merged with
  | .ok entries => mappingValue entries
  | .error f => .error ⟨1, f⟩

/-- A mapping with what it denotes. -/
def ofEntries (tag : Tag) (entries : List (Built × Built)) : Built :=
  let merged := mergeEntries entries
  let text := (entries.find? (·.1.tag = .value)).bind (·.2.text)
  .mapping tag entries merged text <|
    if tag = .map then (entriesValue merged).map .map
    else if tag = .set then (entriesValue merged).map fun es => .set (es.map (·.1))
    else misfit tag text

end Built

/-- The named nodes that have been read. -/
abbrev Names := List (List Char × Built)

mutual

/-- Reads what a node denotes.  A reference into a collection that is still being read would make a
value that holds itself.  No `Value` does, so it is cut: it stands for a mapping without entries. -/
def Node.build : Node → StateM Names Built
  | .scalar tag c => return .ofScalar tag c
  | .sequence tag items => return .ofItems tag (← buildItems items)
  | .mapping tag entries => return .ofEntries tag (← buildEntries entries)
  | .alias name => return ((← get).lookup name).getD (.ofEntries .map [])
  | .named name node => do
    let b ← node.build
    modify fun names => (name, b) :: names
    return b

/-- Reads what nodes denote. -/
def buildItems : List Node → StateM Names (List Built)
  | [] => return []
  | n :: ns => do
    let b ← n.build
    return b :: (← buildItems ns)

/-- Reads what the nodes of entries denote. -/
def buildEntries : List (Node × Node) → StateM Names (List (Built × Built))
  | [] => return []
  | (k, v) :: es => do
    let key ← k.build
    let value ← v.build
    return (key, value) :: (← buildEntries es)

end

/-- The value of a text.  A text without a document denotes null.  Which of two failures of one text
shows is settled only up to the order in which tokens are looked at ahead of the structure. -/
def load (cs : List Char) : Except Failure Value := do
  if cs.any (!isPrintable ·) then throw .malformed
  match ← Node.ofTokens (tokens cs) with
  | none => return .null
  | some root => ((root.build []).1.value).mapError (·.failure)

end Patronage.Yaml
