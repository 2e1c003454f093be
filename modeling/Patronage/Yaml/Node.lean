import Patronage.Yaml.Tag
import Patronage.Yaml.Token.Stream
/-!
# The structure of a document

A document is a tree of nodes: scalars, sequences and mappings, each with a tag.  A node can be
given a name, once in a document, and be referred to from then on.  `Node.ofTokens` reads the one
document that a text may hold; collections are nested at most `nestingLimit` deep.
-/

namespace Patronage.Yaml

/-- A node of a document. -/
inductive Node
  | scalar (tag : Tag) (content : Content)
  | sequence (tag : Tag) (items : List Node)
  | mapping (tag : Tag) (entries : List (Node × Node))
  /-- A reference to a named node. -/
  | alias (name : List Char)
  /-- A node that is given a name. -/
  | named (name : List Char) (node : Node)
deriving Inhabited

/-- How deep collections can be nested.  What stops deeper nesting is the room that a caller leaves on
the stack, so the limit is one of the usual caller and not of the format. -/
def nestingLimit : Nat := 485

/-- What is known while the structure is read. -/
structure Parsing where
  tokens : List Token
  /-- Why there are no more tokens, if reading them failed. -/
  failure : Option Failure
  /-- What handles of tags stand for. -/
  handles : List (List Char × List Char)
  /-- The names given so far. -/
  names : List (List Char)

/-- A reader of a part of the structure. -/
abbrev Parse := StateT Parsing (Except Failure)

namespace Parse

/-- Fails because the tokens make no document. -/
def fail {α : Type} : Parse α := throw .malformed

/-- The next token. -/
def peek : Parse Token := do
  let s ← get
  match s.tokens with
  | t :: _ => return t
  | [] => throw (s.failure.getD .malformed)

/-- Moves past the next token. -/
def take : Parse Unit := modify fun s => { s with tokens := s.tokens.tail }

/-- Moves past the next token if it is a given one, and tells whether it was. -/
def accept (t : Token) : Parse Bool := do
  if (← peek) = t then
    take
    return true
  else return false

/-- The node that stands where nothing is written. -/
def nothing : Node := .scalar .null .empty

/-- A node, or nothing where one of some tokens comes next. -/
def orNothing (stops : List Token) (node : Parse Node) : Parse Node := do
  if stops.contains (← peek) then return nothing else node

/-! ### Collections

Each reader is given the reader of a node, and fuel for its entries. -/

variable (item : Parse Node)

/-- The items of a block sequence. -/
def blockItems : Nat → Parse (List Node)
  | 0 => fail
  | fuel + 1 => do
    if ← accept .blockEntry then
      let first ← orNothing [.blockEntry, .blockEnd] item
      return first :: (← blockItems fuel)
    else if ← accept .blockEnd then return []
    else fail

/-- The items of a sequence that stands at the column of its key. -/
def bareItems : Nat → Parse (List Node)
  | 0 => fail
  | fuel + 1 => do
    if ← accept .blockEntry then
      let first ← orNothing [.blockEntry, .key, .value, .blockEnd] item
      return first :: (← bareItems fuel)
    else return []

/-- The value of a key, which may be left out; `stops` are the tokens before which none stands. -/
def valueOf (stops : List Token) : Parse Node := do
  if ← accept .value then orNothing stops item else return nothing

/-- The entries of a block mapping. -/
def blockEntries : Nat → Parse (List (Node × Node))
  | 0 => fail
  | fuel + 1 => do
    if ← accept .key then
      let stops := [.key, .value, .blockEnd]
      let key ← orNothing stops item
      let value ← valueOf item stops
      return (key, value) :: (← blockEntries fuel)
    else if ← accept .blockEnd then return []
    else fail

/-- One entry of a collection in brackets after its key indicator. -/
def flowPair (close : Token) : Parse (Node × Node) := do
  let key ← orNothing [.value, .flowEntry, close] item
  return (key, ← valueOf item [.flowEntry, close])

/-- Moves past the comma between two entries in brackets. -/
def separator (first : Bool) : Parse Unit := do
  if !first then
    if !(← accept .flowEntry) then fail

/-- The items of a sequence in brackets; an item can be a single entry of a mapping. -/
def flowItems : Nat → Bool → Parse (List Node)
  | 0, _ => fail
  | fuel + 1, first => do
    if ← accept .flowSequenceEnd then return []
    separator first
    if ← accept .key then
      let pair ← flowPair item .flowSequenceEnd
      return .mapping .map [pair] :: (← flowItems fuel false)
    else if ← accept .flowSequenceEnd then return []
    else
      let first ← item
      return first :: (← flowItems fuel false)

/-- The entries of a mapping in brackets; an entry can be a key alone. -/
def flowEntries : Nat → Bool → Parse (List (Node × Node))
  | 0, _ => fail
  | fuel + 1, first => do
    if ← accept .flowMappingEnd then return []
    separator first
    if ← accept .key then
      let pair ← flowPair item .flowMappingEnd
      return pair :: (← flowEntries fuel false)
    else if ← accept .flowMappingEnd then return []
    else
      let key ← item
      return (key, nothing) :: (← flowEntries fuel false)

/-! ### Nodes -/

/-- The full name of a tag as it is written. -/
def tagName (t : WrittenTag) : Parse (List Char) := do
  match t.handle with
  | none => return t.suffix
  | some h =>
    match (← get).handles.lookup h with
    | some stands => return stands ++ t.suffix
    | none => fail

/-- The next token as the name of a node. -/
def anchor? : Parse (Option (List Char)) := do
  match ← peek with
  | .anchor name =>
    take
    return some name
  | _ => return none

/-- The next token as the tag of a node. -/
def tag? : Parse (Option WrittenTag) := do
  match ← peek with
  | .tag t =>
    take
    return some t
  | _ => return none

/-- What is written before a node, in either order: its name and its tag. -/
def properties : Parse (Option (List Char) × Option (List Char)) := do
  let first ← anchor?
  let tag ← tag?
  let second ← if first.isNone && tag.isSome then anchor? else pure none
  match tag with
  | some t => return (first.or second, some (← tagName t))
  | none => return (first.or second, none)

/-- Where a node stands. -/
inductive Place
  | flow
  | block
  /-- As key or value of a block mapping, where a sequence need not be indented. -/
  | blockEntry
deriving DecidableEq, Repr

/-- Whether a tag leaves the kind of the value to the form of the node. -/
def isOpen (tag : Option (List Char)) : Bool := tag.all (· == ['!'])

/-- The tag of a collection. -/
def tagOr (usual : Tag) (tag : Option (List Char)) : Tag :=
  if isOpen tag then usual else (tag.map Tag.ofName).getD usual

/-- The tag of a scalar. -/
def scalarTag (content : Content) (plain : Bool) (tag : Option (List Char)) : Tag :=
  match tag with
  | none => if plain then plainTag content.chars else .text
  | some name => if name == ['!'] then plainTag content.chars else Tag.ofName name

/-- Reads the content of a node after its properties; `node` reads a node within it. -/
def content (node : Place → Parse Node) (place : Place) (named : Bool)
    (tag : Option (List Char)) : Parse Node := do
  let fuel := (← get).tokens.length + 1
  match ← peek with
  | .scalar text plain =>
    take
    return .scalar (scalarTag text plain tag) text
  | .flowSequenceStart =>
    take
    return .sequence (tagOr .list tag) (← flowItems (node .flow) fuel true)
  | .flowMappingStart =>
    take
    return .mapping (tagOr .map tag) (← flowEntries (node .flow) fuel true)
  | t =>
    if t = .blockEntry && place = .blockEntry then
      return .sequence (tagOr .list tag) (← bareItems (node .block) fuel)
    else if t = .blockSequenceStart && place ≠ .flow then
      take
      return .sequence (tagOr .list tag) (← blockItems (node .block) fuel)
    else if t = .blockMappingStart && place ≠ .flow then
      take
      return .mapping (tagOr .map tag) (← blockEntries (node .blockEntry) fuel)
    else if named || tag.isSome then return .scalar (tagOr .null tag) .empty
    else fail

/-- Reads a node within collections that may be nested to some depth. -/
def node : Nat → Place → Parse Node
  | 0, _ => throw .tooDeep
  | depth + 1, place => do
    match ← peek with
    | .alias name =>
      take
      if (← get).names.contains name then return .alias name else fail
    | _ =>
      let (name, tag) ← properties
      if let some n := name then
        if (← get).names.contains n then fail
        modify fun s => { s with names := n :: s.names }
      let body ← content (node depth) place name.isSome tag
      return name.elim body (.named · body)

/-! ### Documents -/

/-- The handles that need no directive. -/
def usualHandles : List (List Char × List Char) := [(['!'], ['!']), (['!', '!'], Tag.family)]

/-- Reads directives: at most one version, which is known, and each handle once. -/
def directives : Nat → Bool → List (List Char × List Char) → Parse (List (List Char × List Char))
  | 0, _, handles => return handles
  | fuel + 1, versioned, handles => do
    match ← peek with
    | .directive (.version major) =>
      if versioned || major != 1 then fail
      take
      directives fuel true handles
    | .directive (.handle name stands) =>
      if (handles.lookup name).isSome then fail
      take
      directives fuel versioned ((name, stands) :: handles)
    | .directive .other =>
      take
      directives fuel versioned handles
    | _ => return handles

/-- Whether a document ends before a token. -/
def endsDocument : Token → Bool
  | .directive _ | .documentStart | .documentEnd | .streamEnd => true
  | _ => false

/-- Reads the root of a document after the mark of its start. -/
def markedRoot : Parse Node := do
  let handles ← directives (← get).tokens.length false []
  modify fun s => { s with handles := handles ++ usualHandles }
  if !(← accept .documentStart) then fail
  if endsDocument (← peek) then return nothing else node (nestingLimit + 1) .block

/-- Moves past marks of a document's end. -/
def skipEnds : Nat → Parse Unit
  | 0 => return
  | fuel + 1 => do
    if ← accept .documentEnd then skipEnds fuel

/-- Reads the only document of a text; a text without one has no root. -/
def onlyDocument : Parse (Option Node) := do
  let first ← peek
  if first = .streamEnd then return none
  let root ←
    if endsDocument first && first ≠ .documentEnd then markedRoot
    else node (nestingLimit + 1) .block
  skipEnds (← get).tokens.length
  if (← peek) = .streamEnd then return some root else fail

end Parse

namespace Node

/-- The root of the only document among some tokens. -/
def ofTokens (ts : TokenStream) : Except Failure (Option Node) :=
  (Parse.onlyDocument.run ⟨ts.tokens, ts.failure, Parse.usualHandles, []⟩).map (·.1)

end Node

end Patronage.Yaml
