import Patronage.Yaml.Token.Block
import Patronage.Yaml.Token.Name
import Patronage.Yaml.Token.Plain
import Patronage.Yaml.Token.Quoted
/-!
# The tokens of a text

`tokens` reads a whole text.  A key is recognized only by the colon after it, so the place where one
may have started is remembered, one place for each level of brackets; when the colon comes, tokens
are put in there.  Such a key must stand on one line and be at most `keyReach` characters long.
Outside brackets the column of an entry opens and closes blocks.
-/

namespace Patronage.Yaml

/-- A place where a key may have started. -/
structure KeyStart where
  /-- How many tokens come before it. -/
  tokens : Nat
  /-- Whether nothing but a key can start there. -/
  required : Bool
  index : Nat
  line : Nat
  column : Nat
deriving Repr

/-- How long a key without an indicator can be. -/
def keyReach : Nat := 1024

/-- What is known while a text is read. -/
structure Reading where
  cursor : Cursor
  tokens : Array Token
  /-- How many brackets are open. -/
  flow : Nat
  /-- The column of the block that is open, `-1` if none is. -/
  indent : Int
  /-- The columns of the blocks around it. -/
  outer : List Int
  /-- Whether a key can start here. -/
  keyAllowed : Bool
  /-- Where keys may have started, the innermost bracket first. -/
  keys : List (Nat × KeyStart)
  done : Bool

namespace Reading

/-- The reading of a text that has not begun. -/
def start (cs : List Char) : Reading where
  cursor := .start cs
  tokens := #[]
  flow := 0
  indent := -1
  outer := []
  keyAllowed := true
  keys := []
  done := false

end Reading

/-- A step of reading. -/
abbrev Read := StateT Reading (Except Failure)

namespace Read

open Reading

/-- Fails because the text is no document. -/
def fail {α : Type} : Read α := throw .malformed

/-- Reads a part of the text. -/
def scan {α : Type} (s : Scan α) : Read α := do
  let r ← get
  let (a, c) ← s r.cursor
  set { r with cursor := c }
  return a

/-- Adds a token. -/
def emit (t : Token) : Read Unit := modify fun r => { r with tokens := r.tokens.push t }

/-- Adds a token that is written in some characters. -/
def emitMark (t : Token) (length : Nat) : Read Unit := do
  scan (Scan.move length)
  emit t

/-- Says whether a key can start here. -/
def allowKey (allowed : Bool) : Read Unit := modify fun r => { r with keyAllowed := allowed }

/-- Skips spaces, comments and breaks; outside brackets a key can start after a break. -/
def skipToToken : Nat → Read Unit
  | 0 => return
  | fuel + 1 => do
    scan Scan.skipComment
    let br ← scan Scan.lineBreak
    if br.isEmpty then return
    modify fun r => { r with keyAllowed := r.keyAllowed || r.flow == 0 }
    skipToToken fuel

/-- Forgets places where a key can no longer have started. -/
def dropStaleKeys : Read Unit := do
  let r ← get
  let isStale := fun (k : Nat × KeyStart) =>
    k.2.line != r.cursor.line || keyReach < r.cursor.index - k.2.index
  if r.keys.any fun k => isStale k && k.2.required then fail
  set { r with keys := r.keys.filter (!isStale ·) }

/-- Forgets the place of the level of brackets that is open. -/
def dropKey : Read Unit := do
  let r ← get
  if r.keys.any fun k => k.1 == r.flow && k.2.required then fail
  set { r with keys := r.keys.filter (·.1 != r.flow) }

/-- Remembers that a key may start here. -/
def saveKey : Read Unit := do
  if (← get).keyAllowed then
    dropKey
    modify fun r =>
      let required := r.flow == 0 && r.indent == (r.cursor.column : Int)
      let place : KeyStart :=
        ⟨r.tokens.size, required, r.cursor.index, r.cursor.line, r.cursor.column⟩
      { r with keys := (r.flow, place) :: r.keys }

/-- Closes the blocks that stand further right than a column. -/
def closeBlocks (column : Int) : Read Unit :=
  modify fun r =>
    if r.flow != 0 then r
    else
      let closed := (r.indent :: r.outer).takeWhile (column < ·)
      let kept := (r.indent :: r.outer).drop closed.length
      { r with
        indent := kept.headD (-1)
        outer := kept.tail
        tokens := closed.foldl (fun ts _ => ts.push .blockEnd) r.tokens }

/-- Opens a block at a column unless one is open there; its token goes to a given place. -/
def openBlock (t : Token) (column place : Nat) : Read Unit :=
  modify fun r =>
    if r.indent < (column : Int) then
      { r with
        indent := column
        outer := r.indent :: r.outer
        tokens := r.tokens.insertIdxIfInBounds place t }
    else r

/-- Opens a block for an entry that starts here; there must be room for one. -/
def openHere (t : Token) : Read Unit := do
  let r ← get
  if r.flow == 0 then
    if !r.keyAllowed then fail
    openBlock t r.cursor.column r.tokens.size

/-- The end of the text. -/
def streamEnd : Read Unit := do
  closeBlocks (-1)
  dropKey
  emit .streamEnd
  modify fun r => { r with done := true }

/-- What stands at the margin ends all blocks. -/
def atMargin (body : Read Unit) : Read Unit := do
  closeBlocks (-1)
  dropKey
  allowKey false
  body

/-- An opening bracket, which may start a key. -/
def openFlow (t : Token) : Read Unit := do
  saveKey
  allowKey true
  emitMark t 1
  modify fun r => { r with flow := r.flow + 1 }

/-- A closing bracket. -/
def closeFlow (t : Token) : Read Unit := do
  dropKey
  if (← get).flow == 0 then fail
  allowKey false
  emitMark t 1
  modify fun r => { r with flow := r.flow - 1 }

/-- A comma between entries in brackets. -/
def flowEntry : Read Unit := do
  allowKey true
  dropKey
  emitMark .flowEntry 1

/-- The indicator of an entry of a sequence. -/
def blockEntry : Read Unit := do
  openHere .blockSequenceStart
  allowKey true
  dropKey
  emitMark .blockEntry 1

/-- The indicator of a key. -/
def key : Read Unit := do
  openHere .blockMappingStart
  allowKey ((← get).flow == 0)
  dropKey
  emitMark .key 1

/-- The colon before a value.  If a key may have started before, it did. -/
def value : Read Unit := do
  let r ← get
  match r.keys.lookup r.flow with
  | some k =>
    set { r with
      keys := r.keys.filter (·.1 != r.flow)
      tokens := r.tokens.insertIdxIfInBounds k.tokens .key }
    if r.flow == 0 then openBlock .blockMappingStart k.column k.tokens
    allowKey false
  | none =>
    openHere .blockMappingStart
    allowKey (r.flow == 0)
    dropKey
  emitMark .value 1

/-- A part of a node that may start a key. -/
def part (s : Scan Token) : Read Unit := do
  saveKey
  allowKey false
  emit (← scan s)

/-- A block scalar, after which a key can start. -/
def blockScalar (folded : Bool) : Read Unit := do
  allowKey true
  dropKey
  let content ← scan (Scan.block folded (← get).indent)
  emit (.scalar content false)

/-- A plain scalar; a key can start after it if a break was the last thing read. -/
def plainScalar : Read Unit := do
  saveKey
  let r ← get
  let (cs, broken) ← scan (Scan.plain (r.flow != 0) r.indent)
  allowKey broken
  emit (.scalar (.ofChars cs) true)

/-- Characters that cannot start a plain scalar. -/
def isIndicator (c : Char) : Bool :=
  "-?:,[]\x7b\x7d#&*!|>'\"%@`".toList.contains c

/-- Whether a plain scalar starts here: not with an indicator, unless one that an item follows at
once. -/
def startsPlain (c : Cursor) (flow : Bool) : Bool :=
  let ch := c.head
  !(endsItem ch || isIndicator ch) ||
    (!endsItem (c.peek 1) && (ch == '-' || (!flow && (ch == '?' || ch == ':'))))

/-- Reads the next token, and the tokens that have to come before it. -/
def next : Read Unit := do
  skipToToken (← get).cursor.rest.length.succ
  dropStaleKeys
  closeBlocks (← get).cursor.column
  let r ← get
  let c := r.cursor
  let ch := c.head
  let flow := r.flow != 0
  let separate := endsItem (c.peek 1)
  if ch == '\x00' then streamEnd
  -- what counts at the margin only
  else if ch == '%' && c.column == 0 then
    atMargin do emit (.directive (← scan Scan.directive))
  else if c.column == 0 && c.marks '-' then atMargin (emitMark .documentStart 3)
  else if c.column == 0 && c.marks '.' then atMargin (emitMark .documentEnd 3)
  -- collections in brackets
  else if ch == '[' then openFlow .flowSequenceStart
  else if ch == '{' then openFlow .flowMappingStart
  else if ch == ']' then closeFlow .flowSequenceEnd
  else if ch == '}' then closeFlow .flowMappingEnd
  else if ch == ',' then flowEntry
  -- indicators of entries
  else if ch == '-' && separate then blockEntry
  else if ch == '?' && (flow || separate) then key
  else if ch == ':' && (flow || separate) then value
  -- references and what stands before a node
  else if ch == '*' then part (return .alias (← Scan.anchorName))
  else if ch == '&' then part (return .anchor (← Scan.anchorName))
  else if ch == '!' then part (return .tag (← Scan.writtenTag))
  -- scalars
  else if ch == '|' && !flow then blockScalar false
  else if ch == '>' && !flow then blockScalar true
  else if ch == '\'' then part (return .scalar (← Scan.quoted false) false)
  else if ch == '"' then part (return .scalar (← Scan.quoted true) false)
  else if startsPlain c flow then plainScalar
  else fail

end Read

/-- What reading a text came to: the tokens before a failure, if there was one. -/
structure TokenStream where
  tokens : List Token
  failure : Option Failure
deriving Repr

/-- Reads all tokens of a text one after the other, as far as it goes. -/
def readTokens : Nat → Reading → TokenStream
  | 0, r => ⟨r.tokens.toList, none⟩
  | fuel + 1, r =>
    match Read.next r with
    | .error e => ⟨r.tokens.toList, some e⟩
    | .ok (_, r) => if r.done then ⟨r.tokens.toList, none⟩ else readTokens fuel r

/-- The tokens of a text.  A byte order mark at its start is not part of it. -/
def tokens (cs : List Char) : TokenStream :=
  let r := Reading.start cs
  let r := if cs.head? == some '\uFEFF' then { r with cursor := r.cursor.step } else r
  readTokens cs.length.succ r

end Patronage.Yaml
