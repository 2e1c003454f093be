import Patronage.Yaml.Token
/-!
# Plain scalars

Scalars without quotes or indicators.  They end before a colon or a comment that spaces set off, at
a mark of a document, in flow collections also at brackets and commas, and at a line that is not
indented enough; other line breaks are folded.
-/

namespace Patronage.Yaml.Scan

/-- Brackets and commas. -/
def isFlowMark (c : Char) : Bool :=
  c == ',' || c == '[' || c == ']' || c == '{' || c == '}'

/-- The length of the word of a plain scalar that the text starts with. -/
def plainLength (flow : Bool) : List Char → Nat
  | [] => 0
  | c :: cs =>
    let next := cs.headD '\x00'
    if endsItem c || (c == ':' && (endsItem next || (flow && isFlowMark next))) ||
        (flow && (isFlowMark c || c == '?')) then 0
    else plainLength flow cs + 1

/-- Reads blank lines within a plain scalar; `none` at a mark of a document. -/
def plainBreaks : Nat → Scan (Option (List Char))
  | 0 => return some []
  | fuel + 1 => do
    skip (· == ' ')
    let br ← lineBreak
    if br.isEmpty then return some []
    if (← get).isDocumentMark then return none
    return (← plainBreaks fuel).map (br ++ ·)

/-- Reads the spaces and breaks after a word of a plain scalar, folding the breaks.  The flag tells
whether there was a break; nothing is answered where the scalar ends at a mark of a document. -/
def plainSpace : Scan (List Char × Bool) := do
  let spaces ← run (· == ' ')
  let br ← lineBreak
  if br.isEmpty then return (spaces, false)
  if (← get).isDocumentMark then return ([], true)
  match ← plainBreaks (← get).rest.length.succ with
  | none => return ([], true)
  | some breaks =>
    if br != ['\n'] then return (br ++ breaks, true)
    return (if breaks.isEmpty then [' '] else breaks, true)

/-- Reads the words of a plain scalar after the spaces before them.  The flag tells whether a line
break was the last thing read. -/
def plainWords (flow : Bool) (indent : Int) : Nat → List Char → Bool → Scan (List Char × Bool)
  | 0, _, broken => return ([], broken)
  | fuel + 1, spaces, broken => do
    let c ← get
    let length := plainLength flow c.rest
    if c.head == '#' || length == 0 then return ([], broken)
    let word := c.rest.take length
    move length
    let (after, broken) ← plainSpace
    let c ← get
    if after.isEmpty || c.head == '#' || (!flow && (c.column : Int) < indent) then
      return (spaces ++ word, broken)
    let (more, broken) ← plainWords flow indent fuel after broken
    return (spaces ++ word ++ more, broken)

/-- Reads a plain scalar within a block indented by `indent`. -/
def plain (flow : Bool) (indent : Int) : Scan (List Char × Bool) := do
  plainWords flow (indent + 1) (← get).rest.length.succ [] false

end Patronage.Yaml.Scan
