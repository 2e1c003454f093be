import Patronage.Yaml.Cursor
/-!
# Tokens of a document

What the text of a document is read as before its structure is known.  Indentation has become
tokens of its own: where a block of entries starts and where it ends.
-/

namespace Patronage.Yaml

/-- The content of a scalar.  Escapes can name code points that are no characters; content with such
is `broken`. -/
structure Content where
  chars : List Char
  broken : Bool
deriving DecidableEq, Repr

namespace Content

/-- No content. -/
def empty : Content := ⟨[], false⟩

/-- Content of characters. -/
def ofChars (cs : List Char) : Content := ⟨cs, false⟩

/-- One content after another. -/
def append (a b : Content) : Content := ⟨a.chars ++ b.chars, a.broken || b.broken⟩

end Content

/-- A tag as it is written: a handle, unless the tag is written in full, and the rest. -/
structure WrittenTag where
  handle : Option (List Char)
  suffix : List Char
deriving DecidableEq, Repr

/-- A directive that says something about the document after it. -/
inductive Directive
  | version (major : Nat)
  | handle (name : List Char) (stands : List Char)
  | other
deriving DecidableEq, Repr

/-- A token of a document. -/
inductive Token
  | streamEnd
  | directive (d : Directive)
  | documentStart
  | documentEnd
  | blockSequenceStart
  | blockMappingStart
  | blockEnd
  | flowSequenceStart
  | flowSequenceEnd
  | flowMappingStart
  | flowMappingEnd
  | blockEntry
  | flowEntry
  | key
  | value
  | alias (name : List Char)
  | anchor (name : List Char)
  | tag (t : WrittenTag)
  /-- A scalar; plain ones are written without quotes or indicators. -/
  | scalar (content : Content) (plain : Bool)
deriving DecidableEq, Repr

end Patronage.Yaml
