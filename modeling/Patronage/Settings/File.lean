import Patronage.Settings.Check
import Patronage.Text.Split
import Patronage.Text.Utf8
import Patronage.Yaml.Document
/-!
# The settings file

Where the settings file is, and how its contents become settings.  A parser makes a document of the
contents, and what comes of that decides the rest: `Settings.ofParsed` holds for any parser, and
`Parsed.ofText` is the outcome for text in YAML.  A file that cannot be used leaves the settings held
before as they are.  Main statements:

* `Settings.hold_error` — a file that cannot be used changes nothing;
* `Settings.hold_ok` — a file that can be used replaces what was held.
-/

namespace Patronage

open Text

/-- Why a settings file cannot be used. -/
inductive LoadError
  /-- There is no file at a path. -/
  | notFound (path : String)
  /-- The bytes of the file are no UTF-8 text. -/
  | undecodable
  /-- The text cannot be read as a document. -/
  | document (f : Yaml.Failure)
  /-- The document at a path says nothing. -/
  | void (path : String)
  /-- The document is no mapping from names. -/
  | nameless
  /-- The settings break rules. -/
  | invalid (issues : List Issue)
  /-- The settings were asked for before any file was read. -/
  | unread
deriving DecidableEq, Repr

namespace LoadError

/-- What is reported; some faults of a document are reported without text. -/
def message? : LoadError → Option String
  | .notFound path => some ("Configuration file not found: " ++ path)
  | .document .malformed => some "Failed to parse YAML configuration"
  | .void path => some ("Configuration file is empty: " ++ path)
  | .invalid _ => some "Configuration validation failed:"
  | .unread => some "Configuration not loaded"
  | .undecodable | .document _ | .nameless => none

end LoadError

/-- What comes of parsing the contents of a file. -/
inductive Parsed
  | document (v : Value)
  /-- The parser tells that there is no document. -/
  | rejected
  /-- Decoding or parsing ends in some other error. -/
  | failed (e : LoadError)

/-- What is at the path of a settings file. -/
inductive Source
  /-- No file. -/
  | absent
  | bytes (b : Bytes)
  | text (cs : List Char)
  /-- A file that writes a given document. -/
  | document (v : Value)

/-- Text with every carriage return made a line feed, alone or with the one after it. -/
def normalizeBreaks : List Char → List Char
  | [] => []
  | '\r' :: '\n' :: cs => '\n' :: normalizeBreaks cs
  | '\r' :: cs => '\n' :: normalizeBreaks cs
  | c :: cs => c :: normalizeBreaks cs

namespace Parsed

/-- What comes of parsing a text in YAML. -/
def ofText (cs : List Char) : Parsed :=
  match Yaml.load (normalizeBreaks cs) with
  | .ok v => .document v
  | .error .malformed => .rejected
  | .error f => .failed (.document f)

/-- What comes of parsing bytes as a text in YAML. -/
def ofBytes (b : Bytes) : Parsed := (decodeUtf8 b).elim (.failed .undecodable) ofText

/-- The document at a path, if there is a file the contents of which were parsed. -/
def documentAt (path : String) : Option Parsed → Except LoadError Value
  | none => .error (.notFound path)
  | some (.document v) => .ok v
  | some .rejected => .error (.document .malformed)
  | some (.failed e) => .error e

end Parsed

namespace Source

/-- What comes of parsing the contents of a file, if there is one. -/
def parsed : Source → Option Parsed
  | .absent => none
  | .bytes b => some (.ofBytes b)
  | .text cs => some (.ofText cs)
  | .document v => some (.document v)

/-- The document at a path. -/
def read (path : String) (s : Source) : Except LoadError Value := Parsed.documentAt path s.parsed

end Source

/-- Whether every key of a mapping is text. -/
def hasNames (fields : Fields) : Bool :=
  fields.all fun e =>
    match e.1 with
    | .text _ | .brokenText => true
    | _ => false

namespace Settings

/-- The settings that a document at a path gives. -/
def ofDocument (path : String) (v : Value) : Except LoadError Settings :=
  if v.isVoid then .error (.void path)
  else
    match v with
    | .map fields =>
      if hasNames fields then (ofFields fields).mapError .invalid else .error .nameless
    | _ => .error .nameless

/-- The settings that the file at a path gives, if there is one the contents of which were parsed. -/
def ofParsed (path : String) (parsed : Option Parsed) : Except LoadError Settings := do
  ofDocument path (← Parsed.documentAt path parsed)

/-- The settings that the file at a path gives. -/
def read (path : String) (s : Source) : Except LoadError Settings := ofParsed path s.parsed

/-- What is held after reading a file again. -/
def hold (held : Option Settings) (r : Except LoadError Settings) : Option Settings :=
  match r with
  | .ok s => some s
  | .error _ => held

/-- A file that cannot be used changes nothing. -/
theorem hold_error (held : Option Settings) (e : LoadError) : hold held (.error e) = held := rfl

/-- A file that can be used replaces what was held. -/
theorem hold_ok (held : Option Settings) (s : Settings) : hold held (.ok s) = some s := rfl

/-- The settings to be used: those held, else those that a file gives. -/
def obtain (held : Option Settings) (r : Except LoadError Settings) : Except LoadError Settings :=
  held.elim r .ok

/-! ### Paths -/

/-- The path of the settings file where none is given. -/
def usualPath : String := "config/subscriptions.yaml"

/-- How many slashes a path keeps at its front: two if there are exactly two, else one. -/
def rootOf (cs : List Char) : List Char :=
  let slashes := (cs.takeWhile (· == '/')).length
  if slashes = 0 then [] else if slashes = 2 then ['/', '/'] else ['/']

/-- A path without empty steps and steps to the same place. -/
def normalizePath (s : String) : String :=
  let steps := (splitAt '/' s.toList).filter fun step => !(step.isEmpty || step == ['.'])
  let path := rootOf s.toList ++ List.intercalate ['/'] steps
  if path.isEmpty then "." else String.ofList path

/-- The path of the settings file: the one asked for, else the environment's, else the usual one;
empty ones do not count. -/
def pathOf (asked environment : Option String) : String :=
  let given := [asked, environment].filterMap fun p => p.filter fun s => !s.isEmpty
  normalizePath (given.headD usualPath)

end Settings

end Patronage
