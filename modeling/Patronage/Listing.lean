import Patronage.Catalog
import Patronage.Settings.File
/-!
# The configuration and the listing of levels

The configuration holds the settings that were read from its file last.  The listing of levels is
kept apart: it has a copy of the levels, while it asks the configuration for durations.  Reading the
file again goes first into the configuration and then into the copy.  Main definition:
`Listing.catalog`, what a listing answers.
-/

namespace Patronage

/-- A settings file and the settings that were read from it last. -/
structure Configuration where
  path : String
  held : Option Settings
deriving DecidableEq

namespace Configuration

/-- The settings held. -/
def settings (c : Configuration) : Except LoadError Settings := c.held.elim (.error .unread) .ok

/-- Reads the file. -/
def load (c : Configuration) (file : Source) : Configuration × Except LoadError Unit :=
  let r := Settings.read c.path file
  ({ c with held := Settings.hold c.held r }, r.map fun _ => ())

/-- The configuration of a file that can be read. -/
def ofFile (path : String) (file : Source) : Except LoadError Configuration :=
  match load ⟨path, none⟩ file with
  | (c, .ok _) => .ok c
  | (_, .error e) => .error e

end Configuration

/-- The levels on offer, copied from a configuration. -/
structure Listing where
  config : Configuration
  levels : Settings.Levels
deriving DecidableEq

namespace Listing

/-- The configuration and the listing that hold some settings. -/
def ofSettings (path : String) (s : Settings) : Listing :=
  ⟨⟨path, some s⟩, ⟨s.levels, s.levels_nonneg⟩⟩

/-- Copies the levels of the configuration. -/
def loadLevels (l : Listing) : Listing × Except LoadError Unit :=
  match l.config.settings with
  | .ok s => ({ l with levels := ⟨s.levels, s.levels_nonneg⟩ }, .ok ())
  | .error e => (l, .error e)

/-- The listing of a configuration. -/
def ofConfiguration (c : Configuration) : Except LoadError Listing :=
  match loadLevels ⟨c, Settings.noLevels⟩ with
  | (l, .ok _) => .ok l
  | (_, .error e) => .error e

/-- Reads the file of the configuration again and copies its levels. -/
def reload (l : Listing) (file : Source) : Listing × Except LoadError Unit :=
  match l.config.load file with
  | (config, .ok _) => loadLevels { l with config }
  | (config, .error e) => ({ l with config }, .error e)

/-- What the listing answers: of levels by its copy, of durations by the configuration. -/
def catalog (l : Listing) : Except LoadError Catalog := do
  let s ← l.config.settings
  return ⟨{ s with levels := l.levels.val, levels_nonneg := l.levels.property }⟩

end Listing

end Patronage
