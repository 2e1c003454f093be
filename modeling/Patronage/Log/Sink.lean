import Patronage.Log.Event
import Patronage.Text.Case
/-!
# Where log events go

A sink has a threshold and a chain of stages that every event passes: the bound fields are merged
in, the application, the logger and the level are noted, and the last stage renders what is left.
A stage can also drop the event.  The threshold is applied last.  Values of fields are of a type `ν`
that text can be written as.
-/

namespace Patronage.Log

open Text

/-- One stage of a chain. -/
inductive Stage
  /-- Merges the bound fields in; the event's own fields win. -/
  | mergeContext
  | noteApplication
  | noteLogger
  | noteLevel
  /-- Takes the wish for a stack trace off. -/
  | stackInfo
  /-- Takes the wish for an exception's text off. -/
  | exceptionInfo
  | noteTime
  /-- Drops events for debugging unless debugging is on. -/
  | dropDebug
  | renderJson
  | renderConsole
deriving DecidableEq, Repr

/-- Why a sink cannot be set up. -/
inductive LevelError
  /-- The name stands for text that is no level. -/
  | noLevel
  /-- The name stands for something that cannot be a level. -/
  | notComparable
deriving DecidableEq, Repr

/-- Where log events go. -/
structure Sink where
  threshold : Nat
  chain : List Stage
deriving DecidableEq, Repr

/-- The names of thresholds, in capitals. -/
def thresholds : List (String × Nat) :=
  [("NOTSET", 0), ("DEBUG", 10), ("INFO", 20), ("WARN", 30), ("WARNING", 30), ("ERROR", 40),
    ("CRITICAL", 50), ("FATAL", 50)]

/-- The threshold with a name in any case; a name that stands for nothing is taken as `INFO`. -/
def threshold (name : String) : Except LevelError Nat :=
  let capitals := upperString name
  if capitals == "BASIC_FORMAT" then .error .noLevel
  else if capitals == "_STYLES" then .error .notComparable
  else .ok ((thresholds.lookup capitals).getD 20)

/-- What a logger is called: the one without a name is the root of all. -/
def loggerName (name : String) : String := if name.isEmpty then "root" else name

/-- Whether debugging is on, from the environment's log level if it has one. -/
def isDebugMode (environment : Option String) : Bool :=
  upperString (environment.getD "INFO") == "DEBUG"

namespace Sink

/-- The sink for a log level. -/
def configure (level : String) (json timestamp : Bool) : Except LevelError Sink := do
  let bound ← Log.threshold level
  return {
    threshold := bound
    -- each stage sees the fields as the stages before it left them
    chain :=
      [.mergeContext, .noteApplication, .noteLogger, .noteLevel, .stackInfo, .exceptionInfo] ++
        (if timestamp then [.noteTime] else []) ++
        (if Severity.debug.rank < bound then [.dropDebug] else []) ++
        [if json then .renderJson else .renderConsole] }

end Sink

/-- What a stage knows of the event that passes it. -/
structure Passage (ν : Type) where
  context : Context ν
  logger : String
  severity : Severity
  debugMode : Bool
  /-- The time written, as text. -/
  time : String
  ofText : String → ν

namespace Stage

variable {ν : Type}

/-- The fields after a stage, if it lets the event pass. -/
def pass (p : Passage ν) (fields : Fields ν) : Stage → Option (Fields ν)
  | .mergeContext => some (p.context.merge fields)
  | .noteApplication => some (fields.insert "app" (p.ofText "subscriptions-core"))
  | .noteLogger => some (fields.insert "logger" (p.ofText (loggerName p.logger)))
  | .noteLevel => some (fields.insert "level" (p.ofText p.severity.word))
  | .stackInfo => some (fields.erase "stack_info")
  | .exceptionInfo => some (fields.erase "exc_info")
  | .noteTime => some (fields.insert "timestamp" (p.ofText p.time))
  | .dropDebug => if p.severity = .debug && !p.debugMode then none else some fields
  | .renderJson | .renderConsole => some fields

end Stage

namespace Sink

variable {ν : Type}

/-- The fields of the line that an event is written as, if it is written.  `bound` are fields of the
logger itself. -/
def line? (sink : Sink) (p : Passage ν) (bound : Fields ν) (e : Event ν) : Option (Fields ν) := do
  let own := (bound.override e.fields).insert "event" (p.ofText e.name)
  let fields ← sink.chain.foldlM (Stage.pass p) own
  if sink.threshold ≤ p.severity.rank then some fields else none

end Sink

end Patronage.Log
