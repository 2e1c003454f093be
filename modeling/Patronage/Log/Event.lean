import Patronage.Data.Assoc
/-!
# Log events

A log event has a severity, a name and named fields.  `Context` is a set of fields that code binds
around other code: every event written meanwhile carries them, its own fields winning.  Binding
returns what it replaced, and restoring puts that back.  Main statements:

* `Context.get?_restore_save` — putting saved names back gives each of them what it held when it was
  saved and touches no other name.
-/

namespace Patronage.Log

/-- How serious an event is. -/
inductive Severity
  | debug | info | warning | error | critical
deriving DecidableEq, Repr

namespace Severity

/-- The word for a severity. -/
def word : Severity → String
  | .debug => "debug"
  | .info => "info"
  | .warning => "warning"
  | .error => "error"
  | .critical => "critical"

/-- The rank of a severity. -/
def rank : Severity → Nat
  | .debug => 10
  | .info => 20
  | .warning => 30
  | .error => 40
  | .critical => 50

end Severity

/-- The value of a field of the library's own events. -/
inductive Field
  | null
  | flag (b : Bool)
  | number (n : Int)
  | text (s : String)
  | texts (ss : List String)
deriving DecidableEq, Repr

/-- The field of a number that may be absent. -/
def Field.optionalNumber (n : Option Int) : Field := n.elim .null .number

/-- Named fields, values of type `ν`. -/
abbrev Fields (ν : Type) := Assoc String ν

/-- A log event. -/
structure Event (ν : Type) where
  severity : Severity
  name : String
  fields : Fields ν

namespace Event

variable {ν : Type}

/-- An event for the regular record. -/
def info (name : String) (fields : List (String × ν)) : Event ν := ⟨.info, name, .ofList fields⟩

/-- An event that only debugging asks for. -/
def debug (name : String) (fields : List (String × ν)) : Event ν := ⟨.debug, name, .ofList fields⟩

/-- An event that somebody should look at. -/
def warning (name : String) (fields : List (String × ν)) : Event ν :=
  ⟨.warning, name, .ofList fields⟩

end Event

/-- An event of the library's own. -/
abbrev Entry := Event Field

/-- The fields bound around the code that runs. -/
abbrev Context (ν : Type) := Fields ν

namespace Context

variable {ν : Type}

/-- What binding some names replaced: for each name the field before, if there was one. -/
abbrev Saved (ν : Type) := List (String × Option ν)

/-- What a context holds under the names of some fields. -/
def save (ctx : Context ν) (fields : Fields ν) : Saved ν :=
  fields.keys.map fun k => (k, ctx.get? k)

/-- Binds fields over those bound before. -/
def bind (ctx : Context ν) (fields : Fields ν) : Context ν := ctx.override fields

/-- Puts one name back to what it was. -/
def putBack (ctx : Context ν) (entry : String × Option ν) : Context ν :=
  match entry.2 with
  | some v => ctx.insert entry.1 v
  | none => ctx.erase entry.1

/-- Puts names back to what they were. -/
def restore (ctx : Context ν) (saved : Saved ν) : Context ν := saved.foldl putBack ctx

/-- The fields that an event is written with. -/
def merge (ctx : Context ν) (fields : Fields ν) : Fields ν := ctx.override fields

/-- The event as it is written within a context. -/
def complete (ctx : Context ν) (e : Event ν) : Event ν := { e with fields := ctx.merge e.fields }

theorem get?_putBack (ctx : Context ν) (entry : String × Option ν) (k : String) :
    (ctx.putBack entry).get? k = if entry.1 = k then entry.2 else ctx.get? k := by
  obtain ⟨n, o⟩ := entry
  cases o <;> simp [putBack]

theorem get?_restore_map (ctx now : Context ν) (names : List String) (k : String) :
    (now.restore (names.map fun n => (n, ctx.get? n))).get? k =
      if k ∈ names then ctx.get? k else now.get? k := by
  induction names generalizing now with
  | nil => rfl
  | cons n ns ih =>
    have step : (now.restore ((n :: ns).map fun n => (n, ctx.get? n))) =
        (now.putBack (n, ctx.get? n)).restore (ns.map fun n => (n, ctx.get? n)) := rfl
    rw [step, ih, get?_putBack]
    by_cases h : k ∈ ns
    · simp [h]
    · by_cases hn : n = k
      · subst hn; simp
      · simp [h, hn, Ne.symm hn]

/-- Putting saved names back gives each of them what it held when it was saved and touches no other
name. -/
theorem get?_restore_save (ctx now : Context ν) (fields : Fields ν) (k : String) :
    (now.restore (ctx.save fields)).get? k =
      if k ∈ fields.keys then ctx.get? k else now.get? k :=
  get?_restore_map ctx now fields.keys k

end Context

end Patronage.Log
