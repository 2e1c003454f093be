import Patronage.Processor.Emulator
/-!
# The registry of processors

The payment processors in use, one for each provider.
-/

namespace Patronage

open Log

/-- The processors in use by provider. -/
structure Registry where
  processors : Assoc Provider Emulator
deriving DecidableEq

/-- Two processors claim the same provider. -/
structure DuplicateProvider where
  provider : Provider
deriving DecidableEq, Repr

/-- What is reported of two processors for one provider. -/
def DuplicateProvider.message (e : DuplicateProvider) : String :=
  "Duplicate processor for provider " ++ e.provider.name

namespace Registry

/-- The registry without processors. -/
def empty : Registry := ⟨.empty⟩

/-- Adds a processor for a provider that has none. -/
def add (r : Registry) (e : Emulator) : Except DuplicateProvider Registry :=
  if r.processors.contains e.provider then .error ⟨e.provider⟩
  else .ok ⟨r.processors.insert e.provider e⟩

/-- The registry of some processors. -/
def ofList (es : List Emulator) : Except DuplicateProvider Registry := es.foldlM add empty

/-- The providers with a processor, in the order of registration. -/
def providers (r : Registry) : List Provider := r.processors.keys

/-- The registry in one line. -/
def summary (r : Registry) : String :=
  "ProcessorRegistry(" ++ ", ".intercalate (r.providers.map (·.name)) ++ ")"

/-- The processor of a provider. -/
def find? (r : Registry) (p : Provider) : Option Emulator := r.processors.get? p

/-- The processor of a provider that must have one. -/
def get (r : Registry) (p : Provider) : Except Fault Emulator :=
  (r.find? p).elim (.error (.notConfigured p)) .ok

/-- The registry after a processor has changed. -/
def set (r : Registry) (p : Provider) (e : Emulator) : Registry := ⟨r.processors.insert p e⟩

/-- What is logged of a new registry. -/
def initialized (r : Registry) : Entry :=
  .info "processor_registry_initialized" [("providers", .texts (r.providers.map (·.name)))]

end Registry

end Patronage
