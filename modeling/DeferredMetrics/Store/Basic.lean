import DeferredMetrics.Environment
import DeferredMetrics.Store.Calls

set_option autoImplicit false

/-! # The state of a run

A `Store` holds all objects, the names they have been given, the environment, what could be seen so
far, and which calls were made. Operations are functions from stores to an answer or a `Halt`, and
a new store in either case: what was done before a panic stays done. -/

namespace DeferredMetrics

/-- A named provider; `stray` if the name goes back to one that was made up for a provider without
any, only for it to be shown by. -/
structure NamedProvider where
  ref : ProviderRef
  stray : Bool
deriving DecidableEq, Inhabited

/-- A named instrument; `issued` if its meter issued it as a deferred one. -/
structure NamedInstrument where
  ref : InstrumentRef
  issued : Bool
deriving Inhabited

/-- What the names mean. -/
structure Directory where
  providers : Roster NamedProvider
  meters : Roster MeterRef
  instruments : Roster NamedInstrument
  callbacks : Roster CallbackRef
  registries : Roster RegistryRef
  registrations : Roster RegistrationRef
  /-- How many names were made up for providers without one. -/
  inventions : Nat
deriving Inhabited

namespace Directory

/-- Nothing has a name. -/
def empty : Directory := ⟨.empty, .empty, .empty, .empty, .empty, .empty, 0⟩

end Directory

/-- All objects, their names, the environment, what could be seen, and the calls in order. -/
structure Store where
  providers : Table .provider Provider
  meters : Table .meter Meter
  instruments : Table .instrument Instrument
  callbacks : Table .callback Callback
  registries : Table .registry Registry
  registrations : Table .registration Registration
  environment : Environment
  directory : Directory
  trace : Array Event
  calls : Array Call

namespace Store

/-- A store without objects in the given environment. -/
def initial (environment : Environment) : Store where
  providers := .empty
  meters := .empty
  instruments := .empty
  callbacks := .empty
  registries := .empty
  registrations := .empty
  environment := environment
  directory := .empty
  trace := #[]
  calls := #[]

/-- The store with one more thing seen. -/
def see (s : Store) (e : Event) : Store := { s with trace := s.trace.push e }

/-- The store with one more message logged. -/
def log (s : Store) (m : Message) : Store := s.see (.log m)

/-- The store with one more call written down. -/
def note (s : Store) (c : Call) : Store := { s with calls := s.calls.push c }

/-- The provider that `r` refers to. -/
def provider (s : Store) (r : ProviderRef) : Provider := s.providers.get r

/-- The meter that `r` refers to. -/
def meter (s : Store) (r : MeterRef) : Meter := s.meters.get r

/-- The instrument that `r` refers to. -/
def instrument (s : Store) (r : InstrumentRef) : Instrument := s.instruments.get r

/-- The callback that `r` refers to. -/
def callback (s : Store) (r : CallbackRef) : Callback := s.callbacks.get r

/-- The registry that `r` refers to. -/
def registry (s : Store) (r : RegistryRef) : Registry := s.registries.get r

/-- The registration that `r` refers to. -/
def registration (s : Store) (r : RegistrationRef) : Registration := s.registrations.get r

/-- One provider more. -/
def addProvider (s : Store) (p : Provider) : Store := { s with providers := s.providers.add p }

/-- One meter more. -/
def addMeter (s : Store) (m : Meter) : Store := { s with meters := s.meters.add m }

/-- One instrument more. -/
def addInstrument (s : Store) (i : Instrument) : Store :=
  { s with instruments := s.instruments.add i }

/-- One callback more. -/
def addCallback (s : Store) (c : Callback) : Store := { s with callbacks := s.callbacks.add c }

/-- One registry more. -/
def addRegistry (s : Store) (r : Registry) : Store := { s with registries := s.registries.add r }

/-- One registration more. -/
def addRegistration (s : Store) (r : Registration) : Store :=
  { s with registrations := s.registrations.add r }

/-- The store with one provider changed. -/
def updateProvider (s : Store) (r : ProviderRef) (f : Provider → Provider) : Store :=
  { s with providers := s.providers.update r f }

/-- The store with one meter changed. -/
def updateMeter (s : Store) (r : MeterRef) (f : Meter → Meter) : Store :=
  { s with meters := s.meters.update r f }

/-- The store with one instrument changed. -/
def updateInstrument (s : Store) (r : InstrumentRef) (f : Instrument → Instrument) : Store :=
  { s with instruments := s.instruments.update r f }

/-- The store with one callback changed. -/
def updateCallback (s : Store) (r : CallbackRef) (f : Callback → Callback) : Store :=
  { s with callbacks := s.callbacks.update r f }

/-- The store with one registry changed. -/
def updateRegistry (s : Store) (r : RegistryRef) (f : Registry → Registry) : Store :=
  { s with registries := s.registries.update r f }

/-- The store with one registration changed. -/
def updateRegistration (s : Store) (r : RegistrationRef) (f : Registration → Registration) :
    Store :=
  { s with registrations := s.registrations.update r f }

/-- The store with other names. -/
def updateDirectory (s : Store) (f : Directory → Directory) : Store :=
  { s with directory := f s.directory }

end Store

/-- An operation on the store. -/
abbrev Op := EStateM Halt Store

namespace Op

/-- Show something. -/
def see (e : Event) : Op Unit := modify fun s => s.see e

/-- Log a message. -/
def log (m : Message) : Op Unit := modify fun s => s.log m

/-- Write a call down. -/
def note (c : Call) : Op Unit := modify fun s => s.note c

/-- What is under a name, if anything is. -/
def named {α : Type} (roster : Directory → Roster α) (name : String) : Op α := do
  match (roster (← get).directory).get? name with
  | some x => return x
  | none => throw (.unnamed name)

end Op

end DeferredMetrics
