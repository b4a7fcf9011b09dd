import DeferredMetrics.Discovery.Error
import DeferredMetrics.Registration
import DeferredMetrics.Text.Blank

set_option autoImplicit false

/-! # Finding a provider in the configuration

The value of the key, without blanks at its ends, names a factory in the registry; no value and a
blank one name none. Every look-up reads the configuration again and runs the factory again: nothing
is remembered of a failure, and a factory may change registries, configurations and registrations
before it ends. A factory that asks a registry in its turn is one level deeper, and `depth` bounds
how many levels there are. -/

namespace DeferredMetrics

namespace Registry

/-- What is logged when a factory is registered under `name`. -/
def replaced? (r : Registry) (name : String) : Option Message :=
  if r.contains name then some (.factoryReplaced name) else none

end Registry

namespace Source

/-- The source after a value of its own was set or removed. -/
def configure (source : Source) (key : String) (value : Option String) : Source :=
  match source with
  | .settings values =>
      .settings (match value with
        | some v => values.insert key v
        | none => values.erase key)
  | .environment => .environment

end Source

namespace Op

/-- Register a factory, in the place of the one that was there. -/
def register (r : RegistryRef) (name : String) (factory : StoredFactory) : Op Unit := do
  let replaced := ((← get).registry r).replaced? name
  modify fun s => s.updateRegistry r fun g => g.insert name factory
  if let some message := replaced then
    log message

/-- Set or remove a value of the configuration of a registration. -/
def configure (r : RegistrationRef) (key : String) (value : Option String) : Op Unit :=
  modify fun s => s.updateRegistration r fun o =>
    { o with discovery.source := o.discovery.source.configure key value }

/-- The probe of a provider that is named `label`. -/
def probeOf (label : String) (panicMeters panicInstruments : List (String × Payload))
    (peek : Option String) : Probe where
  label := label
  peek := peek
  panicsForMeter _ scope := panicMeters.lookup scope.name
  panicsForInstrument _ descriptor := panicInstruments.lookup descriptor.name

/-- Give the name to a new provider. -/
def makeNamed (name : String) (p : Provider) : Op ProviderRef := do
  let r ← makeProvider p
  modify fun s => s.nameProvider name r
  return r

/-- Make the provider of a description and name it. One that has a name already is a stray under
the new one if it was a stray under the old. -/
def build (name : String) : ProviderSpec → Op ProviderRef
  | .recording => makeNamed name (.freshRecording none)
  | .noop => makeNamed name .noop
  | .deferred => makeNamed name .freshDeferred
  | .deferredOf registration => do
      let o ← named Directory.registrations registration
      let r := ((← get).registration o).deferred
      modify fun s => s.nameProvider name r
      return r
  | .existing other => do
      let p ← named Directory.providers other
      modify fun s => s.enterProvider name p
      return p.ref
  | .probe panicMeters panicInstruments peek =>
      makeNamed name (.freshRecording (some (probeOf name panicMeters panicInstruments peek)))
  | .sdk reject => makeNamed name (.sdk ⟨name, fun i => reject.lookup i, []⟩)

/-- Make the provider that a factory makes: one that is there keeps its names, another gets one. -/
def buildInvented : ProviderSpec → Op ProviderRef
  | .existing other => providerNamed other
  | spec => do build (← invent) spec

/-- How registries are asked for the provider of a factory. The first text is where the name of the
factory comes from, the second is the name. -/
abbrev Asker := RegistryRef → String → String → Op (Except DiscoveryError ProviderRef)

/-- Do one thing that a factory does. A registry that it asks is asked by `ask`. -/
def act (ask : Asker) : FactoryAction → Op Unit
  | .register registry name factory => do
      register (← named Directory.registries registry) name (.program factory)
  | .names registry => do
      let r ← named Directory.registries registry
      see (.names ((← get).registry r).names)
  | .ask registry key name => do
      let _ ← ask (← named Directory.registries registry) key name
  | .offer registration provider => do
      let o ← named Directory.registrations registration
      let p ← providerNamed provider
      see (.offered (← setProvider o p))
  | .registered registration => do
      let o ← named Directory.registrations registration
      see (.registered (← identify (← registered o)))
  | .configure registration key value => do
      configure (← named Directory.registrations registration) key value

/-- End as a factory ends. A registry that it asks is asked by `ask`. -/
def finish (ask : Asker) (name : String) : Outcome → Op (Except DiscoveryError ProviderRef)
  | .panics payload => throw (.panic payload)
  | .fails reason causes => return .error (.factoryFailed name reason causes)
  | .delegates registry key other => do
      match ← ask (← named Directory.registries registry) key other with
      | .ok p => return .ok p
      | .error source => return .error (.factoryRefused name source)
  | .makes spec => return .ok (← buildInvented spec)

/-- Run the factory that is kept under `name`. -/
def runFactory (ask : Asker) (name : String) :
    StoredFactory → Op (Except DiscoveryError ProviderRef)
  | .noop => return .ok (← makeProvider .noop)
  | .program factory => do
      see (.factory name)
      factory.actions.forM (act ask)
      finish ask name factory.outcome

/-- Ask a registry for the provider of the factory `name`; `key` is where the name comes from. -/
def instantiate : Nat → Asker
  | 0, _, _, _ => throw .waiting
  | depth + 1, r, key, name => do
      match ((← get).registry r).get? name with
      | none => return .error (.unknownProvider key name)
      | some factory => runFactory (instantiate depth) name factory

/-- Read a value of the configuration. -/
def lookUp (source : Source) (key : String) : Op (Option String) :=
  match source with
  | .settings values => do
      see (.lookup key)
      return values.get? key
  | .environment => do return (← get).environment.get? key

/-- Make the provider that the configuration names, if it names one. -/
def resolve (depth : Nat) (r : RegistrationRef) :
    Op (Except DiscoveryError (Option ProviderRef)) := do
  let d := ((← get).registration r).discovery
  match ← lookUp d.source d.key with
  | none => return .ok none
  | some value =>
      let name := trim value
      if name.isEmpty then return .ok none
      else return (← instantiate depth d.registry d.key name).map some

/-- The provider in effect: the registered one, else the one that the configuration names, which is
registered then, else the deferred one. -/
def getProvider (depth : Nat) (r : RegistrationRef) : Op (Except DiscoveryError ProviderRef) := do
  if let some p ← registered r then
    return .ok p
  match ← resolve depth r with
  | .error e => return .error e
  | .ok none => return .ok ((← get).registration r).deferred
  | .ok (some p) => do
      let _ ← install r p true
      match ← registered r with
      | some q => return .ok q
      | none => return .ok ((← get).registration r).deferred

/-- A meter of the provider in effect. -/
def getMeter (depth : Nat) (r : RegistrationRef) (scope : Scope) :
    Op (Except DiscoveryError MeterRef) := do
  match ← getProvider depth r with
  | .error e => return .error e
  | .ok p => return .ok (← requestMeter p scope)

end Op

end DeferredMetrics
