import DeferredMetrics.Samples
import DeferredMetrics.Scenario.Reply
import DeferredMetrics.Scenario.Step
import DeferredMetrics.Store.Naming
import DeferredMetrics.Store.Outlines

set_option autoImplicit false

/-! # Objects by name

What the names in a step refer to, and how an object that a step gets is named. A meter counts as
*issued* if some deferred provider that is known by a name has it on its list. A name that was made
up for a provider to be shown by does not make it known. -/

namespace DeferredMetrics

namespace Op

/-- The registry of that name. -/
def registryNamed : RegistryName → Op RegistryRef
  | .own name => named Directory.registries name
  | .ofRegistration name => do
      let o ← named Directory.registrations name
      return ((← get).registration o).discovery.registry

/-- The deferred provider of that name. -/
def deferredNamed : DeferredName → Op DeferredProvider
  | .ofRegistration name => do
      let o ← named Directory.registrations name
      match (← get).provider ((← get).registration o).deferred with
      | .deferred p => return p
      | _ => throw (.unnamed name)
  | .own name => do
      match (← get).provider (← providerNamed name) with
      | .deferred p => return p
      | _ => throw (.unnamed name)

/-- The meter that a deferred provider issued at a place of its list. -/
def issuedMeterNamed (provider : DeferredName) (index : Nat) : Op MeterRef := do
  match (← deferredNamed provider).meters[index]? with
  | some m => return m
  | none => throw (.unnamed (toString index))

/-- The instrument of that name. -/
def instrumentNamed (name : String) : Op InstrumentRef := do
  return (← named Directory.instruments name).ref

/-- The meter of that name. -/
def meterNamed (name : String) : Op MeterRef :=
  named Directory.meters name

end Op

namespace Store

/-- The deferred providers that belong to a registration that has a name, and the providers that
have a name and are not strays. -/
def known (s : Store) : List ProviderRef :=
  s.directory.registrations.entries.map (fun e => (s.registration e.2).deferred) ++
    (s.directory.providers.entries.filter fun e => !e.2.stray).map fun e => e.2.ref

/-- The meter was issued by one of the deferred providers that are known. -/
def isIssued (s : Store) (m : MeterRef) : Bool :=
  s.known.any fun p =>
    match s.provider p with
    | .deferred d => d.meters.contains m
    | _ => false

/-- What can be seen of a meter that a deferred provider issued. -/
def issuedMeter (s : Store) (r : MeterRef) : IssuedMeter :=
  let m := s.meter r
  { scope := m.scope
    bound := m.target?.isSome
    target := m.target?.map fun t => (s.meter t).scope
    instruments := m.instruments.map fun i =>
      ((s.instrument i).request.kind, (s.instrument i).request.descriptor)
    outline := m.outline.render }

end Store

namespace Op

/-- Name a meter, and show it. -/
def nameMeter (id : String) (m : MeterRef) : Op Reply := do
  modify fun s => s.updateDirectory fun d => { d with meters := d.meters.insert id m }
  let s ← get
  return .meter (s.meter m).scope (s.isIssued m)

/-- The sample of an integer for an instrument, by its kind. -/
def sampleFor (name : String) (kind : Kind) (value : Int) : Op Sample :=
  match kind with
  | .counter => return .count (UInt64.ofNat value.toNat)
  | .upDownCounter => return .delta (Int64.ofInt value)
  | _ => throw (.unnamed name)

/-- Add an integer to a counter of that name. -/
def addTo (name : String) (value : Int) (attributes : AttributeSet) : Op Unit := do
  let i ← instrumentNamed name
  record i (← sampleFor name ((← get).instrument i).request.kind value) attributes

end Op

end DeferredMetrics
