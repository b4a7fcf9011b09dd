import DeferredMetrics.Store.Basic
import DeferredMetrics.Text.Outline

set_option autoImplicit false

/-! # Outlines of the objects of a run -/

namespace DeferredMetrics

namespace Scope

/-- The outline of a scope. -/
def outline (s : Scope) : Outline :=
  .object "MeterScope"
    [("name", .text s.name), ("version", .optional s.version),
      ("schema_url", .optional s.schemaUrl)] true

end Scope

namespace Descriptor

/-- The outline of a descriptor. -/
def outline (d : Descriptor) : Outline :=
  .object "InstrumentDescriptor"
    [("name", .text d.name), ("unit", .text d.unit), ("description", .text d.description)] true

end Descriptor

namespace Gate

/-- The outline of a gate. -/
def outline (g : Gate) : Outline := .object "OnceGate" [("fired", .flag g.fired)] true

end Gate

namespace Callback

/-- The outline of a callback, which shows nothing of it. -/
def outline : Outline := .object "Callback" [] false

end Callback

namespace Instrument

/-- The outline of a deferred instrument. -/
def outline (i : Instrument) : Outline :=
  .object (if i.request.kind.isObservable then "ProxyObservable" else "ProxyInstrument")
    [("descriptor", i.request.descriptor.outline), ("bound", .flag i.target?.isSome)] true

end Instrument

namespace Meter

/-- The outline of a deferred meter. -/
def outline (m : Meter) : Outline :=
  .object "ProxyMeter"
    [("scope", m.scope.outline), ("bound", .flag m.target?.isSome),
      ("instruments", .count m.instruments.length)] true

end Meter

namespace Provider

/-- The outline of a deferred provider. -/
def outline (p : Provider) : Outline :=
  .object "ProxyMeterProvider"
    [("bound", .flag p.target?.isSome), ("meters", .count p.meters.length)] true

end Provider

namespace Registry

/-- The outline of a registry. -/
def outline (r : Registry) : Outline :=
  .object "ProviderRegistry" [("names", .list (r.names.map .text))] true

end Registry

namespace Store

/-- The outline of the discovery of a registration. -/
def outlineDiscovery (s : Store) (d : Discovery) : Outline :=
  .object "ProviderDiscovery"
    [("key", .text d.key), ("registry", (s.registry d.registry).outline)] false

/-- The outline of a registration. -/
def outlineRegistration (s : Store) (o : Registration) : Outline :=
  .object "RegistrationState"
    [("registered", .flag o.provider.isSome), ("gate", o.gate.outline),
      ("proxy", (s.provider o.deferred).outline), ("discovery", s.outlineDiscovery o.discovery)]
    true

end Store

end DeferredMetrics
