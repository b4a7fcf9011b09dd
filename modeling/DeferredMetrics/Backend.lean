import DeferredMetrics.Store.Basic

set_option autoImplicit false

/-! # What a recording backend holds

A recording provider is looked at through its meters: for each, in the order in which they were
issued, its scope, the instruments it was asked for, and the events of its log. Sums are taken meter
by meter, over the events of all instruments of one name. -/

namespace DeferredMetrics

/-- What a recording meter holds. -/
structure MeterLog where
  scope : Scope
  created : List (Kind × Descriptor)
  events : List Recorded
deriving DecidableEq, Inhabited

namespace MeterLog

/-- The sum over the events of the instruments of one name. -/
def sum (l : MeterLog) (instrument : String) : Binary64 :=
  Binary64.sum ((l.events.filter fun e => decide (e.instrument = instrument)).map Recorded.value)

end MeterLog

namespace Meter

/-- What the meter holds; nothing, if it is none that keeps what it gets. -/
def log (m : Meter) : MeterLog :=
  match m.body with
  | .recording r => ⟨m.scope, r.created, r.events.toList⟩
  | _ => ⟨m.scope, [], []⟩

end Meter

namespace Store

/-- What the meters of a recording provider hold. -/
def backend (s : Store) (r : ProviderRef) : List MeterLog :=
  (s.provider r).meters.map fun m => (s.meter m).log

/-- The events of all meters, meter by meter. -/
def events (s : Store) (r : ProviderRef) : List Recorded :=
  (s.backend r).flatMap MeterLog.events

/-- The sum of each meter. -/
def meterSums (s : Store) (r : ProviderRef) (instrument : String) : List Binary64 :=
  (s.backend r).map fun l => l.sum instrument

/-- The sum of the sums of the meters. -/
def sum (s : Store) (r : ProviderRef) (instrument : String) : Binary64 :=
  Binary64.sum (s.meterSums r instrument)

/-- What the first meter of a name holds. -/
def meterNamed? (s : Store) (r : ProviderRef) (name : String) : Option MeterLog :=
  (s.backend r).find? fun l => decide (l.scope.name = name)

end Store

end DeferredMetrics
