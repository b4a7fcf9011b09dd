import DeferredMetrics.Store.Chain

set_option autoImplicit false

/-! # Samples

A sample goes to the end of the chain of its instrument. There it is discarded, kept by a recording
meter, or handed to an SDK. An instrument without a target discards: nothing is kept for later. -/

namespace DeferredMetrics

namespace Meter

/-- The meter with more events in its log, if it is one that keeps them. -/
def keep (m : Meter) (events : List Recorded) : Meter :=
  match m.body with
  | .recording r => { m with body := .recording { r with events := r.events ++ events.toArray } }
  | _ => m

/-- The meter with one instrument more on its list, if it is one that keeps a list. -/
def noteCreated (m : Meter) (kind : Kind) (descriptor : Descriptor) : Meter :=
  match m.body with
  | .recording r =>
      { m with body := .recording { r with created := r.created ++ [(kind, descriptor)] } }
  | _ => m

end Meter

namespace Instrument

/-- What a recording meter keeps of a sample for the instrument. -/
def recorded (i : Instrument) (value : Binary64) (attributes : AttributeSet) : Recorded :=
  ⟨i.request.kind, i.request.descriptor.name, value, attributes⟩

end Instrument

namespace Store

/-- The store after the instrument `r`, the end of its chain, got a sample. -/
def accept (s : Store) (r : InstrumentRef) (sample : Sample) (attributes : AttributeSet) : Store :=
  let i := s.instrument r
  match i.destination with
  | .nowhere => s
  | .deferred _ => s
  | .log => s.updateMeter i.issuer fun m => m.keep [i.recorded sample.toBinary64 attributes]
  | .sdk => s.see (.sdkSample r i.request.descriptor.name sample attributes.toSdk)

end Store

namespace Op

/-- Give a sample to an instrument. -/
def record (r : InstrumentRef) (sample : Sample) (attributes : AttributeSet) : Op Unit := do
  note (.sample r sample attributes)
  let e ← instrumentEnd r
  modify fun s => s.accept e sample attributes

end Op

end DeferredMetrics
