import DeferredMetrics.Store.Objects

set_option autoImplicit false

/-! # Calls

Who was asked for what in the course of a run, in order, and which meters and instruments were
returned; a call that panics returns none. Every operation writes its calls down and none reads
them: they are the history that statements about calls speak of. A call counts once, on the object
that it is made on; handing it on along a chain of targets is no further call. -/

namespace DeferredMetrics

/-- A call on an object, or its return. -/
inductive Call where
  /-- A deferred provider is told its target. -/
  | bindProvider (provider target : ProviderRef)
  /-- A deferred meter is told its target. -/
  | bindMeter (meter target : MeterRef)
  /-- A deferred instrument is told to get its target from the meter `source`. -/
  | bindInstrument (instrument : InstrumentRef) (source : MeterRef)
  /-- A provider is asked for a meter. -/
  | meter (provider : ProviderRef) (scope : Scope)
  /-- The call before, for a meter, has returned this one. -/
  | meterReturned (meter : MeterRef)
  /-- A meter is asked for an instrument. -/
  | instrument (meter : MeterRef) (request : Request)
  /-- The call before, for an instrument, has returned this one. -/
  | instrumentReturned (instrument : InstrumentRef)
  /-- An instrument is given a sample. -/
  | sample (instrument : InstrumentRef) (sample : Sample) (attributes : AttributeSet)
  /-- An instrument is observed. -/
  | observe (instrument : InstrumentRef)
  /-- A callback is asked for a batch. -/
  | poll (callback : CallbackRef)
deriving DecidableEq, Inhabited

end DeferredMetrics
