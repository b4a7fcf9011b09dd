import DeferredMetrics.Event
import DeferredMetrics.Discovery.Factory
import DeferredMetrics.Gate
import DeferredMetrics.Roster
import DeferredMetrics.Store.Table

set_option autoImplicit false

/-! # The objects of a run

Providers give meters, meters give instruments, and each of the three comes in the same kinds: it
discards (`noop`), it keeps what it gets (`recording`), it hands on to an OpenTelemetry SDK (`sdk`),
or it is *deferred*: issued before there is a backend, and bound later, once, to a target that
everything goes to from then on. A registration owns one deferred provider and decides when it is
bound. -/

namespace DeferredMetrics

/-! ## Callbacks -/

/-- What a callback has ready for one call. -/
inductive Feed where
  | batch (b : Batch)
  /-- Nothing this time. -/
  | absent
  | panics (payload : Payload)
deriving Inhabited

/-- A sample that a callback adds to a counter while it runs. -/
structure Addition where
  instrument : String
  value : UInt64
  attributes : AttributeSet
deriving Inhabited

/-- Where the values of observable instruments come from. All instruments that were given one
callback share it, and each call of it, whoever makes it, is the next one. -/
structure Callback where
  /-- The name under which calls are shown, if they are shown. -/
  label : Option String
  /-- What is ready for the `n`-th call. -/
  feed : Nat → Feed
  /-- What each call adds to counters before it answers. -/
  additions : List Addition
  /-- How often it was called. -/
  asked : Nat

instance : Inhabited Callback := ⟨⟨none, fun _ => .absent, [], 0⟩⟩

namespace Callback

/-- A callback that was not called yet. -/
def fresh (label : Option String) (feed : Nat → Feed) (additions : List Addition) : Callback :=
  ⟨label, feed, additions, 0⟩

/-- The calls that are counted for show. -/
def shownCalls (c : Callback) : Nat := if c.label.isSome then c.asked else 0

end Callback

namespace Feed

/-- A list of answers, each given once, in order. -/
def ofList (entries : List Feed) (n : Nat) : Feed := entries.getD n .absent

/-- A list of answers, given in turn without end. -/
def cycle (entries : List Feed) (n : Nat) : Feed := entries.getD (n % entries.length) .absent

/-- The answers of a generator that goes from state to state, from the state `s` on. Nothing keeps
it from answering again after it had nothing. -/
def ofStep {σ : Type} (step : σ → Option Batch × σ) : σ → Nat → Feed
  | s, 0 => match (step s).1 with
      | some b => .batch b
      | none => .absent
  | s, n + 1 => ofStep step (step s).2 n

end Feed

/-! ## Providers -/

/-- What a recording provider does besides recording: it shows the calls that it and its meters get,
and may panic, by the number of calls before and by what is asked for. -/
structure Probe where
  label : String
  /-- The registration it looks at when it is asked for a meter. -/
  peek : Option String
  panicsForMeter : Nat → Scope → Option Payload
  panicsForInstrument : Nat → Descriptor → Option Payload

/-- A provider that keeps its meters. -/
structure RecordingProvider where
  probe : Option Probe
  /-- How many calls the probe has seen. -/
  asked : Nat
  meters : List MeterRef

/-- A provider that waits for its target and keeps the meters that it issued before. -/
structure DeferredProvider where
  target : Option ProviderRef
  meters : List MeterRef

/-- A callback that an SDK keeps, and the instrument of the SDK that it has values for. -/
structure SdkCallback where
  instrument : InstrumentRef
  name : String
  callback : CallbackRef
deriving DecidableEq, Inhabited

/-- A provider over an OpenTelemetry SDK, which may reject instruments and keeps callbacks. -/
structure SdkProvider where
  label : String
  /-- Why an instrument of this name is rejected. -/
  rejects : String → Option String
  /-- The callbacks of its instruments, in the order of creation. -/
  callbacks : List SdkCallback

/-- A provider. -/
inductive Provider where
  | noop
  | recording (p : RecordingProvider)
  | deferred (p : DeferredProvider)
  | sdk (p : SdkProvider)
deriving Inhabited

namespace Provider

/-- A recording provider without meters. -/
def freshRecording (probe : Option Probe) : Provider := .recording ⟨probe, 0, []⟩

/-- A deferred provider without target and meters. -/
def freshDeferred : Provider := .deferred ⟨none, []⟩

/-- The target of a deferred provider that has one. -/
def target? : Provider → Option ProviderRef
  | .deferred p => p.target
  | _ => none

/-- The meters that a provider keeps. -/
def meters : Provider → List MeterRef
  | .recording p => p.meters
  | .deferred p => p.meters
  | _ => []

end Provider

/-! ## Meters -/

/-- A sample or measurement that has reached a recording meter. -/
structure Recorded where
  kind : Kind
  instrument : String
  value : Binary64
  attributes : AttributeSet
deriving DecidableEq, Inhabited

/-- A meter that keeps what was asked of it and what its instruments got. -/
structure RecordingMeter where
  created : List (Kind × Descriptor)
  events : Array Recorded
deriving DecidableEq

/-- A meter that waits for its target and keeps the instruments that it issued before. -/
structure DeferredMeter where
  target : Option MeterRef
  instruments : List InstrumentRef
deriving DecidableEq

/-- What a meter does. -/
inductive MeterBody where
  | noop
  | recording (m : RecordingMeter)
  | deferred (m : DeferredMeter)
  | sdk
deriving DecidableEq, Inhabited

/-- A meter: the scope that it was asked for by, the provider that issued it, unless it stands
alone, and what it does. -/
structure Meter where
  scope : Scope
  issuer : Option ProviderRef
  body : MeterBody
deriving DecidableEq, Inhabited

namespace Meter

/-- The target of a deferred meter that has one. -/
def target? (m : Meter) : Option MeterRef :=
  match m.body with
  | .deferred d => d.target
  | _ => none

/-- The instruments that a deferred meter has issued itself. -/
def instruments (m : Meter) : List InstrumentRef :=
  match m.body with
  | .deferred d => d.instruments
  | _ => []

end Meter

/-! ## Instruments -/

/-- What a caller asks a meter for. -/
structure Request where
  kind : Kind
  descriptor : Descriptor
  /-- Where the values of an observable instrument come from. -/
  callback : Option CallbackRef
deriving DecidableEq, Inhabited

/-- Where samples go and observations come from. -/
inductive Destination where
  | nowhere
  /-- The log of the meter that issued the instrument. -/
  | log
  | deferred (target : Option InstrumentRef)
  | sdk
deriving DecidableEq, Inhabited

/-- An instrument: what it was asked for by, the meter that issued it, and where it leads. -/
structure Instrument where
  request : Request
  issuer : MeterRef
  destination : Destination
deriving DecidableEq, Inhabited

namespace Instrument

/-- The target of a deferred instrument that has one. -/
def target? (i : Instrument) : Option InstrumentRef :=
  match i.destination with
  | .deferred target => target
  | _ => none

end Instrument

/-! ## Registries and registrations -/

/-- What a registry keeps under a name. -/
inductive StoredFactory where
  /-- It makes a provider that discards everything. -/
  | noop
  | program (factory : Factory)
deriving Inhabited

/-- Factories by name. -/
abbrev Registry := Roster StoredFactory

namespace Registry

/-- The name under which every new registry has a factory. -/
def noopName : String := "noop"

/-- A registry with the factory of discarding providers only. -/
def preset : Registry := Roster.empty.insert noopName .noop

end Registry

/-- Where the configuration is read from. -/
inductive Source where
  /-- Values of its own; looking at them is shown. -/
  | settings (values : Roster String)
  /-- The environment of the process. -/
  | environment
deriving Inhabited

/-- How a registration finds a provider in the configuration. -/
structure Discovery where
  key : String
  source : Source
  registry : RegistryRef
deriving Inhabited

namespace Discovery

/-- The key under which the configuration names a provider unless told otherwise. -/
def defaultKey : String := "SPARK_METER_PROVIDER"

end Discovery

/-- The one provider of a program: which it is, whether it was decided, what was issued before, and
how to find one. -/
structure Registration where
  provider : Option ProviderRef
  gate : Gate
  deferred : ProviderRef
  discovery : Discovery
deriving Inhabited

end DeferredMetrics
