import DeferredMetrics.Scenario.Run

set_option autoImplicit false

/-! # Ledgers

What a recording backend has to hold after a program of requests and samples, told as if nothing
were ever deferred: a `Ledger` is the list of the logs of the meters in the order in which they
were asked for, and a name of a meter or an instrument stands for a place in that list. A program
is a list of steps that ask a registration or its deferred provider for meters, meters for
instruments, and give samples to instruments (`Step.handles`); `Ledger.step` does such a step to a
ledger. -/

namespace DeferredMetrics

/-! ## Programs -/

namespace Step

/-- The step asks for a meter of the registration `r` or of its deferred provider `d`, asks a meter
for an instrument, or gives an instrument a sample or observes it. -/
def handles (names : Directory) (r : RegistrationRef) (d : ProviderRef) : Step → Bool
  | .getMeter name _ _ => decide (names.registrations.get? name = some r)
  | .meter name _ _ => decide ((names.providers.get? name).map NamedProvider.ref = some d)
  | .create .. => true
  | .add .. => true
  | .increment .. => true
  | .record .. => true
  | .observe .. => true
  | _ => false

/-- The step gives an instrument a sample or observes it. -/
def samples : Step → Bool
  | .add .. => true
  | .increment .. => true
  | .record .. => true
  | .observe .. => true
  | _ => false

end Step

/-! ## What a ledger holds -/

/-- An instrument of a ledger: the place of its meter, and what it was asked for by. -/
structure Booked where
  meter : Nat
  request : Request

/-- The logs of meters in order, what the names of meters, instruments and callbacks mean, and what
could be seen. -/
structure Ledger where
  meters : List MeterLog
  meterNames : Roster Nat
  instrumentNames : Roster Booked
  callbacks : Table .callback Callback
  callbackNames : Roster CallbackRef
  trace : Array Event

namespace MeterLog

/-- The log with more events. -/
def keep (l : MeterLog) (events : List Recorded) : MeterLog :=
  { l with events := l.events ++ events }

/-- The log with one instrument more. -/
def create (l : MeterLog) (request : Request) : MeterLog :=
  { l with created := l.created ++ [(request.kind, request.descriptor)] }

end MeterLog

namespace Booked

/-- What the meter keeps of a sample for the instrument. -/
def recorded (i : Booked) (value : Binary64) (attributes : AttributeSet) : Recorded :=
  ⟨i.request.kind, i.request.descriptor.name, value, attributes⟩

end Booked

namespace Ledger

/-- The ledger without meters, with the callbacks of a store. -/
def blank (s : Store) : Ledger := ⟨[], .empty, .empty, s.callbacks, s.directory.callbacks, #[]⟩

/-- The ledger with one meter more, which gets a name. -/
def addMeter (a : Ledger) (id : String) (scope : Scope) : Ledger :=
  { a with
    meters := a.meters ++ [⟨scope, [], []⟩]
    meterNames := a.meterNames.insert id a.meters.length }

/-- The ledger with one instrument more, which gets a name. -/
def addInstrument (a : Ledger) (id : String) (i : Booked) : Ledger :=
  { a with
    meters := a.meters.modify i.meter fun l => l.create i.request
    instrumentNames := a.instrumentNames.insert id i }

/-- The ledger after a meter has kept some events. -/
def keep (a : Ledger) (k : Nat) (events : List Recorded) : Ledger :=
  { a with meters := a.meters.modify k fun l => l.keep events }

/-- The ledger with one more thing seen. -/
def see (a : Ledger) (e : Event) : Ledger := { a with trace := a.trace.push e }

/-- The ledger after a callback was called. -/
def ask (a : Ledger) (c : CallbackRef) : Ledger :=
  { a with callbacks := a.callbacks.update c fun x => { x with asked := x.asked + 1 } }

end Ledger

/-! ## What a program does to a ledger -/

/-- An operation on a ledger. -/
abbrev Booking := EStateM Halt Ledger

namespace Booking

/-- What is under a name, if anything is. -/
def named {α : Type} (roster : Ledger → Roster α) (name : String) : Booking α := do
  match (roster (← get)).get? name with
  | some x => return x
  | none => throw (.unnamed name)

/-- Ask for a meter. -/
def addMeter (id : String) (scope : Scope) : Booking Reply := do
  modify fun a => a.addMeter id scope
  return .meter scope false

/-- The callback that an instrument of a kind is created with. -/
def callbackFor (id : String) (kind : Kind) (callback : Option String) :
    Booking (Option CallbackRef) :=
  match kind.isObservable, callback with
  | true, some name => do return some (← named Ledger.callbackNames name)
  | true, none => throw (.unnamed id)
  | false, _ => return none

/-- Ask a meter for an instrument and name it. -/
def requestNamed (id : String) (i : Booked) : Booking Reply := do
  modify fun a => a.addInstrument id i
  return .instrument i.request.descriptor false

/-- Ask the meter of a name for an instrument and name it. -/
def create (meter id : String) (kind : Kind) (descriptor : Descriptor) (callback : Option String) :
    Booking Reply := do
  let k ← named Ledger.meterNames meter
  let c ← callbackFor id kind callback
  requestNamed id ⟨k, kind, descriptor, c⟩

/-- Give a sample to an instrument. -/
def record (i : Booked) (sample : Sample) (attributes : AttributeSet) : Booking Unit :=
  modify fun a => a.keep i.meter [i.recorded sample.toBinary64 attributes]

/-- The sample of an integer for an instrument, by its kind. -/
def sampleFor (name : String) (kind : Kind) (value : Int) : Booking Sample :=
  match kind with
  | .counter => return .count (UInt64.ofNat value.toNat)
  | .upDownCounter => return .delta (Int64.ofInt value)
  | _ => throw (.unnamed name)

/-- Add an integer to the counter of a name. -/
def addTo (name : String) (value : Int) (attributes : AttributeSet) : Booking Unit := do
  let i ← named Ledger.instrumentNames name
  record i (← sampleFor name i.request.kind value) attributes

/-- Add the samples that a callback adds. -/
def addAll (additions : List Addition) : Booking Unit :=
  additions.forM fun x => do
    let i ← named Ledger.instrumentNames x.instrument
    record i (.count x.value) x.attributes

/-- What a callback answers with. -/
def answer : Feed → Booking Batch
  | .batch b => return b
  | .absent => return []
  | .panics payload => throw (.panic payload)

/-- Call a callback. -/
def poll (r : CallbackRef) : Booking Batch := do
  let c := (← get).callbacks.get r
  modify fun a => a.ask r
  if let some label := c.label then
    modify fun a => a.see (.polled label c.asked)
  addAll c.additions
  answer (c.feed c.asked)

/-- Observe an instrument. -/
def observe (i : Booked) : Booking Batch := do
  match i.request.callback with
  | some c => do
      let batch ← poll c
      modify fun a => a.keep i.meter (batch.map fun x => i.recorded x.value x.attributes)
      return batch
  | none => return []

/-- Do a step of a program. -/
def perform : Step → Booking Reply
  | .getMeter _ id scope => addMeter id scope
  | .meter _ id scope => addMeter id scope
  | .create meter id kind descriptor callback => create meter id kind descriptor callback
  | .add instrument value attributes => do
      addTo instrument value attributes
      return .nothing
  | .increment instrument attributes => do
      addTo instrument 1 attributes
      return .nothing
  | .record instrument value attributes => do
      record (← named Ledger.instrumentNames instrument) (.value value) attributes
      return .nothing
  | .observe instrument => do
      return .batch (← observe (← named Ledger.instrumentNames instrument))
  | _ => return .nothing

end Booking

namespace Ledger

/-- The ledger with nothing seen. -/
def clear (a : Ledger) : Ledger := { a with trace := #[] }

/-- A step with an empty trace: the reply, what was seen, and the ledger that is left. -/
def step (a : Ledger) (x : Step) : (Reply × List Event) × Ledger :=
  match Booking.perform x a.clear with
  | .ok reply a => ((reply, a.trace.toList), a)
  | .error halt a => ((.halted halt, a.trace.toList), a)

/-- The ledger that steps leave. -/
def after (a : Ledger) (steps : List Step) : Ledger := steps.foldl (fun a x => (a.step x).2) a

/-- The replies of steps from a ledger on. -/
def runFrom : Ledger → List Step → List (Reply × List Event)
  | _, [] => []
  | a, x :: xs => (a.step x).1 :: runFrom (a.step x).2 xs

end Ledger

end DeferredMetrics
