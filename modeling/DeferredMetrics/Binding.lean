import DeferredMetrics.Issue

set_option autoImplicit false

/-! # Binding deferred objects

Binding a deferred provider to its target binds everything below it: each meter to a meter that the
target is asked for by the same scope, and each instrument of the meter to an instrument that the
new meter is asked for by the same request. A child for which the backend panics stays unbound and
is reported, and its siblings are bound all the same. A provider has its target before its meters
get theirs; a meter gets its target after its instruments. No node is bound twice: the first target
stays. -/

namespace DeferredMetrics

namespace Provider

/-- The provider with a target, if it is deferred. -/
def bind (p : Provider) (target : ProviderRef) : Provider :=
  match p with
  | .deferred q => .deferred { q with target := some target }
  | p => p

end Provider

namespace Meter

/-- The meter with a target, if it is deferred. -/
def bind (m : Meter) (target : MeterRef) : Meter :=
  match m.body with
  | .deferred d => { m with body := .deferred { d with target := some target } }
  | _ => m

end Meter

namespace Instrument

/-- The instrument with a target, if it is deferred. -/
def bind (i : Instrument) (target : InstrumentRef) : Instrument :=
  match i.destination with
  | .deferred _ => { i with destination := .deferred (some target) }
  | _ => i

/-- What is logged when a second target is offered to the instrument. -/
def alreadyBound (i : Instrument) : Message :=
  if i.request.kind.isObservable then .observableAlreadyBound i.request.descriptor.name
  else .instrumentAlreadyBound i.request.descriptor.name

end Instrument

namespace Store

/-- The store in which the instrument `r` has the target, unless it has one. -/
def bindInstrument (s : Store) (r target : InstrumentRef) : Store :=
  if (s.instrument r).target?.isSome then s.log (s.instrument r).alreadyBound
  else s.updateInstrument r fun i => i.bind target

end Store

namespace Op

/-- Do something for a child. If it panics, report the child; the answer is whether it did not. -/
def isolated (child : ChildKind) (name : String) (op : Op Unit) : Op Bool := fun s =>
  match op s with
  | .ok _ s => .ok true s
  | .error (.panic payload) s => .ok false (s.log (.childFailed child name payload.reason))
  | .error halt s => .error halt s

/-- Do something for each child in turn, and count for how many it did not panic. -/
def countIsolated {α : Type} (child : ChildKind) (name : α → Op String) (op : α → Op Unit) :
    List α → Op Nat
  | [] => return 0
  | x :: xs => do
      let done ← isolated child (← name x) (op x)
      let rest ← countIsolated child name op xs
      return if done then rest + 1 else rest

/-- The name that an instrument was asked for by. -/
def instrumentName (r : InstrumentRef) : Op String := do
  return ((← get).instrument r).request.descriptor.name

/-- The name that a meter was asked for by. -/
def meterName (r : MeterRef) : Op String := do return ((← get).meter r).scope.name

/-- Bind an instrument to a new one of the meter `target`. -/
def bindInstrument (target : MeterRef) (r : InstrumentRef) : Op Unit := do
  note (.bindInstrument r target)
  let i ← requestInstrument target ((← get).instrument r).request
  modify fun s => s.bindInstrument r i

/-- Bind the meter `r` and its instruments to the meter `target` and new instruments of it. -/
def bindMeter (r target : MeterRef) : Op Unit := do
  note (.bindMeter r target)
  let m := (← get).meter r
  if m.target?.isSome then
    log (.meterAlreadyBound m.scope.name)
  else do
    let rebound ← countIsolated .instrument instrumentName (bindInstrument target) m.instruments
    modify fun s => s.updateMeter r fun m => m.bind target
    log (.meterBound m.scope.name rebound m.instruments.length)

/-- Bind a meter to a new one of the provider `target`. -/
def rebindMeter (target : ProviderRef) (r : MeterRef) : Op Unit := do
  let m ← requestMeter target ((← get).meter r).scope
  bindMeter r m

/-- Bind the provider `r` and everything below it to the provider `target`. -/
def bindProvider (r target : ProviderRef) : Op Unit := do
  note (.bindProvider r target)
  let p := (← get).provider r
  if p.target?.isSome then
    log .providerAlreadyBound
  else do
    modify fun s => s.updateProvider r fun p => p.bind target
    let rebound ← countIsolated .meter meterName (rebindMeter target) p.meters
    log (.providerBound rebound p.meters.length)

end Op

end DeferredMetrics
