import DeferredMetrics.Samples

set_option autoImplicit false

/-! # Observations

Observing an instrument asks its callback for a batch, if the end of its chain is an instrument of
a recording meter, and the meter keeps the batch. Any other instrument yields an empty batch and
leaves the callback alone: it discards, it waits for a target, or an SDK decides when to ask. -/

namespace DeferredMetrics

namespace Op

/-- What a callback answers with. -/
def answer : Feed → Op Batch
  | .batch b => return b
  | .absent => return []
  | .panics payload => throw (.panic payload)

/-- Add the samples that a callback adds. -/
def addAll (additions : List Addition) : Op Unit :=
  additions.forM fun a => do
    let i ← named Directory.instruments a.instrument
    record i.ref (.count a.value) a.attributes

/-- Call a callback. -/
def poll (r : CallbackRef) : Op Batch := do
  note (.poll r)
  let c := (← get).callback r
  modify fun s => s.updateCallback r fun c => { c with asked := c.asked + 1 }
  if let some label := c.label then
    see (.polled label c.asked)
  addAll c.additions
  answer (c.feed c.asked)

/-- Observe an instrument. -/
def observe (r : InstrumentRef) : Op Batch := do
  note (.observe r)
  let e ← instrumentEnd r
  let i := (← get).instrument e
  match i.destination, i.request.callback with
  | .log, some c => do
      let batch ← poll c
      modify fun s => s.updateMeter i.issuer fun m =>
        m.keep (batch.map fun x => i.recorded x.value x.attributes)
      return batch
  | _, _ => return []

/-- Have an SDK ask the callbacks that it keeps, in the order in which it got them. -/
def collect (r : ProviderRef) : Op Unit := do
  match (← get).provider r with
  | .sdk p =>
      p.callbacks.forM fun kept => do
        let batch ← poll kept.callback
        batch.forM fun x =>
          see (.sdkObserved kept.instrument kept.name x.value x.attributes.toSdk)
  | _ => return ()

end Op

end DeferredMetrics
