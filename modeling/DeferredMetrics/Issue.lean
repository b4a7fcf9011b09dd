import DeferredMetrics.Store.Chain
import DeferredMetrics.Store.Naming
import DeferredMetrics.Samples
import DeferredMetrics.Text.Quoted

set_option autoImplicit false

/-! # Issuing meters and instruments

A request goes to the end of the chain and is answered there with a new object: providers never give
a meter twice, and meters never an instrument. Recording and deferred ones keep a list of what they
issued. A probe shows a call before it answers it, and an SDK before it rejects it, so a call that
panics can be seen. -/

namespace DeferredMetrics

namespace Provider

/-- The provider with one meter more on its list, if it keeps one. -/
def hold (p : Provider) (m : MeterRef) : Provider :=
  match p with
  | .recording q => .recording { q with meters := q.meters ++ [m] }
  | .deferred q => .deferred { q with meters := q.meters ++ [m] }
  | p => p

/-- The provider with one call more counted by its probe. -/
def countCall (p : Provider) : Provider :=
  match p with
  | .recording q => .recording { q with asked := q.asked + 1 }
  | p => p

/-- The provider with one callback more, if it keeps them. -/
def holdCallback (p : Provider) (c : SdkCallback) : Provider :=
  match p with
  | .sdk q => .sdk { q with callbacks := q.callbacks ++ [c] }
  | p => p

end Provider

namespace Meter

/-- A meter that keeps everything and has nothing yet. -/
def freshRecording (scope : Scope) (issuer : Option ProviderRef) : Meter :=
  ⟨scope, issuer, .recording ⟨[], #[]⟩⟩

/-- A deferred meter without target and instruments. -/
def freshDeferred (scope : Scope) (issuer : ProviderRef) : Meter :=
  ⟨scope, some issuer, .deferred ⟨none, []⟩⟩

/-- The meter with one instrument more on its list, if it is deferred. -/
def hold (m : Meter) (i : InstrumentRef) : Meter :=
  match m.body with
  | .deferred d => { m with body := .deferred { d with instruments := d.instruments ++ [i] } }
  | _ => m

end Meter

namespace Op

/-- Panic if there is something to panic with. -/
def panicIf : Option Payload → Op Unit
  | some payload => throw (.panic payload)
  | none => return ()

/-- Make a provider. -/
def makeProvider (p : Provider) : Op ProviderRef := do
  let r := (← get).providers.next
  modify fun s => s.addProvider p
  return r

/-- Make a meter. -/
def makeMeter (m : Meter) : Op MeterRef := do
  let r := (← get).meters.next
  modify fun s => s.addMeter m
  return r

/-- Make an instrument. -/
def makeInstrument (i : Instrument) : Op InstrumentRef := do
  let r := (← get).instruments.next
  modify fun s => s.addInstrument i
  return r

/-- Make a callback. -/
def makeCallback (c : Callback) : Op CallbackRef := do
  let r := (← get).callbacks.next
  modify fun s => s.addCallback c
  return r

/-- What a probe does when its provider `r` is asked for a meter. -/
def probeMeter (r : ProviderRef) (p : RecordingProvider) (scope : Scope) : Op Unit := do
  if let some probe := p.probe then
    modify fun s => s.updateProvider r Provider.countCall
    see (.meterAsked probe.label scope)
    if let some o := probe.peek.bind (← get).directory.registrations.get? then
      see (.peeked (← identify ((← get).registration o).provider))
    panicIf (probe.panicsForMeter p.asked scope)

/-- What a probe does when a meter of its provider `r` is asked for an instrument. -/
def probeInstrument (r : ProviderRef) (request : Request) : Op Unit := do
  match (← get).provider r with
  | .recording p =>
      if let some probe := p.probe then
        modify fun s => s.updateProvider r Provider.countCall
        see (.instrumentAsked probe.label request.kind request.descriptor)
        panicIf (probe.panicsForInstrument p.asked request.descriptor)
  | _ => return ()

/-- Ask the provider `r`, the end of its chain, for a meter. -/
def issueMeter (r : ProviderRef) (scope : Scope) : Op MeterRef := do
  match (← get).provider r with
  | .noop => makeMeter ⟨scope, some r, .noop⟩
  | .recording p => do
      probeMeter r p scope
      let m ← makeMeter (.freshRecording scope (some r))
      modify fun s => s.updateProvider r fun p => p.hold m
      return m
  | .deferred _ => do
      let m ← makeMeter (.freshDeferred scope r)
      modify fun s => s.updateProvider r fun p => p.hold m
      return m
  | .sdk p => do
      see (.sdkMeter p.label scope)
      makeMeter ⟨scope, some r, .sdk⟩

/-- Ask a provider for a meter. -/
def requestMeter (r : ProviderRef) (scope : Scope) : Op MeterRef := do
  note (.meter r scope)
  let m ← issueMeter (← providerEnd r) scope
  note (.meterReturned m)
  return m

/-- The payload with which a rejected request panics. -/
def rejection (reason : String) : Payload :=
  .text ("called `Result::unwrap()` on an `Err` value: Other(" ++ quote reason ++ ")")

/-- Ask the SDK behind the provider `r` for an instrument, which is the next one to be made. -/
def requestFromSdk (r : ProviderRef) (request : Request) : Op Unit := do
  match (← get).provider r with
  | .sdk p => do
      let name := request.descriptor.name
      see (.sdkInstrument p.label request.kind.sdkBuilder request.descriptor
        request.callback.isSome)
      panicIf ((p.rejects name).map rejection)
      if let some c := request.callback then
        let j := (← get).instruments.next
        modify fun s => s.updateProvider r fun p => p.holdCallback ⟨j, name, c⟩
  | _ => return ()

/-- Ask the meter `r`, the end of its chain, for an instrument. -/
def issueInstrument (r : MeterRef) (request : Request) : Op InstrumentRef := do
  let m := (← get).meter r
  match m.body with
  | .noop => makeInstrument ⟨request, r, .nowhere⟩
  | .recording _ => do
      if let some p := m.issuer then
        probeInstrument p request
      modify fun s => s.updateMeter r fun m => m.noteCreated request.kind request.descriptor
      makeInstrument ⟨request, r, .log⟩
  | .deferred _ => do
      let i ← makeInstrument ⟨request, r, .deferred none⟩
      modify fun s => s.updateMeter r fun m => m.hold i
      return i
  | .sdk => do
      if let some p := m.issuer then
        requestFromSdk p request
      makeInstrument ⟨request, r, .sdk⟩

/-- Ask a meter for an instrument. -/
def requestInstrument (r : MeterRef) (request : Request) : Op InstrumentRef := do
  note (.instrument r request)
  let i ← issueInstrument (← meterEnd r) request
  note (.instrumentReturned i)
  return i

end Op

end DeferredMetrics
