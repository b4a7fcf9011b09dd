import DeferredMetrics.Proofs.Requests

set_option autoImplicit false

/-! # Trying to bind what was issued before

When a deferred provider gets a target, it tries to bind every meter that it issued before, and the
meter every instrument. A trial does not halt, whatever the backend does: a refusal is reported,
and the next child is tried. Here the trials are written out as functions on stores:
`tryInstrument` and `tryMeter` are the stores after one, `instrumentTrial` and `meterTrial` say
what came of it. What is shown by the way makes no difference to them. -/

namespace DeferredMetrics

/-- What came of trying to bind an instrument. -/
structure InstrumentTrial where
  instrument : InstrumentRef
  request : Request
  answer : Except Payload InstrumentRef

/-- What came of trying to bind a meter; its instruments are tried unless the request for the meter
was refused. -/
structure MeterTrial where
  meter : MeterRef
  scope : Scope
  answer : Except Payload MeterRef
  instruments : List InstrumentTrial

namespace Store

/-! ## One meter -/

/-- What comes of trying to bind the instrument `i` to a new one of the meter `t`. -/
def instrumentTrial (s : Store) (t : MeterRef) (i : InstrumentRef) : InstrumentTrial :=
  ⟨i, (s.instrument i).request, s.instrumentAnswer t (s.instrument i).request⟩

/-- The store after trying to bind the instrument `i` to a new one of the meter `t`. -/
def tryInstrument (s : Store) (t : MeterRef) (i : InstrumentRef) : Store :=
  let request := (s.instrument i).request
  let s' := (s.note (.bindInstrument i t)).askInstrument t t request
  match s.instrumentAnswer t request with
  | .ok j => s'.bindInstrument i j
  | .error payload =>
      s'.log (.childFailed .instrument request.descriptor.name payload.reason)

/-- What comes of trying to bind some instruments to new ones of the meter `t`. -/
def instrumentTrials (t : MeterRef) : Store → List InstrumentRef → List InstrumentTrial
  | _, [] => []
  | s, i :: is => s.instrumentTrial t i :: instrumentTrials t (s.tryInstrument t i) is

/-- The store after trying to bind some instruments to new ones of the meter `t`. -/
def tryInstruments (t : MeterRef) (s : Store) (is : List InstrumentRef) : Store :=
  is.foldl (fun s i => s.tryInstrument t i) s

/-- The store after the meter `m`, which has no target yet, was bound to the meter `t`. -/
def bindMeter (s : Store) (m t : MeterRef) : Store :=
  let is := (s.meter m).instruments
  let s' := s.note (.bindMeter m t)
  ((tryInstruments t s' is).updateMeter m fun m => m.bind t).log
    (.meterBound (s.meter m).scope.name
      ((instrumentTrials t s' is).countP fun x => x.answer.isOk) is.length)

/-! ## All meters -/

/-- What comes of trying to bind the meter `m` to a new one of the provider `p` with the end `e`. -/
def meterTrial (s : Store) (p e : ProviderRef) (m : MeterRef) : MeterTrial :=
  let scope := (s.meter m).scope
  ⟨m, scope, s.meterAnswer e scope,
    match s.meterAnswer e scope with
    | .ok t =>
        instrumentTrials t ((s.askMeter p e scope).note (.bindMeter m t)) (s.meter m).instruments
    | .error _ => []⟩

/-- The store after trying to bind the meter `m` to a new one of the provider `p` with the end `e`.
-/
def tryMeter (s : Store) (p e : ProviderRef) (m : MeterRef) : Store :=
  let scope := (s.meter m).scope
  let s' := s.askMeter p e scope
  match s.meterAnswer e scope with
  | .ok t => s'.bindMeter m t
  | .error payload => s'.log (.childFailed .meter scope.name payload.reason)

/-- What comes of trying to bind some meters to new ones of the provider `p` with the end `e`. -/
def meterTrials (p e : ProviderRef) : Store → List MeterRef → List MeterTrial
  | _, [] => []
  | s, m :: ms => s.meterTrial p e m :: meterTrials p e (s.tryMeter p e m) ms

/-- The store after trying to bind some meters to new ones of the provider `p` with the end `e`. -/
def tryMeters (p e : ProviderRef) (s : Store) (ms : List MeterRef) : Store :=
  ms.foldl (fun s m => s.tryMeter p e m) s

/-- The store after the provider `d`, which has no target yet, was bound to the provider `p` with
the end `e`. -/
def bindProvider (s : Store) (d p e : ProviderRef) : Store :=
  let ms := (s.provider d).meters
  let s' := (s.note (.bindProvider d p)).updateProvider d fun q => q.bind p
  (tryMeters p e s' ms).log (.providerBound ((meterTrials p e s' ms).countP fun x => x.answer.isOk)
    ms.length)

end Store

/-! ## What is shown does not matter -/

namespace Shown

variable {s s' : Store} (h : Shown s s')
include h

theorem instrumentAnswer (t : MeterRef) (request : Request) :
    s'.instrumentAnswer t request = s.instrumentAnswer t request := by
  have hnext : s'.instruments.next = s.instruments.next := congrArg Table.next h.instruments
  simp only [Store.instrumentAnswer, Store.instrumentRefusal, h.meter, h.provider, hnext]

theorem meterAnswer (e : ProviderRef) (scope : Scope) :
    s'.meterAnswer e scope = s.meterAnswer e scope := by
  have hnext : s'.meters.next = s.meters.next := congrArg Table.next h.meters
  simp only [Store.meterAnswer, h.provider, hnext]

theorem giveMeter (e : ProviderRef) (scope : Scope) :
    Shown (s.giveMeter e scope) (s'.giveMeter e scope) := by
  have hnext : s'.meters.next = s.meters.next := congrArg Table.next h.meters
  simp only [Store.giveMeter, h.provider, hnext]
  split
  · exact h.updateProvider e _
  · exact ((h.updateProvider e _).addMeter _).updateProvider e _

theorem giveInstrument (t : MeterRef) (request : Request) :
    Shown (s.giveInstrument t request) (s'.giveInstrument t request) := by
  have hnext : s'.instruments.next = s.instruments.next := congrArg Table.next h.instruments
  simp only [Store.giveInstrument, Store.instrumentRefusal, h.meter, h.provider, hnext]
  split
  · exact h.updateIssuer _ _
  · exact (((h.updateIssuer _ _).updateIssuer _ _).updateMeter t _).addInstrument _

theorem askMeter (p e : ProviderRef) (scope : Scope) :
    Shown (s.askMeter p e scope) (s'.askMeter p e scope) := by
  simp only [Store.askMeter, h.meterAnswer]
  exact ((h.note _).giveMeter e scope).noteReturn _ _

theorem askInstrument (m t : MeterRef) (request : Request) :
    Shown (s.askInstrument m t request) (s'.askInstrument m t request) := by
  simp only [Store.askInstrument, h.instrumentAnswer]
  exact ((h.note _).giveInstrument t request).noteReturn _ _

theorem bindInstrument (i j : InstrumentRef) :
    Shown (s.bindInstrument i j) (s'.bindInstrument i j) := by
  simp only [Store.bindInstrument, h.instrument]
  split
  · exact h.log _
  · exact h.updateInstrument i _

theorem instrumentTrial (t : MeterRef) (i : InstrumentRef) :
    s'.instrumentTrial t i = s.instrumentTrial t i := by
  simp only [Store.instrumentTrial, h.instrument, h.instrumentAnswer]

theorem tryInstrument (t : MeterRef) (i : InstrumentRef) :
    Shown (s.tryInstrument t i) (s'.tryInstrument t i) := by
  have hask := (h.note (.bindInstrument i t)).askInstrument t t (s.instrument i).request
  simp only [Store.tryInstrument, h.instrument, h.instrumentAnswer]
  split
  · exact hask.bindInstrument i _
  · exact hask.log _

omit h in
theorem tryInstruments (t : MeterRef) (is : List InstrumentRef) {s s' : Store} (h : Shown s s') :
    Shown (s.tryInstruments t is) (s'.tryInstruments t is) := by
  induction is generalizing s s' with
  | nil => exact h
  | cons i is ih => exact ih (h.tryInstrument t i)

omit h in
theorem instrumentTrials (t : MeterRef) (is : List InstrumentRef) {s s' : Store}
    (h : Shown s s') : s'.instrumentTrials t is = s.instrumentTrials t is := by
  induction is generalizing s s' with
  | nil => rfl
  | cons i is ih =>
      rw [Store.instrumentTrials, Store.instrumentTrials, h.instrumentTrial t i,
        ih (h.tryInstrument t i)]

theorem bindMeter (m t : MeterRef) : Shown (s.bindMeter m t) (s'.bindMeter m t) := by
  have hnote := h.note (.bindMeter m t)
  simp only [Store.bindMeter, h.meter, instrumentTrials t _ hnote]
  exact ((tryInstruments t _ hnote).updateMeter m _).log _

theorem meterTrial (p e : ProviderRef) (m : MeterRef) :
    s'.meterTrial p e m = s.meterTrial p e m := by
  have hask := h.askMeter p e (s.meter m).scope
  have htrials : ∀ t, Store.instrumentTrials t
      ((s'.askMeter p e (s.meter m).scope).note (.bindMeter m t)) (s.meter m).instruments =
      Store.instrumentTrials t
        ((s.askMeter p e (s.meter m).scope).note (.bindMeter m t)) (s.meter m).instruments :=
    fun t => instrumentTrials t _ (hask.note (.bindMeter m t))
  simp only [Store.meterTrial, h.meter, h.meterAnswer, htrials]

theorem tryMeter (p e : ProviderRef) (m : MeterRef) :
    Shown (s.tryMeter p e m) (s'.tryMeter p e m) := by
  have hask := h.askMeter p e (s.meter m).scope
  simp only [Store.tryMeter, h.meter, h.meterAnswer]
  split
  · exact hask.bindMeter m _
  · exact hask.log _

end Shown

namespace ShownUnless

variable {quiet : Prop} {s s' : Store} (h : ShownUnless quiet s s')
include h

theorem bindInstrument (i j : InstrumentRef) :
    ShownUnless quiet (s.bindInstrument i j) (s'.bindInstrument i j) :=
  h.map (f := fun s => s.bindInstrument i j) (h.shown.bindInstrument i j)

theorem tryInstrument (t : MeterRef) (i : InstrumentRef) :
    ShownUnless quiet (s.tryInstrument t i) (s'.tryInstrument t i) :=
  h.map (f := fun s => s.tryInstrument t i) (h.shown.tryInstrument t i)

theorem bindMeter (m t : MeterRef) : ShownUnless quiet (s.bindMeter m t) (s'.bindMeter m t) :=
  h.map (f := fun s => s.bindMeter m t) (h.shown.bindMeter m t)

theorem tryMeter (p e : ProviderRef) (m : MeterRef) :
    ShownUnless quiet (s.tryMeter p e m) (s'.tryMeter p e m) :=
  h.map (f := fun s => s.tryMeter p e m) (h.shown.tryMeter p e m)

end ShownUnless

end DeferredMetrics
