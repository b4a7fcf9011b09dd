import DeferredMetrics.Observations
import DeferredMetrics.Registration

set_option autoImplicit false

/-! # Threads beside an installation

While one thread installs a provider, others ask for meters and instruments, record and observe.
The installation is split into the steps that others can see: it writes the provider down, locks
and binds the deferred provider, then takes each meter in turn (gets a target for it, locks it,
binds its instruments one by one, binds it and unlocks it), unlocks the deferred provider, and fires
the gate. A request that leads to a locked provider or meter is blocked; everything else goes on at
once. What is done in one step is done by the same operations that do it without other threads. -/

namespace DeferredMetrics

namespace Installation

/-- How many children there are, and how many have been bound. -/
structure Tally where
  total : Nat
  rebound : Nat
deriving DecidableEq, Inhabited

namespace Tally

/-- Nothing of `total` children has been bound yet. -/
def start (total : Nat) : Tally := ⟨total, 0⟩

/-- One child more was tried. -/
def note (t : Tally) (done : Bool) : Tally := if done then
    { t with rebound := t.rebound + 1 } else t

end Tally

/-- How far an installation has come. -/
inductive Phase where
  /-- It has not begun. -/
  | before
  /-- The provider is written down. -/
  | written
  /-- The deferred provider is locked and bound, and some of its meters are still to come. -/
  | meters (tally : Tally) (left : List MeterRef)
  /-- The meter `meter` will be bound to `target`, and is not locked yet. -/
  | asked (meter target : MeterRef) (tally : Tally) (left : List MeterRef)
  /-- The meter `meter` is locked too, and some of its instruments are still to come; it will be
  bound to `target`. -/
  | instruments (meter target : MeterRef) (inner : Tally) (innerLeft : List InstrumentRef)
      (tally : Tally) (left : List MeterRef)
  /-- The meter `meter` is bound, and still locked. -/
  | closing (meter : MeterRef) (inner : Tally) (tally : Tally) (left : List MeterRef)
  /-- Everything is bound and unlocked, and the gate is not fired. -/
  | bound
  /-- It is over, and this is its answer. -/
  | ended (installed : Bool)
deriving DecidableEq, Inhabited

namespace Phase

/-- The deferred provider is locked. -/
def locksProvider : Phase → Bool
  | .meters .. => true
  | .asked .. => true
  | .instruments .. => true
  | .closing .. => true
  | _ => false

/-- The meter that is locked, if one is. -/
def lockedMeter? : Phase → Option MeterRef
  | .instruments meter .. => some meter
  | .closing meter .. => some meter
  | _ => none

/-- A request to the provider `r` leads to the deferred provider `d` while that is locked. -/
def blocksProvider (phase : Phase) (s : Store) (d r : ProviderRef) : Bool :=
  phase.locksProvider && s.providerLeadsTo r d

/-- A request to the meter `r` leads to the meter that is locked. -/
def blocksMeter (phase : Phase) (s : Store) (r : MeterRef) : Bool :=
  phase.lockedMeter?.any fun m => s.meterLeadsTo r m

end Phase

/-- What a thread does in one step. -/
inductive Move where
  /-- The installing thread goes on. -/
  | advance
  /-- A thread asks the deferred provider for a meter. -/
  | requestMeter (scope : Scope)
  /-- A thread that has seen the provider `provider` asks it for a meter. -/
  | requestMeterFrom (provider : ProviderRef) (scope : Scope)
  /-- A thread asks a meter for an instrument. -/
  | requestInstrument (meter : MeterRef) (request : Request)
  /-- A thread looks which provider is registered. -/
  | look
  | record (instrument : InstrumentRef) (sample : Sample) (attributes : AttributeSet)
  | observe (instrument : InstrumentRef)
deriving Inhabited

/-- What a thread gets from a step. -/
inductive Answer where
  /-- The step has to wait for a lock. -/
  | blocked
  | advanced
  | meter (m : MeterRef)
  | instrument (i : InstrumentRef)
  | seen (provider : Option ProviderRef)
  | recorded
  | batch (b : Batch)
  | halted (halt : Halt)
deriving Inhabited

end Installation

namespace Op

open Installation

/-- Try to get something for a child. If that panics, report the child and get nothing. -/
def attempt {α : Type} (child : ChildKind) (name : String) (op : Op α) : Op (Option α) := fun s =>
  match op s with
  | .ok x s => .ok (some x) s
  | .error (.panic payload) s => .ok none (s.log (.childFailed child name payload.reason))
  | .error halt s => .error halt s

/-- The first step for a meter: the provider is asked for a target and the meter is told it, unless
the provider panics. -/
def askForMeter (p : ProviderRef) (m : MeterRef) (tally : Tally) (left : List MeterRef) :
    Op Phase := do
  let meter := (← get).meter m
  match ← attempt .meter meter.scope.name (requestMeter p meter.scope) with
  | none => return .meters tally left
  | some target =>
      note (.bindMeter m target)
      return .asked m target tally left

/-- The second step for a meter: it is locked, unless it has a target. -/
def enterMeter (m target : MeterRef) (tally : Tally) (left : List MeterRef) : Op Phase := do
  let meter := (← get).meter m
  if meter.target?.isSome then
    log (.meterAlreadyBound meter.scope.name)
    return .meters (tally.note true) left
  else
    return .instruments m target (.start meter.instruments.length) meter.instruments tally left

/-- The last step for a meter: it is unlocked. -/
def leaveMeter (m : MeterRef) (inner tally : Tally) (left : List MeterRef) : Op Phase := do
  log (.meterBound ((← get).meter m).scope.name inner.rebound inner.total)
  return .meters (tally.note true) left

/-- The next step of the installation of the provider `p` in the registration `r`. -/
def advance (r : RegistrationRef) (p : ProviderRef) : Phase → Op Phase
  | .before => do
      if ((← get).gate r).fired then
        log .refused
        return .ended false
      else
        modify fun s => s.writeProvider r p
        return .written
  | .written => do
      let d := ((← get).registration r).deferred
      note (.bindProvider d p)
      let q := (← get).provider d
      if q.target?.isSome then
        log .providerAlreadyBound
        return .bound
      else
        modify fun s => s.updateProvider d fun q => q.bind p
        return .meters (.start q.meters.length) q.meters
  | .meters tally [] => do
      log (.providerBound tally.rebound tally.total)
      return .bound
  | .meters tally (m :: left) => askForMeter p m tally left
  | .asked m target tally left => enterMeter m target tally left
  | .instruments m target inner [] tally left => do
      modify fun s => s.updateMeter m fun m => m.bind target
      return .closing m inner tally left
  | .instruments m target inner (i :: innerLeft) tally left => do
      let done ← isolated .instrument (← instrumentName i) (bindInstrument target i)
      return .instruments m target (inner.note done) innerLeft tally left
  | .closing m inner tally left => leaveMeter m inner tally left
  | .bound => do
      log (.installed false)
      modify (Store.withGate r .passed)
      return .ended true
  | .ended installed => return .ended installed

/-- One step of some thread, in the phase of the installation. -/
def move (r : RegistrationRef) (p : ProviderRef) (phase : Phase) : Move → Op (Phase × Answer)
  | .advance => do return (← advance r p phase, .advanced)
  | .requestMeter scope => do
      if phase.locksProvider then return (phase, .blocked)
      else return (phase, .meter (← requestMeter ((← get).registration r).deferred scope))
  | .requestMeterFrom provider scope => do
      let s ← get
      if phase.blocksProvider s (s.registration r).deferred provider then return (phase, .blocked)
      else return (phase, .meter (← requestMeter provider scope))
  | .requestInstrument meter request => do
      if phase.blocksMeter (← get) meter then return (phase, .blocked)
      else return (phase, .instrument (← requestInstrument meter request))
  | .look => do return (phase, .seen (← registered r))
  | .record instrument sample attributes => do
      record instrument sample attributes
      return (phase, .recorded)
  | .observe instrument => do return (phase, .batch (← observe instrument))

end Op

namespace Installation

/-- The phase of an installation and the store. -/
structure Machine where
  phase : Phase
  store : Store

namespace Machine

/-- One step of some thread: what it gets, and the machine afterwards. -/
def step (r : RegistrationRef) (p : ProviderRef) (m : Machine) (x : Move) : Answer × Machine :=
  match Op.move r p m.phase x m.store with
  | .ok (phase, answer) s => (answer, ⟨phase, s⟩)
  | .error halt s => (.halted halt, ⟨m.phase, s⟩)

/-- The steps of a list: what each thread gets, and the machine afterwards. -/
def run (r : RegistrationRef) (p : ProviderRef) :
    Machine → List Move → List Answer × Machine
  | m, [] => ([], m)
  | m, x :: xs =>
      let (answer, m) := m.step r p x
      let (answers, m) := run r p m xs
      (answer :: answers, m)

/-- The installing thread alone, for so many steps. -/
def finish (r : RegistrationRef) (p : ProviderRef) (m : Machine) (steps : Nat) : Machine :=
  (run r p m (List.replicate steps .advance)).2

end Machine

/-! ## Creating while a provider is installed

Some threads each make one request for an instrument while another thread installs. The installing
thread and one of the others step in turn; a request that is blocked is made again. -/

/-- The instruments that the threads get, and the machine when all are through. -/
def createBeside (r : RegistrationRef) (p : ProviderRef) (meter : MeterRef) (request : Request) :
    Nat → Nat → Machine → List InstrumentRef × Machine
  | 0, _, m => ([], m)
  | fuel + 1, pending, m =>
      let m := (m.step r p .advance).2
      match pending with
      | 0 => createBeside r p meter request fuel 0 m
      | left + 1 =>
          let (answer, m) := m.step r p (.requestInstrument meter request)
          match answer with
          | .blocked => createBeside r p meter request fuel (left + 1) m
          | .instrument i =>
              let (is, m) := createBeside r p meter request fuel left m
              (i :: is, m)
          | _ => createBeside r p meter request fuel left m

/-- Enough turns for an installation beside so many threads: four for each meter, one for each
instrument that is there or may come, and some to begin and to end. -/
def turns (s : Store) (threads : Nat) : Nat :=
  4 * s.meters.size + s.instruments.size + 2 * threads + 6

end Installation

end DeferredMetrics
