import DeferredMetrics.Discovery.Resolve
import DeferredMetrics.Scenario.Races

set_option autoImplicit false

/-! # Doing a step

Each step is one operation of the library, or a look at the store, between names and a reply. -/

namespace DeferredMetrics

namespace Op

/-- How the answer of a discovery is shown. -/
def showFound : Except DiscoveryError (Option ProviderRef) → Op Reply
  | .error e => return .failed e
  | .ok p => do return .identity (← identify p)

/-- Look at a deferred provider and everything below it. -/
def lookAtTree (provider : DeferredName) : Op Reply := do
  let p ← deferredNamed provider
  let target ← identify p.target
  let s ← get
  return .tree
    { bound := p.target.isSome
      target := target
      outline := (Provider.deferred p).outline.render
      meters := p.meters.map s.issuedMeter }

/-- A registration as a step describes it. -/
def registration (id : String) (key : Option String) (source : SourceSpec)
    (registry : Option String) : Op Reply := do
  let g ← match registry with
    | some name => named Directory.registries name
    | none => do
        let g := (← get).registries.next
        modify fun s => s.addRegistry Registry.preset
        pure g
  let key := key.getD Discovery.defaultKey
  let source := match source with
    | .settings values => Source.settings (.ofList values)
    | .environment => .environment
  let o ← makeRegistration ⟨key, source, g⟩
  modify fun s => s.updateDirectory fun d =>
    { d with registrations := d.registrations.insert id o }
  return .registration key ((← get).registry g).names

/-- The callback that an instrument of a kind is created with. -/
def callbackFor (id : String) (kind : Kind) (callback : Option String) : Op (Option CallbackRef) :=
  match kind.isObservable, callback with
  | true, some name => do return some (← named Directory.callbacks name)
  | true, none => throw (.unnamed id)
  | false, _ => return none

/-- Ask a meter for an instrument and name it. -/
def requestNamed (m : MeterRef) (id : String) (request : Request) : Op Reply := do
  let before ← get
  let i ← requestInstrument m request
  let s ← get
  let issued := before.isIssued m &&
    decide ((before.meter m).instruments.length < (s.meter m).instruments.length)
  modify fun s => s.updateDirectory fun d =>
    { d with instruments := d.instruments.insert id ⟨i, issued⟩ }
  return .instrument (s.instrument i).request.descriptor issued

/-- Create an instrument and name it. -/
def create (meter id : String) (kind : Kind) (descriptor : Descriptor)
    (callback : Option String) : Op Reply := do
  let m ← meterNamed meter
  let c ← callbackFor id kind callback
  requestNamed m id ⟨kind, descriptor, c⟩

/-- What is ready for the calls of a callback. -/
def feedOf : CallbackKind → List Feed → Nat → Feed
  | .function, answers => Feed.cycle answers
  | .generator, answers => Feed.ofList answers
  | .list, answers => Feed.ofList answers

/-- A callback as a step describes it. -/
def callbackOf (id : String) (kind : CallbackKind) (answers : List Feed)
    (additions : List Addition) : Callback :=
  match kind with
  | .function => .fresh (some id) (feedOf kind answers) additions
  | .generator => .fresh (some id) (feedOf kind answers) []
  | .list => .fresh none (feedOf kind answers) []

/-- Do what the step says. Offering a provider to the registration `processWide` answers nothing. -/
def perform (depth : Nat) (processWide : Option RegistrationRef) : Step → Op Reply
  | .provider id spec => do
      let _ ← build id spec
      return .nothing
  | .registry id withNoop => do
      let g := (← get).registries.next
      modify fun s => s.addRegistry (if withNoop then Registry.preset else .empty)
      modify fun s => s.updateDirectory fun d => { d with registries := d.registries.insert id g }
      let s ← get
      return .registry (s.registry g).names (s.registry g).outline.render
  | .register registry name factory => do
      register (← registryNamed registry) name (.program factory)
      return .nothing
  | .names registry => do
      let g ← registryNamed registry
      return .names ((← get).registry g).names
  | .contains registry name => do
      let g ← registryNamed registry
      return .flag (((← get).registry g).contains name)
  | .instantiate registry key name => do
      showFound ((← instantiate depth (← registryNamed registry) key name).map some)
  | .outlineRegistry registry => do
      let g ← registryNamed registry
      return .text ((← get).registry g).outline.render
  | .registration id key source registry => registration id key source registry
  | .configure registration key value => do
      configure (← named Directory.registrations registration) key value
      return .nothing
  | .resolve registration => do
      showFound (← resolve depth (← named Directory.registrations registration))
  | .getProvider registration => do
      showFound ((← getProvider depth (← named Directory.registrations registration)).map some)
  | .setProvider registration provider => do
      let o ← named Directory.registrations registration
      let won ← setProvider o (← providerNamed provider)
      return if processWide = some o then .nothing else .flag won
  | .registered registration => do
      let p ← registered (← named Directory.registrations registration)
      return .identity (← identify p)
  | .outline registration => do
      let o ← named Directory.registrations registration
      let s ← get
      return .text (s.outlineRegistration (s.registration o)).render
  | .outlineDiscovery registration => do
      let o ← named Directory.registrations registration
      let s ← get
      return .text (s.outlineDiscovery (s.registration o).discovery).render
  | .tree provider => lookAtTree provider
  | .getMeter registration id scope => do
      match ← getMeter depth (← named Directory.registrations registration) scope with
      | .ok m => nameMeter id m
      | .error e => return .failed e
  | .meter provider id scope => do
      nameMeter id (← requestMeter (← providerNamed provider) scope)
  | .noopMeter id scope => do nameMeter id (← makeMeter ⟨scope, none, .noop⟩)
  | .recordingMeter id scope => do nameMeter id (← makeMeter (.freshRecording scope none))
  | .issuedMeter provider index id => do nameMeter id (← issuedMeterNamed provider index)
  | .meterTarget provider index id => do
      let m ← issuedMeterNamed provider index
      match ((← get).meter m).target? with
      | some target => nameMeter id target
      | none => return .nothing
  | .scope meter => do
      let m ← meterNamed meter
      return .scope ((← get).meter m).scope
  | .create meter id kind descriptor callback => create meter id kind descriptor callback
  | .add instrument value attributes => do
      addTo instrument value attributes
      return .nothing
  | .increment instrument attributes => do
      addTo instrument 1 attributes
      return .nothing
  | .record instrument value attributes => do
      record (← instrumentNamed instrument) (.value value) attributes
      return .nothing
  | .observe instrument => do return .batch (← observe (← instrumentNamed instrument))
  | .descriptor instrument => do
      let i ← instrumentNamed instrument
      return .descriptor ((← get).instrument i).request.descriptor
  | .bound instrument => do
      let named ← named Directory.instruments instrument
      let s ← get
      let i := s.instrument named.ref
      if named.issued then
        return .bound i.target?.isSome i.outline.render
          (i.target?.map fun t => (s.instrument t).request.descriptor)
      else return .nothing
  | .instrumentTarget instrument id => do
      let named ← named Directory.instruments instrument
      if named.issued then
        match ((← get).instrument named.ref).target? with
        | some target => do
            modify fun s => s.updateDirectory fun d =>
              { d with instruments := d.instruments.insert id ⟨target, false⟩ }
            return .flag true
        | none => return .flag false
      else return .nothing
  | .callback id kind answers additions => do
      let c ← makeCallback (callbackOf id kind answers additions)
      modify fun s => s.updateDirectory fun d => { d with callbacks := d.callbacks.insert id c }
      return .nothing
  | .poll callback => do
      let batch ← poll (← named Directory.callbacks callback)
      return .polled batch Callback.outline.render
  | .polls callback => do
      let c ← named Directory.callbacks callback
      return .count ((← get).callback c).shownCalls
  | .parallelAdd instrument threads n value => do
      repeatedly (addTo instrument value .empty) (threads * n)
      return .nothing
  | .race registration threads winner => race registration threads winner
  | .raceCreate registration meter threads provider =>
      raceCreate registration meter threads provider
  | .backend provider => do
      let p ← providerNamed provider
      return .backend ((← get).backend p)
  | .events provider => do
      let p ← providerNamed provider
      return .events ((← get).events p)
  | .sum provider name => do
      let p ← providerNamed provider
      return .number ((← get).sum p name)
  | .meterSums provider name => do
      let p ← providerNamed provider
      return .numbers ((← get).meterSums p name)
  | .meterNamed provider name => do
      let p ← providerNamed provider
      match (← get).meterNamed? p name with
      | some l => return .backendMeter l
      | none => return .nothing
  | .meterLog meter => do
      let m ← meterNamed meter
      return .meterLog ((← get).meter m).log
  | .meterSum meter name => do
      let m ← meterNamed meter
      return .number (((← get).meter m).log.sum name)
  | .collect provider => do
      collect (← providerNamed provider)
      return .nothing

end Op

end DeferredMetrics
