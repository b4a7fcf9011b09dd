import DeferredMetrics.Proofs.Running
import DeferredMetrics.Scenario.Run

set_option autoImplicit false

/-! # Traits of operations

All operations are put together from looks at the store and changes of it, in a few ways. A `Trait`
is a property of operations that holds of these looks and changes and is kept by these ways, and so
it holds of every operation. Three things are asked of looks and changes here: they take no notice
of the calls made so far (`Store.recall`), and changes leave registries alone (`Apart`) and read no
configuration (`Store.lookUps`). Of what is done at registries, and of the reading of a
configuration, a trait says for itself whether it has them (`CoversRegistries`, `Discovers`). -/

namespace DeferredMetrics

/-- The store in which the calls `past` were made before all others. -/
def Store.recall (past : Array Call) (s : Store) : Store := { s with calls := past ++ s.calls }

/-- The event shows what happens at a registry. -/
def Event.ofRegistry : Event → Bool
  | .log (.factoryReplaced _) => true
  | .factory _ => true
  | .names _ => true
  | _ => false

/-- What has been seen of registries. -/
def Store.registryEvents (s : Store) : List Event := s.trace.toList.filter Event.ofRegistry

/-- From one store to the other nothing has happened at registries. -/
structure Apart (s s' : Store) : Prop where
  registries : s'.registries = s.registries
  events : s'.registryEvents = s.registryEvents

/-- The key that a configuration was asked for. -/
def Event.lookedUp? : Event → Option String
  | .lookup key => some key
  | _ => none

/-- The keys that configurations were seen to be asked for, in order. -/
def Store.lookUps (s : Store) : List String := s.trace.toList.filterMap Event.lookedUp?

/-- The event shows neither what happens at a registry nor that a configuration is read. -/
def Event.isPlain (e : Event) : Bool := !e.ofRegistry && e.lookedUp?.isNone

/-- The change takes no notice of calls, leaves registries alone and reads no configuration. -/
structure Plain (f : Store → Store) : Prop where
  forgets : ∀ past s, f (s.recall past) = (f s).recall past
  apart : ∀ s, Apart s (f s)
  lookUps : ∀ s, (f s).lookUps = s.lookUps

namespace Plain

theorem note (c : Call) : Plain fun s => s.note c :=
  ⟨fun past s => by simp only [Store.note, Store.recall, Array.append_push], fun _ => ⟨rfl, rfl⟩,
    fun _ => rfl⟩

theorem see {e : Event} (he : e.isPlain = true) : Plain fun s => s.see e := by
  obtain ⟨hregistry, hkey⟩ : e.ofRegistry = false ∧ e.lookedUp? = none := by
    simpa [Event.isPlain] using he
  exact ⟨fun _ _ => rfl, fun s => ⟨rfl, by simp [Store.registryEvents, Store.see, hregistry]⟩,
    fun s => by simp [Store.lookUps, Store.see, hkey]⟩

theorem addProvider (p : Provider) : Plain fun s => s.addProvider p :=
  ⟨fun _ _ => rfl, fun _ => ⟨rfl, rfl⟩, fun _ => rfl⟩

theorem addMeter (m : Meter) : Plain fun s => s.addMeter m :=
  ⟨fun _ _ => rfl, fun _ => ⟨rfl, rfl⟩, fun _ => rfl⟩

theorem addInstrument (i : Instrument) : Plain fun s => s.addInstrument i :=
  ⟨fun _ _ => rfl, fun _ => ⟨rfl, rfl⟩, fun _ => rfl⟩

theorem addCallback (c : Callback) : Plain fun s => s.addCallback c :=
  ⟨fun _ _ => rfl, fun _ => ⟨rfl, rfl⟩, fun _ => rfl⟩

theorem addRegistration (o : Registration) : Plain fun s => s.addRegistration o :=
  ⟨fun _ _ => rfl, fun _ => ⟨rfl, rfl⟩, fun _ => rfl⟩

theorem updateProvider (r : ProviderRef) (f : Provider → Provider) :
    Plain fun s => s.updateProvider r f := ⟨fun _ _ => rfl, fun _ => ⟨rfl, rfl⟩, fun _ => rfl⟩

theorem updateMeter (r : MeterRef) (f : Meter → Meter) : Plain fun s => s.updateMeter r f :=
  ⟨fun _ _ => rfl, fun _ => ⟨rfl, rfl⟩, fun _ => rfl⟩

theorem updateCallback (r : CallbackRef) (f : Callback → Callback) :
    Plain fun s => s.updateCallback r f := ⟨fun _ _ => rfl, fun _ => ⟨rfl, rfl⟩, fun _ => rfl⟩

theorem updateRegistration (r : RegistrationRef) (f : Registration → Registration) :
    Plain fun s => s.updateRegistration r f := ⟨fun _ _ => rfl, fun _ => ⟨rfl, rfl⟩, fun _ => rfl⟩

theorem updateDirectory (f : Directory → Directory) : Plain fun s => s.updateDirectory f :=
  ⟨fun _ _ => rfl, fun _ => ⟨rfl, rfl⟩, fun _ => rfl⟩

theorem enterProvider (name : String) (q : NamedProvider) : Plain fun s => s.enterProvider name q :=
  updateDirectory _

theorem accept (r : InstrumentRef) (sample : Sample) (attributes : AttributeSet) :
    Plain fun s => s.accept r sample attributes := by
  refine ⟨fun past s => ?_, fun s => ?_, fun s => ?_⟩
  · simp only [Store.accept]
    rw [show (s.recall past).instrument r = s.instrument r from rfl]
    cases (s.instrument r).destination <;> rfl
  · simp only [Store.accept]
    cases (s.instrument r).destination with
    | sdk => exact (see rfl).apart s
    | _ => exact ⟨rfl, rfl⟩
  · simp only [Store.accept]
    cases (s.instrument r).destination with
    | sdk => exact (see rfl).lookUps s
    | _ => rfl

theorem bindInstrument (r target : InstrumentRef) : Plain fun s => s.bindInstrument r target := by
  have hmessage : ∀ i : Instrument, (Event.log i.alreadyBound).isPlain = true := by
    intro i
    unfold Instrument.alreadyBound
    split <;> rfl
  refine ⟨fun past s => ?_, fun s => ?_, fun s => ?_⟩
  · unfold Store.bindInstrument
    rw [show (s.recall past).instrument r = s.instrument r from rfl]
    split <;> rfl
  · unfold Store.bindInstrument
    split
    · exact (see (hmessage _)).apart s
    · exact ⟨rfl, rfl⟩
  · unfold Store.bindInstrument
    split
    · exact (see (hmessage _)).lookUps s
    · rfl

end Plain

/-- A property of operations that is kept by the ways in which operations are put together. -/
structure Trait where
  Has : ∀ {α : Type}, Op α → Prop
  pure : ∀ {α : Type} (a : α), Has (pure a : Op α)
  throw : ∀ {α : Type} (halt : Halt), Has (throw halt : Op α)
  modify : ∀ {f : Store → Store}, Plain f → Has (modify f : Op Unit)
  bind : ∀ {α β : Type} {op : Op α} {f : α → Op β}, Has op → (∀ a, Has (f a)) → Has (op >>= f)
  look : ∀ {β : Type} {f : Store → Op β}, (∀ past s, f (s.recall past) = f s) →
    (∀ s, Has (f s)) → Has (get >>= f)
  attempt : ∀ {α : Type} {op : Op α} (child : ChildKind) (name : String), Has op →
    Has (Op.attempt child name op)

theorem Trait.Has.bind {T : Trait} {α β : Type} {op : Op α} {f : α → Op β} (h : T.Has op)
    (hf : ∀ a, T.Has (f a)) : T.Has (op >>= f) :=
  T.bind h hf

/-- What changes that are plain keep from one store to the other is kept by operations. -/
def Trait.keeping (R : Store → Store → Prop) (hrefl : ∀ s, R s s)
    (htrans : ∀ {s s' s''}, R s s' → R s' s'' → R s s'')
    (hplain : ∀ {f : Store → Store}, Plain f → ∀ s, R s (f s)) : Trait where
  Has op := ∀ s, R s (op.left s)
  pure _ := hrefl
  throw _ := hrefl
  modify := hplain
  bind {α β op f} h hf := by
    intro s
    have hop := h s
    cases hrun : op s with
    | ok a s' =>
        rw [Op.left_of_ok hrun] at hop
        rw [Op.left_bind_of_ok hrun]
        exact htrans hop (hf a s')
    | error halt s' =>
        rw [Op.left_of_error hrun] at hop
        rw [Op.left_bind_of_error hrun]
        exact hop
  look _ h := fun s => h s s
  attempt {α op} child name h := by
    intro s
    have hop := h s
    unfold Op.left Op.attempt
    unfold Op.left at hop
    cases hrun : op s with
    | ok a s' =>
        rw [hrun] at hop
        exact hop
    | error halt s' =>
        rw [hrun] at hop
        cases halt with
        -- a panic is caught and logged
        | panic payload => exact htrans hop (hplain (.see rfl) s')
        | _ => exact hop

/-- What the factory does is done at a registry. -/
def FactoryAction.ofRegistry : FactoryAction → Bool
  | .register .. => true
  | .names _ => true
  | .ask .. => true
  | _ => false

namespace Op

variable {T : Trait} {α β : Type}

theorem has_forM {f : α → Op Unit} {l : List α} (h : ∀ a, T.Has (f a)) : T.Has (l.forM f) := by
  induction l with
  | nil => exact T.pure ()
  | cons a l ih => exact (h a).bind fun _ => ih

theorem has_see {e : Event} (he : e.isPlain = true) : T.Has (see e) := T.modify (.see he)

theorem has_log {m : Message} (hm : (Event.log m).isPlain = true) : T.Has (log m) := has_see hm

theorem has_note (c : Call) : T.Has (note c) := T.modify (.note c)

theorem has_named (roster : Directory → Roster α) (name : String) :
    T.Has (named roster name) := by
  refine T.look (fun _ _ => rfl) fun s => ?_
  cases (roster s.directory).get? name with
  | some x => exact T.pure x
  | none => exact T.throw _

theorem has_orWait (x : Option α) : T.Has (orWait x) := by
  cases x with
  | some x => exact T.pure x
  | none => exact T.throw _

/-- What is looked up before a change is the answer. -/
theorem has_get_modify {x : Store → α} {f : Store → Store}
    (hx : ∀ past s, x (s.recall past) = x s) (hf : Plain f) :
    T.Has (get >>= fun s => (modify f : Op Unit) >>= fun _ => pure (x s)) := by
  refine T.look (fun past s => ?_) fun s => ?_
  · rw [hx past s]
  · exact (T.modify hf).bind fun _ => T.pure _

/-! ## Requests -/

theorem has_invent : T.Has invent :=
  has_get_modify (fun _ _ => rfl) (.updateDirectory _)

theorem has_identify (p : Option ProviderRef) : T.Has (identify p) := by
  cases p with
  | none => exact T.pure _
  | some r =>
      refine T.look (fun _ _ => rfl) fun s => ?_
      split
      · exact T.pure _
      · split
        · exact T.pure _
        · exact has_invent.bind fun _ =>
            (T.modify (.enterProvider _ ⟨r, true⟩)).bind fun _ => T.pure _

theorem has_panicIf (payload : Option Payload) : T.Has (panicIf payload) := by
  cases payload with
  | some payload => exact T.throw _
  | none => exact T.pure ()

theorem has_makeProvider (p : Provider) : T.Has (makeProvider p) :=
  has_get_modify (fun _ _ => rfl) (.addProvider _)

theorem has_makeMeter (m : Meter) : T.Has (makeMeter m) :=
  has_get_modify (fun _ _ => rfl) (.addMeter _)

theorem has_makeInstrument (i : Instrument) : T.Has (makeInstrument i) :=
  has_get_modify (fun _ _ => rfl) (.addInstrument _)

theorem has_makeCallback (c : Callback) : T.Has (makeCallback c) :=
  has_get_modify (fun _ _ => rfl) (.addCallback _)

theorem has_probeMeter (r : ProviderRef) (p : RecordingProvider) (scope : Scope) :
    T.Has (probeMeter r p scope) := by
  unfold probeMeter
  cases p.probe with
  | none => exact T.pure ()
  | some probe =>
      refine (T.modify (.updateProvider r _)).bind fun _ => (has_see rfl).bind fun _ => ?_
      refine T.look (fun _ _ => rfl) fun s => ?_
      cases probe.peek.bind s.directory.registrations.get? with
      | none => exact has_panicIf _
      | some o =>
          refine T.look (fun _ _ => rfl) fun s => ?_
          exact (has_identify _).bind fun _ =>
            (has_see rfl).bind fun _ => has_panicIf _

theorem has_probeInstrument (r : ProviderRef) (request : Request) :
    T.Has (probeInstrument r request) := by
  refine T.look (fun _ _ => rfl) fun s => ?_
  cases s.provider r with
  | recording p =>
      simp only
      cases p.probe with
      | none => exact T.pure ()
      | some probe =>
          exact (T.modify (.updateProvider r _)).bind fun _ =>
            (has_see rfl).bind fun _ => has_panicIf _
  | _ => exact T.pure ()

theorem has_issueMeter (r : ProviderRef) (scope : Scope) : T.Has (issueMeter r scope) := by
  refine T.look (fun _ _ => rfl) fun s => ?_
  have hmake : ∀ m, T.Has (makeMeter m >>= fun k =>
      (modify fun s => s.updateProvider r fun p => p.hold k : Op Unit) >>= fun _ => pure k) :=
    fun m => (has_makeMeter m).bind fun k =>
      (T.modify (.updateProvider r _)).bind fun _ => T.pure k
  cases s.provider r with
  | noop => exact has_makeMeter _
  | recording p => exact (has_probeMeter r p scope).bind fun _ => hmake _
  | deferred p => exact hmake _
  | sdk p => exact (has_see rfl).bind fun _ => has_makeMeter _

theorem has_requestMeter (r : ProviderRef) (scope : Scope) :
    T.Has (requestMeter r scope) := by
  refine (has_note _).bind fun _ => ?_
  refine (T.look (fun _ _ => rfl) fun s => has_orWait _).bind fun e => ?_
  exact (has_issueMeter e scope).bind fun m =>
    (has_note _).bind fun _ => T.pure m

theorem has_requestFromSdk (r : ProviderRef) (request : Request) :
    T.Has (requestFromSdk r request) := by
  refine T.look (fun _ _ => rfl) fun s => ?_
  cases s.provider r with
  | sdk p =>
      refine (has_see rfl).bind fun _ => (has_panicIf _).bind fun _ => ?_
      cases request.callback with
      | none => exact T.pure ()
      | some c => exact T.look (fun _ _ => rfl) fun _ => T.modify (.updateProvider r _)
  | _ => exact T.pure ()

theorem has_issueInstrument (r : MeterRef) (request : Request) :
    T.Has (issueInstrument r request) := by
  refine T.look (fun _ _ => rfl) fun s => ?_
  simp only
  cases (s.meter r).body with
  | noop => exact has_makeInstrument _
  | recording m =>
      have hmake : T.Has ((modify fun s => s.updateMeter r fun m =>
          m.noteCreated request.kind request.descriptor : Op Unit) >>= fun _ =>
            makeInstrument ⟨request, r, .log⟩) :=
        (T.modify (.updateMeter r _)).bind fun _ => has_makeInstrument _
      simp only
      cases (s.meter r).issuer with
      | none => exact hmake
      | some p => exact (has_probeInstrument p request).bind fun _ => hmake
  | deferred m =>
      refine (has_makeInstrument _).bind fun i => ?_
      exact (T.modify (.updateMeter r _)).bind fun _ => T.pure i
  | sdk =>
      simp only
      cases (s.meter r).issuer with
      | none => exact has_makeInstrument _
      | some p =>
          exact (has_requestFromSdk p request).bind fun _ => has_makeInstrument _

theorem has_requestInstrument (r : MeterRef) (request : Request) :
    T.Has (requestInstrument r request) := by
  refine (has_note _).bind fun _ => ?_
  refine (T.look (fun _ _ => rfl) fun s => has_orWait _).bind fun e => ?_
  exact (has_issueInstrument e request).bind fun i =>
    (has_note _).bind fun _ => T.pure i

/-! ## Samples and observations -/

theorem has_instrumentEnd (r : InstrumentRef) : T.Has (instrumentEnd r) :=
  T.look (fun _ _ => rfl) fun _ => has_orWait _

theorem has_record (r : InstrumentRef) (sample : Sample) (attributes : AttributeSet) :
    T.Has (record r sample attributes) := by
  refine (has_note _).bind fun _ => (has_instrumentEnd r).bind fun e => ?_
  exact T.modify (.accept e sample attributes)

theorem has_addAll (additions : List Addition) : T.Has (addAll additions) :=
  has_forM fun _ => (has_named _ _).bind fun i => has_record i.ref _ _

theorem has_answer (feed : Feed) : T.Has (answer feed) := by
  cases feed with
  | panics payload => exact T.throw _
  | _ => exact T.pure _

theorem has_poll (r : CallbackRef) : T.Has (poll r) := by
  refine (has_note _).bind fun _ => T.look (fun _ _ => rfl) fun s => ?_
  refine (T.modify (.updateCallback r _)).bind fun _ => ?_
  have hrest := (has_addAll (T := T) (s.callback r).additions).bind fun _ =>
    has_answer ((s.callback r).feed (s.callback r).asked)
  cases (s.callback r).label with
  | none => exact hrest
  | some label => exact (has_see rfl).bind fun _ => hrest

theorem has_observe (r : InstrumentRef) : T.Has (observe r) := by
  refine (has_note _).bind fun _ => (has_instrumentEnd r).bind fun e => ?_
  refine T.look (fun _ _ => rfl) fun s => ?_
  simp only
  split
  · exact (has_poll _).bind fun batch =>
      (T.modify (.updateMeter _ _)).bind fun _ => T.pure batch
  · exact T.pure _

theorem has_collect (r : ProviderRef) : T.Has (collect r) := by
  refine T.look (fun _ _ => rfl) fun s => ?_
  cases s.provider r with
  | sdk p =>
      exact has_forM fun kept => (has_poll kept.callback).bind fun batch =>
        has_forM fun x => has_see rfl
  | _ => exact T.pure ()

/-! ## Binding and installing -/

theorem isolated_eq (child : ChildKind) (name : String) (op : Op Unit) :
    isolated child name op = attempt child name op >>= fun done => pure done.isSome := by
  funext s
  simp only [isolated, attempt, bind_run]
  cases op s with
  | ok a s' => rfl
  | error halt s' => cases halt <;> rfl

theorem has_isolated {op : Op Unit} (child : ChildKind) (name : String) (h : T.Has op) :
    T.Has (isolated child name op) := by
  rw [isolated_eq]
  exact (T.attempt child name h).bind fun _ => T.pure _

theorem has_countIsolated {child : ChildKind} {name : α → Op String} {op : α → Op Unit}
    (hname : ∀ x, T.Has (name x)) (hop : ∀ x, T.Has (op x)) (l : List α) :
    T.Has (countIsolated child name op l) := by
  induction l with
  | nil => exact T.pure 0
  | cons x xs ih =>
      exact (hname x).bind fun n => (has_isolated child n (hop x)).bind fun _ =>
        ih.bind fun _ => T.pure _

theorem has_instrumentName (i : InstrumentRef) : T.Has (instrumentName i) :=
  T.look (fun _ _ => rfl) fun _ => T.pure _

theorem has_meterName (m : MeterRef) : T.Has (meterName m) :=
  T.look (fun _ _ => rfl) fun _ => T.pure _

theorem has_bindInstrument (t : MeterRef) (i : InstrumentRef) :
    T.Has (bindInstrument t i) := by
  refine (has_note _).bind fun _ => T.look (fun _ _ => rfl) fun s => ?_
  exact (has_requestInstrument t _).bind fun j => T.modify (.bindInstrument i j)

theorem has_bindMeter (m t : MeterRef) : T.Has (bindMeter m t) := by
  refine (has_note _).bind fun _ => T.look (fun _ _ => rfl) fun s => ?_
  simp only
  split
  · exact has_log rfl
  · refine (has_countIsolated has_instrumentName (has_bindInstrument t) _).bind
      fun _ => ?_
    exact (T.modify (.updateMeter m _)).bind fun _ => has_log rfl

theorem has_rebindMeter (p : ProviderRef) (m : MeterRef) : T.Has (rebindMeter p m) :=
  T.look (fun _ _ => rfl) fun _ =>
    (has_requestMeter p _).bind fun t => has_bindMeter m t

theorem has_bindProvider (d p : ProviderRef) : T.Has (bindProvider d p) := by
  refine (has_note _).bind fun _ => T.look (fun _ _ => rfl) fun s => ?_
  simp only
  split
  · exact has_log rfl
  · refine (T.modify (.updateProvider d _)).bind fun _ => ?_
    exact (has_countIsolated has_meterName (has_rebindMeter p) _).bind
      fun _ => has_log rfl

theorem callOnce_eq (read : Store → Gate) (write : Gate → Store → Store) (action : Op Unit) :
    Gate.callOnce read write action = get >>= fun s => if (read s).fired then pure false
      else action >>= fun _ => modify (write .passed) >>= fun _ => pure true := by
  funext s
  simp only [Gate.callOnce, bind_run, get_run]
  split
  · rfl
  · rw [bind_run]
    cases action s <;> rfl

theorem has_callOnce {read : Store → Gate} {write : Gate → Store → Store} {action : Op Unit}
    (hread : ∀ past s, read (s.recall past) = read s) (hwrite : Plain (write .passed))
    (h : T.Has action) : T.Has (Gate.callOnce read write action) := by
  rw [callOnce_eq]
  refine T.look (fun past s => by rw [hread]) fun s => ?_
  split
  · exact T.pure false
  · exact h.bind fun _ => (T.modify hwrite).bind fun _ => T.pure true

theorem has_install (r : RegistrationRef) (p : ProviderRef) (discovered : Bool) :
    T.Has (install r p discovered) := by
  have heffect : T.Has (takeEffect r p discovered) :=
    (T.modify (.updateRegistration r _)).bind fun _ => T.look (fun _ _ => rfl) fun _ =>
      (has_bindProvider _ p).bind fun _ => has_log rfl
  refine (has_callOnce (fun _ _ => rfl) (.updateRegistration r _) heffect).bind fun installed => ?_
  split
  · exact (has_log rfl).bind fun _ => T.pure _
  · exact T.pure _

theorem has_registered (r : RegistrationRef) : T.Has (registered r) :=
  T.look (fun _ _ => rfl) fun _ => T.pure _

theorem has_makeRegistration (discovery : Discovery) :
    T.Has (makeRegistration discovery) :=
  (has_makeProvider _).bind fun _ => has_get_modify (fun _ _ => rfl) (.addRegistration _)

/-! ## Discovery -/

theorem has_providerNamed (name : String) : T.Has (providerNamed name) :=
  (has_named _ _).bind fun _ => T.pure _

theorem has_makeNamed (name : String) (p : Provider) : T.Has (makeNamed name p) :=
  (has_makeProvider p).bind fun _ =>
    (T.modify (.enterProvider name _)).bind fun _ => T.pure _

theorem has_build (name : String) (spec : ProviderSpec) : T.Has (build name spec) := by
  cases spec with
  | deferredOf registration =>
      refine (has_named _ _).bind fun o => T.look (fun _ _ => rfl) fun s => ?_
      exact (T.modify (.enterProvider name _)).bind fun _ => T.pure _
  | existing other =>
      exact (has_named _ _).bind fun _ =>
        (T.modify (.enterProvider name _)).bind fun _ => T.pure _
  | _ => exact has_makeNamed name _

theorem has_buildInvented (spec : ProviderSpec) : T.Has (buildInvented spec) := by
  cases spec with
  | existing other => exact has_providerNamed other
  | _ => exact has_invent.bind fun name => has_build name _

theorem has_configure (r : RegistrationRef) (key : String) (value : Option String) :
    T.Has (configure r key value) := T.modify (.updateRegistration r _)

/-- Asking a registry has the trait. -/
def Asker.Has (T : Trait) (ask : Asker) : Prop := ∀ g key name, T.Has (ask g key name)

variable {ask : Asker}

/-- What a factory does away from registries. -/
theorem has_act {action : FactoryAction} (h : action.ofRegistry = false) :
    T.Has (act ask action) := by
  cases action with
  | offer registration provider =>
      exact (has_named _ _).bind fun o => (has_providerNamed _).bind fun p =>
        (has_install o p false).bind fun _ => has_see rfl
  | registered registration =>
      exact (has_named _ _).bind fun o => (has_registered o).bind fun p =>
        (has_identify p).bind fun _ => has_see rfl
  | configure registration key value =>
      exact (has_named _ _).bind fun o => has_configure o key value
  | _ => cases h

theorem has_finish (hask : ask.Has T) (name : String) (outcome : Outcome) :
    T.Has (finish ask name outcome) := by
  cases outcome with
  | panics payload => exact T.throw _
  | fails reason causes => exact T.pure _
  | delegates registry key other =>
      refine (has_named _ _).bind fun g => (hask g key other).bind fun answer => ?_
      cases answer <;> exact T.pure _
  | makes spec => exact (has_buildInvented spec).bind fun _ => T.pure _

/-- What is done at registries has the trait too. -/
structure CoversRegistries (T : Trait) : Prop where
  see : ∀ {e : Event}, e.lookedUp? = none → T.Has (see e)
  update : ∀ g f, T.Has (modify fun s => s.updateRegistry g f : Op Unit)

theorem has_register (hT : CoversRegistries T) (r : RegistryRef) (name : String)
    (factory : StoredFactory) : T.Has (register r name factory) := by
  refine T.look (fun _ _ => rfl) fun s => (hT.update r _).bind fun _ => ?_
  cases (s.registry r).replaced? name with
  | none => exact T.pure ()
  | some message => exact hT.see rfl

theorem has_anyAct (hT : CoversRegistries T) (hask : ask.Has T) (action : FactoryAction) :
    T.Has (act ask action) := by
  cases action with
  | register registry name factory =>
      exact (has_named _ _).bind fun g => has_register hT g name _
  | names registry =>
      exact (has_named _ _).bind fun g => T.look (fun _ _ => rfl) fun _ => hT.see rfl
  | ask registry key name =>
      exact (has_named _ _).bind fun g => (hask g key name).bind fun _ => T.pure _
  | _ => exact has_act rfl

theorem has_runFactory (hT : CoversRegistries T) (hask : ask.Has T) (name : String)
    (stored : StoredFactory) : T.Has (runFactory ask name stored) := by
  cases stored with
  | noop => exact (has_makeProvider _).bind fun _ => T.pure _
  | program factory =>
      exact (hT.see rfl).bind fun _ => (has_forM (has_anyAct hT hask)).bind fun _ =>
        has_finish hask name factory.outcome

theorem has_instantiate (hT : CoversRegistries T) (depth : Nat) : (instantiate depth).Has T := by
  induction depth with
  | zero => exact fun _ _ _ => T.throw _
  | succ depth ih =>
      intro g key name
      refine T.look (fun _ _ => rfl) fun s => ?_
      cases (s.registry g).get? name with
      | none => exact T.pure _
      | some stored => exact has_runFactory hT ih name stored

/-- Reading a configuration has the trait, and so has asking a registry. -/
structure Discovers (T : Trait) (depth : Nat) : Prop where
  lookUp : ∀ source key, T.Has (lookUp source key)
  ask : (instantiate depth).Has T

theorem has_resolve {depth : Nat} (h : Discovers T depth) (r : RegistrationRef) :
    T.Has (resolve depth r) := by
  refine T.look (fun _ _ => rfl) fun s => (h.lookUp _ _).bind fun value => ?_
  cases value with
  | none => exact T.pure _
  | some value =>
      simp only
      split
      · exact T.pure _
      · exact (h.ask _ _ _).bind fun _ => T.pure _

/-- What is done with what discovery has found. -/
theorem has_adoptFound (r : RegistrationRef) (found : Except DiscoveryError (Option ProviderRef)) :
    T.Has (match found with
      | .error e => pure (.error e)
      | .ok none => do return .ok ((← get).registration r).deferred
      | .ok (some p) => do
          let _ ← install r p true
          match ← registered r with
          | some q => return .ok q
          | none => return .ok ((← get).registration r).deferred :
        Op (Except DiscoveryError ProviderRef)) := by
  have hdeferred : T.Has (get >>= fun s =>
      (pure (.ok (s.registration r).deferred) : Op (Except DiscoveryError ProviderRef))) :=
    T.look (fun _ _ => rfl) fun _ => T.pure _
  cases found with
  | error e => exact T.pure _
  | ok p =>
      cases p with
      | none => exact hdeferred
      | some p =>
          refine (has_install r p true).bind fun _ => (has_registered r).bind fun q => ?_
          cases q with
          | some q => exact T.pure _
          | none => exact hdeferred

theorem has_getProvider {depth : Nat} (h : Discovers T depth) (r : RegistrationRef) :
    T.Has (getProvider depth r) := by
  refine (has_registered r).bind fun p => ?_
  cases p with
  | some p => exact T.pure _
  | none => exact (has_resolve h r).bind fun found => has_adoptFound r found

theorem has_getMeter {depth : Nat} (h : Discovers T depth) (r : RegistrationRef)
    (scope : Scope) : T.Has (getMeter depth r scope) := by
  refine (has_getProvider h r).bind fun answer => ?_
  cases answer with
  | error e => exact T.pure _
  | ok p => exact (has_requestMeter p scope).bind fun _ => T.pure _

end Op

end DeferredMetrics
