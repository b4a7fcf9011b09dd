import DeferredMetrics.Proofs.Performing
import DeferredMetrics.Proofs.Traits

set_option autoImplicit false

/-! # Traits of steps

Steps do what operations do, between names and replies. So every step that makes no registry and
registers no factory has each trait (`has_perform`), if asking a registry has it. Steps in which
threads race are left out. -/

namespace DeferredMetrics

namespace Step

/-- The step makes a registry or registers a factory. -/
def writesRegistries : Step → Bool
  | .registry .. => true
  | .register .. => true
  | .registration _ _ _ name => name.isNone
  | _ => false

/-- The step may ask a registry for a provider. -/
def asks : Step → Bool
  | .instantiate .. => true
  | .resolve _ => true
  | .getProvider _ => true
  | .getMeter .. => true
  | _ => false

end Step

namespace Op

variable {T : Trait} {α : Type}

/-! ## Names -/

theorem has_registryNamed (name : RegistryName) : T.Has (registryNamed name) := by
  cases name with
  | own name => exact has_named _ _
  | ofRegistration name =>
      exact (has_named _ _).bind fun _ =>
        T.look (fun _ _ => rfl) fun _ => T.pure _

theorem has_deferredOr (p : Provider) (label : String) :
    T.Has (match p with
      | .deferred p => (pure p : Op DeferredProvider)
      | _ => throw (.unnamed label)) := by
  cases p with
  | deferred p => exact T.pure p
  | _ => exact T.throw _

theorem has_deferredNamed (name : DeferredName) : T.Has (deferredNamed name) := by
  cases name with
  | own name =>
      exact T.look (fun _ _ => rfl) fun s =>
        (has_providerNamed _).bind fun p => has_deferredOr (s.provider p) name
  | ofRegistration name =>
      exact (has_named _ _).bind fun o => T.look (fun _ _ => rfl) fun s =>
        T.look (fun _ _ => rfl) fun s' =>
          has_deferredOr (s.provider (s'.registration o).deferred) name

theorem has_issuedMeterNamed (provider : DeferredName) (index : Nat) :
    T.Has (issuedMeterNamed provider index) := by
  refine (has_deferredNamed provider).bind fun p => ?_
  cases p.meters[index]? with
  | some m => exact T.pure m
  | none => exact T.throw _

theorem has_instrumentNamed (name : String) : T.Has (instrumentNamed name) :=
  (has_named _ _).bind fun _ => T.pure _

theorem has_nameMeter (id : String) (m : MeterRef) : T.Has (nameMeter id m) :=
  (T.modify (.updateDirectory _)).bind fun _ =>
    T.look (fun _ _ => rfl) fun _ => T.pure _

theorem has_addTo (name : String) (value : Int) (attributes : AttributeSet) :
    T.Has (addTo name value attributes) := by
  have hsample : ∀ kind, T.Has (sampleFor name kind value) := by
    intro kind
    cases kind <;> first | exact T.pure _ | exact T.throw _
  exact (has_instrumentNamed name).bind fun i =>
    T.look (fun _ _ => rfl) fun _ =>
      (hsample _).bind fun sample => has_record i sample attributes

/-! ## Sequential steps -/

theorem has_showFound (answer : Except DiscoveryError (Option ProviderRef)) :
    T.Has (showFound answer) := by
  cases answer with
  | error e => exact T.pure _
  | ok p => exact (has_identify p).bind fun _ => T.pure _

theorem has_lookAtTree (provider : DeferredName) : T.Has (lookAtTree provider) :=
  (has_deferredNamed provider).bind fun p => (has_identify p.target).bind fun _ =>
    T.look (fun _ _ => rfl) fun _ => T.pure _

/-- What is done for a new registration once there is a registry. -/
theorem has_registrationWith (id : String) (key : Option String) (source : SourceSpec)
    (g : RegistryRef) :
    T.Has ((makeRegistration ⟨key.getD Discovery.defaultKey,
      (match source with
        | .settings values => Source.settings (.ofList values)
        | .environment => .environment), g⟩) >>= fun o =>
      (modify fun s => s.updateDirectory fun d =>
        { d with registrations := d.registrations.insert id o } : Op Unit) >>= fun _ =>
      get >>= fun s => pure (Reply.registration (key.getD Discovery.defaultKey)
        (s.registry g).names)) :=
  (has_makeRegistration _).bind fun _ => (T.modify (.updateDirectory _)).bind fun _ =>
    T.look (fun _ _ => rfl) fun _ => T.pure _

theorem has_callbackFor (id : String) (kind : Kind) (callback : Option String) :
    T.Has (callbackFor id kind callback) := by
  unfold callbackFor
  split
  · exact (has_named _ _).bind fun _ => T.pure _
  · exact T.throw _
  · exact T.pure _

theorem has_requestNamed (m : MeterRef) (id : String) (request : Request) :
    T.Has (requestNamed m id request) :=
  T.look (fun _ _ => rfl) fun _ => (has_requestInstrument m request).bind fun _ =>
    T.look (fun _ _ => rfl) fun _ =>
      (T.modify (.updateDirectory _)).bind fun _ => T.pure _

theorem has_create (meter id : String) (kind : Kind) (descriptor : Descriptor)
    (callback : Option String) : T.Has (create meter id kind descriptor callback) :=
  (has_named _ _).bind fun m => (has_callbackFor id kind callback).bind fun _ =>
    has_requestNamed m id _

theorem has_repeatedly {op : Op Unit} (h : T.Has op) (n : Nat) :
    T.Has (repeatedly op n) := by
  induction n with
  | zero => exact T.pure ()
  | succ n ih => exact h.bind fun _ => ih

/-! ## Steps -/

theorem has_perform {depth : Nat} (processWide : Option RegistrationRef) {x : Step}
    (hx : x.sequential = true) (hwrites : x.writesRegistries = false)
    (hask : x.asks = true → Discovers T depth) : T.Has (perform depth processWide x) := by
  have hreply : ∀ {γ : Type} {op : Op γ} {f : γ → Reply}, T.Has op →
      T.Has (op >>= fun a => pure (f a)) := fun h => h.bind fun _ => T.pure _
  have hlook : ∀ {γ : Type} {op : Op γ} {f : γ → Store → Reply}, T.Has op →
      (∀ a past s, f a (s.recall past) = f a s) →
      T.Has (op >>= fun a => get >>= fun s => pure (f a s)) := fun h hf =>
    h.bind fun a => T.look (fun past s => by rw [hf]) fun _ => T.pure _
  have hregistration := fun name => has_named (T := T) Directory.registrations name
  cases x with
  | provider id spec => exact hreply (has_build id spec)
  | names registry => exact hlook (has_registryNamed registry) fun _ _ _ => rfl
  | contains registry name => exact hlook (has_registryNamed registry) fun _ _ _ => rfl
  | instantiate registry key name =>
      exact (has_registryNamed registry).bind fun g =>
        ((hask rfl).ask g key name).bind fun _ => has_showFound _
  | outlineRegistry registry => exact hlook (has_registryNamed registry) fun _ _ _ => rfl
  | registration id key source registry =>
      cases registry with
      | some registry => exact (has_named _ _).bind (has_registrationWith id key source)
      | none => cases hwrites
  | configure registration key value =>
      exact (hregistration registration).bind fun o => hreply (has_configure o key value)
  | resolve registration =>
      exact (hregistration registration).bind fun o =>
        (has_resolve (hask rfl) o).bind fun _ => has_showFound _
  | getProvider registration =>
      exact (hregistration registration).bind fun o =>
        (has_getProvider (hask rfl) o).bind fun _ => has_showFound _
  | setProvider registration provider =>
      exact (hregistration registration).bind fun o => (has_providerNamed provider).bind
        fun p => hreply (has_install o p false)
  | registered registration =>
      exact (hregistration registration).bind fun o => (has_registered o).bind fun p =>
        hreply (has_identify p)
  | outline registration => exact hlook (hregistration registration) fun _ _ _ => rfl
  | outlineDiscovery registration => exact hlook (hregistration registration) fun _ _ _ => rfl
  | tree provider => exact has_lookAtTree provider
  | getMeter registration id scope =>
      refine (hregistration registration).bind fun o =>
        (has_getMeter (hask rfl) o scope).bind fun answer => ?_
      cases answer with
      | ok m => exact has_nameMeter id m
      | error e => exact T.pure _
  | meter provider id scope =>
      exact (has_providerNamed provider).bind fun p =>
        (has_requestMeter p scope).bind fun m => has_nameMeter id m
  | noopMeter id scope => exact (has_makeMeter _).bind fun m => has_nameMeter id m
  | recordingMeter id scope => exact (has_makeMeter _).bind fun m => has_nameMeter id m
  | issuedMeter provider index id =>
      exact (has_issuedMeterNamed provider index).bind fun m => has_nameMeter id m
  | meterTarget provider index id =>
      refine (has_issuedMeterNamed provider index).bind fun m =>
        T.look (fun _ _ => rfl) fun s => ?_
      cases (s.meter m).target? with
      | some target => exact has_nameMeter id target
      | none => exact T.pure _
  | scope meter => exact hlook (has_named _ _) fun _ _ _ => rfl
  | create meter id kind descriptor callback =>
      exact has_create meter id kind descriptor callback
  | add instrument value attributes => exact hreply (has_addTo instrument value attributes)
  | increment instrument attributes => exact hreply (has_addTo instrument 1 attributes)
  | record instrument value attributes =>
      exact (has_instrumentNamed instrument).bind fun i => hreply (has_record i _ _)
  | observe instrument =>
      exact (has_instrumentNamed instrument).bind fun i => hreply (has_observe i)
  | descriptor instrument => exact hlook (has_instrumentNamed instrument) fun _ _ _ => rfl
  | bound instrument =>
      refine (has_named _ _).bind fun i => T.look (fun _ _ => rfl) fun s => ?_
      simp only
      split <;> exact T.pure _
  | instrumentTarget instrument id =>
      refine (has_named _ _).bind fun i => ?_
      split
      · refine T.look (fun _ _ => rfl) fun s => ?_
        split
        · exact hreply (T.modify (.updateDirectory _))
        · exact T.pure _
      · exact T.pure _
  | callback id kind answers additions =>
      exact (has_makeCallback _).bind fun c => hreply (T.modify (.updateDirectory _))
  | poll callback => exact (has_named _ _).bind fun c => hreply (has_poll c)
  | polls callback => exact hlook (has_named _ _) fun _ _ _ => rfl
  | parallelAdd instrument threads n value =>
      exact hreply (has_repeatedly (has_addTo instrument value .empty) _)
  | backend provider => exact hlook (has_providerNamed provider) fun _ _ _ => rfl
  | events provider => exact hlook (has_providerNamed provider) fun _ _ _ => rfl
  | sum provider name => exact hlook (has_providerNamed provider) fun _ _ _ => rfl
  | meterSums provider name => exact hlook (has_providerNamed provider) fun _ _ _ => rfl
  | meterNamed provider name =>
      refine (has_providerNamed provider).bind fun p =>
        T.look (fun _ _ => rfl) fun s => ?_
      cases s.meterNamed? p name <;> exact T.pure _
  | meterLog meter => exact hlook (has_named _ _) fun _ _ _ => rfl
  | meterSum meter name => exact hlook (has_named _ _) fun _ _ _ => rfl
  | collect provider =>
      exact (has_providerNamed provider).bind fun p => hreply (has_collect p)
  | registry id withNoop => cases hwrites
  | register registry name factory => cases hwrites
  | race registration threads winner => cases hx
  | raceCreate registration meter threads provider => cases hx

end Op

end DeferredMetrics
