import DeferredMetrics.Proofs.Reading
import DeferredMetrics.Proofs.Settling
import DeferredMetrics.Proofs.Waiting

set_option autoImplicit false

/-! # Asking for the provider in effect

`Obtains` lists the ways in which a registration that is asked for its provider answers, and the
store that each of them leaves; where a factory is run, they are told by what the code of the
factory comes to (`Op.callFactory`, `Completes`). Whatever the answer, nothing is remembered of it
but what is registered, so that the registration may be asked again (`Renewable`). The main
statement is `getProvider_outcomes`. -/

namespace DeferredMetrics

open Relation (ReflTransGen)

/-! ## Factories by themselves -/

/-- What the code of a factory answers when it fails. -/
inductive FactoryError where
  /-- A reason of its own, and the causes of that reason. -/
  | failed (reason : String) (causes : List String)
  /-- What a registry has answered it. -/
  | refused (source : DiscoveryError)
deriving DecidableEq

/-- The error for the factory `name` that keeps what its code has answered. -/
def DiscoveryError.factory (name : String) : FactoryError → DiscoveryError
  | .failed reason causes => .factoryFailed name reason causes
  | .refused source => .factoryRefused name source

namespace Op

/-- The end of a factory, as its own code answers. -/
def conclude (ask : Asker) : Outcome → Op (Except FactoryError ProviderRef)
  | .panics payload => throw (.panic payload)
  | .fails reason causes => return .error (.failed reason causes)
  | .delegates registry key other => do
      match ← ask (← Op.named Directory.registries registry) key other with
      | .ok p => return .ok p
      | .error source => return .error (.refused source)
  | .makes spec => return .ok (← buildInvented spec)

/-- What the code of the factory that is kept under `name` does and answers. -/
def callFactory (ask : Asker) (name : String) :
    StoredFactory → Op (Except FactoryError ProviderRef)
  | .noop => return .ok (← makeProvider .noop)
  | .program factory => do
      see (.factory name)
      factory.actions.forM (act ask)
      conclude ask factory.outcome

variable {ask : Asker} {name : String} {s s' : Store}

theorem finish_eq (ask : Asker) (name : String) (outcome : Outcome) :
    finish ask name outcome =
      conclude ask outcome >>= fun answer => pure (answer.mapError (.factory name)) := by
  cases outcome with
  | delegates registry key other =>
      simp only [finish, conclude, bind_assoc]
      refine bind_congr fun g => bind_congr fun answer => ?_
      cases answer <;> rfl
  | makes spec =>
      simp only [finish, conclude, bind_assoc]
      rfl
  | _ => rfl

/-- A registry puts the name of a factory on the error that the factory answers. -/
theorem runFactory_eq (ask : Asker) (name : String) (stored : StoredFactory) :
    runFactory ask name stored =
      callFactory ask name stored >>= fun answer => pure (answer.mapError (.factory name)) := by
  cases stored with
  | noop => rfl
  | program factory => simp only [runFactory, callFactory, bind_assoc, finish_eq]

/-- The code of a factory searches, and the provider that it answers is one that there is. -/
theorem goes_callFactory (hask : ask.Searches) (h : Sound s) (name : String)
    (stored : StoredFactory) :
    Goes Search (callFactory ask name stored) s fun answer s' =>
      ∀ p, answer = .ok p → s'.providers.Has p := by
  have hgoes := goes_runFactory hask h name stored
  rw [runFactory_eq] at hgoes
  unfold Goes at hgoes ⊢
  rw [bind_run] at hgoes
  cases hrun : callFactory ask name stored s with
  | error halt s' => rw [hrun] at hgoes; exact hgoes
  | ok answer s' =>
      rw [hrun] at hgoes
      refine ⟨hgoes.1, ?_⟩
      rintro p rfl
      exact hgoes.2 p p rfl rfl

end Op

/-! ## Outcomes -/

namespace Store

/-- The configuration of the registration names the factory `name`. -/
def Names (s : Store) (r : RegistrationRef) (name : String) : Prop :=
  ∃ value, (s.registration r).discovery.value? s.environment = some value ∧ trim value = name ∧
    name.isEmpty = false

/-- The factory of that name in the registry of the registration. -/
def factory? (s : Store) (r : RegistrationRef) (name : String) : Option StoredFactory :=
  (s.registry (s.registration r).discovery.registry).get? name

/-- The store after the registration has read its key, once. -/
def afterLookUp (s : Store) (r : RegistrationRef) : Store := { s with trace := s.lookedUp r }

theorem namesNone_or_names (s : Store) (r : RegistrationRef) :
    s.NamesNone r ∨ ∃ name, s.Names r name := by
  unfold NamesNone Names
  cases hvalue : (s.registration r).discovery.value? s.environment with
  | none => exact .inl nofun
  | some value =>
      cases hblank : (trim value).isEmpty with
      | true =>
          refine .inl ?_
          rintro _ ⟨⟩
          exact hblank
      | false => exact .inr ⟨_, value, rfl, rfl, hblank⟩

/-- Reading a configuration is silent. -/
theorem silent_afterLookUp (s : Store) (r : RegistrationRef) : Silent s (s.afterLookUp r) := by
  unfold afterLookUp lookedUp
  cases (s.registration r).discovery.source with
  | settings values => exact .see s rfl rfl
  | environment => exact .refl s

end Store

/-- What a registration without a provider makes of what a factory `name` has come to: the result of
the call, from the result of the code of the factory. -/
inductive Completes (r : RegistrationRef) (name : String) :
    EStateM.Result Halt Store (Except FactoryError ProviderRef) →
    EStateM.Result Halt Store (Except DiscoveryError ProviderRef) → Prop where
  /-- The factory fails: its error gets its name, and the store is the one that it has left. -/
  | failed (source : FactoryError) (s' : Store) :
      Completes r name (.ok (.error source) s') (.ok (.error (.factory name source)) s')
  /-- The factory panics, or waits for ever: so does the call, and leaves the same. -/
  | halted (halt : Halt) (s' : Store) : Completes r name (.error halt s') (.error halt s')
  /-- There is a provider now, because the factory has offered one: that is the answer, and the one
  that the factory has made is dropped in silence. -/
  | overtaken (p : ProviderRef) {w : ProviderRef} {s' : Store}
      (hslot : (s'.registration r).provider = some w) (hgate : (s'.gate r).fired = true) :
      Completes r name (.ok (.ok p) s') (.ok (.ok w) s')
  /-- The provider is installed, and is the answer. -/
  | installed {p e : ProviderRef} {xs : List MeterTrial} {s' s'' : Store}
      (hslot : (s'.registration r).provider = none) (he : s'.providerEnd? p = some e)
      (hne : e ≠ (s'.registration r).deferred) (h : Rebinding s' r p e xs s'') :
      Completes r name (.ok (.ok p) s') (.ok (.ok p) s'')
  /-- The provider leads back to the deferred one, from which no meter was asked for: it is
  installed all the same, and is the answer. -/
  | circled {p : ProviderRef} {s' : Store} (hslot : (s'.registration r).provider = none)
      (hcircular : ∀ e, s'.providerEnd? p = some e → e = (s'.registration r).deferred)
      (hmeters : (s'.provider (s'.registration r).deferred).meters = []) :
      Completes r name (.ok (.ok p) s')
        (.ok (.ok p) (((s'.assign r p).log (.providerBound 0 0)).finish r true))
  /-- The provider leads back to the deferred one, from which there are meters: the installation
  waits for itself. -/
  | stuck {p : ProviderRef} {s' : Store} (scope : Scope)
      (hslot : (s'.registration r).provider = none)
      (hcircular : ∀ e, s'.providerEnd? p = some e → e = (s'.registration r).deferred)
      (hmeters : (s'.provider (s'.registration r).deferred).meters ≠ []) :
      Completes r name (.ok (.ok p) s') (.error .waiting ((s'.assign r p).note (.meter p scope)))

/-- The ways in which the registration `r` answers when it is asked for its provider in `s`. A
factory that asks registries in its turn may do so `depth` levels deep. -/
inductive Obtains (depth : Nat) (r : RegistrationRef) (s : Store) :
    EStateM.Result Halt Store (Except DiscoveryError ProviderRef) → Prop where
  /-- It has a provider: nothing happens. -/
  | registered {w : ProviderRef} (hslot : (s.registration r).provider = some w) :
      Obtains depth r s (.ok (.ok w) s)
  /-- Its configuration names none: the answer is its deferred provider. -/
  | own (hslot : (s.registration r).provider = none) (hnone : s.NamesNone r) :
      Obtains depth r s (.ok (.ok (s.registration r).deferred) (s.afterLookUp r))
  /-- There is no factory of the name. -/
  | unknown {name : String} (hslot : (s.registration r).provider = none) (hname : s.Names r name)
      (hfactory : s.factory? r name = none) :
      Obtains depth r s
        (.ok (.error (.unknownProvider (s.registration r).discovery.key name)) (s.afterLookUp r))
  /-- The factory of the name is run. -/
  | ran {name : String} {stored : StoredFactory}
      {result : EStateM.Result Halt Store (Except DiscoveryError ProviderRef)}
      (hslot : (s.registration r).provider = none) (hname : s.Names r name)
      (hfactory : s.factory? r name = some stored)
      (h : Completes r name (Op.callFactory (Op.instantiate depth) name stored (s.afterLookUp r))
        result) :
      Obtains depth r s result

namespace Op

variable {s s' : Store} {r : RegistrationRef} {p : ProviderRef} {name : String}

/-- What is done with what was found. -/
def adopt (r : RegistrationRef) :
    Except DiscoveryError ProviderRef → Op (Except DiscoveryError ProviderRef)
  | .error e => return .error e
  | .ok p => do
      let _ ← install r p true
      match ← registered r with
      | some q => return .ok q
      | none => return .ok ((← get).registration r).deferred

/-- Where there is no provider the configuration is resolved, and what that comes to is adopted. -/
theorem getProvider_of_none (depth : Nat) (hslot : (s.registration r).provider = none) :
    getProvider depth r s = (resolve depth r >>= fun found =>
      match found with
      | .error e => pure (.error e)
      | .ok none => do return .ok ((← get).registration r).deferred
      | .ok (some p) => adopt r (.ok p)) s := by
  rw [getProvider, bind_of_ok (registered_run hslot)]
  refine congrFun (bind_congr fun found => ?_) s
  rcases found with e | _ | p <;> rfl

/-- What is written down after an installation is the answer. -/
theorem adopt_of_ok {won : Bool} {w : ProviderRef} (hrun : install r p true s = .ok won s')
    (hslot : (s'.registration r).provider = some w) : adopt r (.ok p) s = .ok (.ok w) s' := by
  rw [adopt, bind_of_ok hrun, bind_of_ok (registered_run hslot)]
  rfl

/-- A name in the configuration is looked up once, and then the registry is asked for it. -/
theorem getProvider_of_names (depth : Nat) (hslot : (s.registration r).provider = none)
    (hname : s.Names r name) :
    getProvider depth r s =
      (instantiate depth (s.registration r).discovery.registry (s.registration r).discovery.key
        name >>= adopt r) (s.afterLookUp r) := by
  obtain ⟨value, hvalue, rfl, hblank⟩ := hname
  have hlookUp := lookUp_run s r
  rw [hvalue] at hlookUp
  rw [getProvider, bind_of_ok (registered_run hslot)]
  simp only [resolve, bind_assoc]
  rw [bind_of_ok (get_run s), bind_of_ok hlookUp]
  simp only
  rw [if_neg (by rw [hblank]; simp), bind_assoc]
  show (instantiate _ _ _ _ >>= _) (s.afterLookUp r) = _
  refine congrFun (bind_congr fun answer => ?_) _
  cases answer <;> rfl

/-- The name of a factory that is there: the factory is called, and what it answers is adopted. -/
theorem getProvider_of_factory (depth : Nat) {stored : StoredFactory}
    (hslot : (s.registration r).provider = none) (hname : s.Names r name)
    (hfactory : s.factory? r name = some stored) :
    getProvider (depth + 1) r s =
      (callFactory (instantiate depth) name stored >>= fun answer =>
        adopt r (answer.mapError (.factory name))) (s.afterLookUp r) := by
  have hfound : ((s.afterLookUp r).registry (s.registration r).discovery.registry).get? name =
      some stored := hfactory
  calc getProvider (depth + 1) r s
    _ = (runFactory (instantiate depth) name stored >>= adopt r) (s.afterLookUp r) := by
        rw [getProvider_of_names _ hslot hname, bind_run, instantiate_of_some depth _ hfound,
          ← bind_run]
    _ = (callFactory (instantiate depth) name stored >>= fun answer =>
          adopt r (answer.mapError (.factory name))) (s.afterLookUp r) := by
        rw [runFactory_eq, bind_assoc]
        rfl

theorem getProvider_of_unknown (depth : Nat) (hslot : (s.registration r).provider = none)
    (hname : s.Names r name) (hfactory : s.factory? r name = none) :
    getProvider (depth + 1) r s =
      .ok (.error (.unknownProvider (s.registration r).discovery.key name)) (s.afterLookUp r) := by
  have hfound : ((s.afterLookUp r).registry (s.registration r).discovery.registry).get? name =
      none := hfactory
  rw [getProvider_of_names _ hslot hname, bind_of_ok (instantiate_of_none depth _ hfound)]
  rfl

/-- What becomes of a provider that a factory has made, in a store in which the registration is
settled. -/
theorem completes_adopt (h : s.Sane) (hr : s.registrations.Has r) (hp : s.providers.Has p)
    (hsettled : s.Settled r) (name : String) :
    Completes r name (.ok (.ok p) s) (adopt r (.ok p) s) := by
  cases hslot : (s.registration r).provider with
  | some w =>
      -- the factory itself has offered one
      have hgate : (s.gate r).fired = true := by rw [hsettled, hslot]; rfl
      rw [adopt_of_ok (install_of_fired p hgate) hslot]
      exact .overtaken p hslot hgate
  | none =>
      obtain ⟨hgate, htarget⟩ := h.undecided r hr hslot
      have hgot : ∀ {t : Store}, t.registrations = (s.writeProvider r p).registrations →
          ((t.finish r true).registration r).provider = some p := fun ht => by
        rw [Store.registration_finish r hr ht true, if_pos rfl]
      have hinstalls := installs (p := p) h.sound hr true
      generalize hinstall : install r p true s = result at hinstalls
      cases hinstalls with
      | late hfired => rw [hgate] at hfired; cases hfired
      | effective hgate hwait he hne hshown =>
          obtain ⟨xs, hrebinding⟩ :=
            Rebinding.of_bindProvider h.sound hr hp hwait he hne hshown true
          rw [adopt_of_ok hinstall (by rw [hrebinding.registration])]
          exact .installed hslot he hne hrebinding
      | again hgate hbound => rw [htarget] at hbound; cases hbound
      | idle hgate hnone hcircular hmeters =>
          rw [adopt_of_ok hinstall (hgot rfl)]
          exact .circled hslot hcircular hmeters
      | stuck scope hgate hnone hcircular hmeters =>
          rw [show adopt r (.ok p) s = _ from bind_of_error hinstall]
          exact .stuck scope hslot hcircular hmeters

/-- What is left when the code of a factory has come to an end that was run for a registration
without a provider. -/
theorem of_callFactory {depth : Nat} {stored : StoredFactory}
    {answer : Except FactoryError ProviderRef} (h : s.Sane) (hr : s.registrations.Has r)
    (hslot : (s.registration r).provider = none)
    (hrun : callFactory (instantiate depth) name stored (s.afterLookUp r) = .ok answer s') :
    s'.Sane ∧ s'.registrations.Has r ∧ s'.Settled r ∧
      ∀ p, answer = .ok p → s'.providers.Has p := by
  have hbegun : (s.afterLookUp r).Sane := h.of_searches (.single (.silent (s.silent_afterLookUp r)))
  have hsettled : (s.afterLookUp r).Settled r := h.settled hr hslot
  have hran : runFactory (instantiate depth) name stored (s.afterLookUp r) =
      .ok (answer.mapError (.factory name)) s' := by
    rw [runFactory_eq, bind_of_ok hrun]
    rfl
  have hgoes := goes_callFactory (searches_instantiate depth) hbegun.sound name stored
  unfold Goes at hgoes
  rw [hrun] at hgoes
  exact ⟨hbegun.of_searches hgoes.1,
    ((sound_of_searches hbegun.sound hgoes.1).2.registrations r hr).1,
    settles_runFactory (settles_instantiate depth) hbegun.sound hsettled name stored _ s' hran,
    hgoes.2⟩

/-- A registration that is asked for its provider answers in one of the ways. -/
theorem obtains_getProvider (depth : Nat) (h : s.Sane) (hr : s.registrations.Has r) :
    Obtains depth r s (getProvider (depth + 1) r s) := by
  cases hslot : (s.registration r).provider with
  | some w =>
      rw [getProvider_of_some _ hslot]
      exact .registered hslot
  | none =>
      rcases s.namesNone_or_names r with hnone | ⟨name, hname⟩
      · rw [getProvider_of_namesNone _ hslot hnone]
        exact .own hslot hnone
      · cases hfactory : s.factory? r name with
        | none =>
            rw [getProvider_of_unknown depth hslot hname hfactory]
            exact .unknown hslot hname hfactory
        | some stored =>
            refine .ran hslot hname hfactory ?_
            rw [getProvider_of_factory depth hslot hname hfactory, bind_run]
            cases hrun : callFactory (instantiate depth) name stored (s.afterLookUp r) with
            | error halt s' => exact .halted halt s'
            | ok answer s' =>
                obtain ⟨hsane, hhas, hsettled, hknown⟩ := of_callFactory h hr hslot hrun
                cases answer with
                | error source => exact .failed source s'
                | ok p => exact completes_adopt hsane hhas (hknown p rfl) hsettled name

end Op

/-! ## Afterwards -/

/-- Nothing is remembered between `s` and `s'` but what was registered, and in all stores `t` that
changes lead to from `s'` the registration `r` may be asked again, and be offered a provider. -/
structure Renewable (r : RegistrationRef) (s s' : Store) : Prop where
  /-- A provider that `r` has got is one that its deferred provider was told of. -/
  accounted : s.Accounted r s'
  /-- If `r` had none, and its deferred provider was told of none since, nothing was decided. -/
  untouched : (s.registration r).provider = none →
    (∀ new, s'.calls.toList = s.calls.toList ++ new →
      ∀ w, .bindProvider (s.registration r).deferred w ∉ new) →
    (s'.registration r).provider = none ∧ s'.gate r = s.gate r
  /-- As long as there is none, the gate has not fired, and no node of the tree below the deferred
  provider is bound. -/
  intact : ∀ t, ReflTransGen Change s' t → (t.registration r).provider = none →
    (t.gate r).fired = false ∧ t.ProviderWaits (t.registration r).deferred
  /-- The configuration is read again, and the factory is run again. -/
  again : ∀ t, ReflTransGen Change s' t → ∀ depth,
    Obtains depth r t (Op.getProvider (depth + 1) r t)
  /-- As long as there is none, a provider that is offered takes effect. -/
  offer : ∀ t, ReflTransGen Change s' t → (t.registration r).provider = none → ∀ p e,
    t.providers.Has p → t.providerEnd? p = some e → e ≠ (t.registration r).deferred →
    ∃ xs t', Op.setProvider r p t = .ok true t' ∧ Rebinding t r p e xs t'
  /-- So does one that leads back to the deferred provider, if no meter was asked for there. -/
  offerBack : ∀ t, ReflTransGen Change s' t → (t.registration r).provider = none →
    (t.provider (t.registration r).deferred).meters = [] → ∀ p,
    (∀ e, t.providerEnd? p = some e → e = (t.registration r).deferred) →
    Op.setProvider r p t = .ok true (((t.assign r p).log (.providerBound 0 0)).finish r false)

theorem Gate.eq_of_unfired {g g' : Gate} (h : g.fired = false) (h' : g'.fired = false) : g = g' :=
  congrArg Gate.mk (h.trans h'.symm)

namespace Store.Sane

variable {s s' : Store} {r : RegistrationRef}

theorem renewable (h : s.Sane) (hr : s.registrations.Has r) (h' : s'.Sane)
    (hr' : s'.registrations.Has r) (haccounted : s.Accounted r s') : Renewable r s s' := by
  have hlater : ∀ t, ReflTransGen Change s' t → t.Sane ∧ t.registrations.Has r := fun t ht =>
    ⟨h'.of_changes ht, ((sound_of_changes h'.sound ht).2.registrations r hr').1⟩
  constructor
  case accounted => exact haccounted
  case untouched =>
    intro hslot huntold
    obtain ⟨new, hcalls, hsame | ⟨w, _, hmem⟩⟩ := haccounted.told
    · rw [hslot] at hsame
      exact ⟨hsame, Gate.eq_of_unfired (h'.undecided r hr' hsame).1 (h.undecided r hr hslot).1⟩
    · exact absurd hmem (huntold new hcalls w)
  case intact =>
    intro t ht hslot
    obtain ⟨hsane, hhas⟩ := hlater t ht
    exact ⟨(hsane.undecided r hhas hslot).1, hsane.waits hhas hslot⟩
  case again =>
    intro t ht depth
    obtain ⟨hsane, hhas⟩ := hlater t ht
    exact Op.obtains_getProvider depth hsane hhas
  case offer =>
    intro t ht hslot p e hp he hne
    obtain ⟨hsane, hhas⟩ := hlater t ht
    exact hsane.setProvider hhas hslot hp he hne
  case offerBack =>
    intro t ht hslot hmeters p hcircular
    obtain ⟨hsane, hhas⟩ := hlater t ht
    exact (hsane.setProvider_back hhas hslot hcircular).1 hmeters

end Store.Sane

namespace Op

variable {s s' : Store} {r : RegistrationRef} {p : ProviderRef}

theorem left_adopt (r : RegistrationRef) (p : ProviderRef) (s : Store) :
    (adopt r (.ok p)).left s = (install r p true).left s := by
  unfold adopt
  cases hrun : install r p true s with
  | error halt s' => rw [left_bind_of_error hrun, left_of_error hrun]
  | ok won s' =>
      rw [left_bind_of_ok hrun, left_of_ok hrun]
      cases hslot : (s'.registration r).provider with
      | some q =>
          rw [left_bind_of_ok (registered_run hslot)]
          rfl
      | none =>
          rw [left_bind_of_ok (registered_run hslot)]
          rfl

theorem renewable_of_searches (h : s.Sane) (hr : s.registrations.Has r)
    (hpath : ReflTransGen Search s s') : Renewable r s s' :=
  h.renewable hr (h.of_searches hpath) ((sound_of_searches h.sound hpath).2.registrations r hr).1
    (accounted_of_searches h.sound hpath)

/-- Whatever it answers, a registration that was asked for its provider may be asked again. -/
theorem renewable_getProvider (depth : Nat) (h : s.Sane) (hr : s.registrations.Has r) :
    Renewable r s ((getProvider (depth + 1) r).left s) := by
  have hread : ReflTransGen Search s (s.afterLookUp r) :=
    .single (.silent (s.silent_afterLookUp r))
  cases hslot : (s.registration r).provider with
  | some w =>
      rw [left_of_ok (getProvider_of_some _ hslot)]
      exact renewable_of_searches h hr .refl
  | none =>
      rcases s.namesNone_or_names r with hnone | ⟨name, hname⟩
      · rw [left_of_ok (getProvider_of_namesNone _ hslot hnone)]
        exact renewable_of_searches h hr hread
      · cases hfactory : s.factory? r name with
        | none =>
            rw [left_of_ok (getProvider_of_unknown depth hslot hname hfactory)]
            exact renewable_of_searches h hr hread
        | some stored =>
            have hpath := hread.trans (goes_callFactory (searches_instantiate depth)
              (h.of_searches hread).sound name stored).path
            unfold left at hpath ⊢
            rw [getProvider_of_factory depth hslot hname hfactory, bind_run]
            cases hrun : callFactory (instantiate depth) name stored (s.afterLookUp r) with
            | error halt s' =>
                rw [hrun] at hpath
                exact renewable_of_searches h hr hpath
            | ok answer s' =>
                rw [hrun] at hpath
                obtain ⟨hsane, hhas, _, hknown⟩ := of_callFactory h hr hslot hrun
                cases answer with
                | error source => exact renewable_of_searches h hr hpath
                | ok p =>
                    have hp := hknown p rfl
                    obtain ⟨_, hlater⟩ := sound_install hsane.sound hhas hp true
                    -- what the factory has left, and then the installation
                    have haccounted : s.Accounted r ((install r p true).left s') :=
                      (accounted_of_searches h.sound hpath).trans
                        (accounted_install hsane.sound hhas hp true)
                    show Renewable r s ((adopt r (.ok p)).left s')
                    rw [left_adopt]
                    exact h.renewable hr (hsane.of_install hhas hp true)
                      (hlater.registrations r hhas).1 haccounted

end Op

/-! ## Meters -/

/-- The ways in which the registration `r` answers when it is asked for a meter in `s`. -/
inductive ObtainsMeter (depth : Nat) (r : RegistrationRef) (scope : Scope) (s : Store) :
    EStateM.Result Halt Store (Except DiscoveryError MeterRef) → Prop where
  /-- There is no provider: that is the answer, and nobody is asked for a meter. -/
  | failed {e : DiscoveryError} {s' : Store}
      (h : Op.getProvider (depth + 1) r s = .ok (.error e) s') :
      ObtainsMeter depth r scope s (.ok (.error e) s')
  | halted {halt : Halt} {s' : Store} (h : Op.getProvider (depth + 1) r s = .error halt s') :
      ObtainsMeter depth r scope s (.error halt s')
  /-- The end of the chain is asked, once, and answers or panics. -/
  | asked {p e : ProviderRef} {s' s'' : Store}
      (h : Op.getProvider (depth + 1) r s = .ok (.ok p) s') (he : s'.providerEnd? p = some e)
      (hs : Shown (s'.askMeter p e scope) s'') :
      ObtainsMeter depth r scope s (Op.answering ((s'.meterAnswer e scope).map .ok) s'')
  /-- The chain is circular: the request waits for itself. -/
  | waiting {p : ProviderRef} {s' : Store} (h : Op.getProvider (depth + 1) r s = .ok (.ok p) s')
      (he : s'.providerEnd? p = none) :
      ObtainsMeter depth r scope s (.error .waiting (s'.note (.meter p scope)))

/-- A registration that is asked for a meter answers in one of the ways. -/
theorem Op.obtainsMeter_getMeter (depth : Nat) (r : RegistrationRef) (scope : Scope) (s : Store) :
    ObtainsMeter depth r scope s (getMeter (depth + 1) r scope s) := by
  cases hrun : getProvider (depth + 1) r s with
  | error halt s' =>
      rw [getMeter, bind_of_error hrun]
      exact .halted hrun
  | ok answer s' =>
      rw [getMeter, bind_of_ok hrun]
      cases answer with
      | error e => exact .failed hrun
      | ok p =>
          simp only
          cases he : s'.providerEnd? p with
          | none =>
              rw [bind_of_error (requestMeter_of_none scope he)]
              exact .waiting hrun he
          | some e =>
              obtain ⟨s'', hs, hasked⟩ := requestMeter_run scope he
              have hanswer : (requestMeter p scope >>= fun m => pure (Except.ok m)) s' =
                  answering ((s'.meterAnswer e scope).map (.ok (ε := DiscoveryError))) s'' := by
                rw [bind_run, hasked]
                cases s'.meterAnswer e scope <;> rfl
              rw [hanswer]
              exact .asked hrun he hs.shown

/-! ## All outcomes -/

/-- In any store that can be reached, a registration that is asked for its provider or for a meter
answers in one of the ways that are listed; without a provider it reads its configuration once; and
it may be asked again, whatever the answer was. -/
theorem getProvider_outcomes {s : Store} (h : Reachable s) {r : RegistrationRef}
    (hr : s.registrations.Has r) (depth : Nat) :
    Obtains depth r s (Op.getProvider (depth + 1) r s) ∧
      ((s.registration r).provider = none →
        ((Op.getProvider (depth + 1) r).left s).lookUps = s.lookUps ++
          (s.registration r).discovery.source.shownKeys (s.registration r).discovery.key) ∧
      Renewable r s ((Op.getProvider (depth + 1) r).left s) ∧
      ∀ scope, ObtainsMeter depth r scope s (Op.getMeter (depth + 1) r scope s) :=
  ⟨Op.obtains_getProvider depth h.sane hr, Op.lookUps_getProvider (depth + 1),
    Op.renewable_getProvider depth h.sane hr,
    fun scope => Op.obtainsMeter_getMeter depth r scope s⟩

/-- A registration whose configuration names a factory that mends the configuration and fails. -/
def Store.mending : Store :=
  Scenario.after 2 none (.initial .empty)
    [.registry "g" true,
      .register (.own "g") "x" (.mk [.configure "r" "k" (some "noop")] (.fails "not yet" [])),
      .registration "r" (some "k") (.settings [("k", " x ")]) (some "g")]

theorem reachable_mending : Reachable .mending := .after _ _ (.initial _) (by decide)

theorem getProvider_outcomes_mending :
    Obtains 1 ⟨0⟩ .mending (Op.getProvider 2 ⟨0⟩ .mending) ∧
      ((Store.mending.registration ⟨0⟩).provider = none →
        ((Op.getProvider 2 ⟨0⟩).left .mending).lookUps = Store.mending.lookUps ++ ["k"]) ∧
      Renewable ⟨0⟩ .mending ((Op.getProvider 2 ⟨0⟩).left .mending) ∧
      ∀ scope, ObtainsMeter 1 ⟨0⟩ scope .mending (Op.getMeter 2 ⟨0⟩ scope .mending) :=
  getProvider_outcomes reachable_mending (by decide +kernel) 1

end DeferredMetrics
