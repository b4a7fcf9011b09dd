import DeferredMetrics.Proofs.Changes

set_option autoImplicit false

/-! # Discovery is a search

`Op.Goes R op s Q` says that the operation `op` goes from the store `s` along a path of changes in
`R`, whether it answers or not, and that `Q` holds of what it answers and leaves. The rules take
operations apart as they are put together. The main statement is `goes_resolve`: whatever factories
do, resolving a configuration is a path of changes of `Search`. Looking for the provider in effect
is such a path, and after it perhaps the installation of what was found (`goes_getProvider`). -/

namespace DeferredMetrics

open Relation (ReflTransGen)

/-- The error says that the factory `name` was run and has failed. -/
def DiscoveryError.OfFactory (name : String) : DiscoveryError → Prop
  | .factoryFailed other _ _ => other = name
  | .factoryRefused other _ => other = name
  | .unknownProvider .. => False

/-- The action neither offers a provider nor asks a registry for one. -/
def FactoryAction.isSilent : FactoryAction → Bool
  | .ask .. => false
  | .offer .. => false
  | _ => true

/-- There is one message only for a factory that takes the place of another. -/
theorem Registry.eq_of_replaced? {r : Registry} {name : String} {message : Message}
    (h : r.replaced? name = some message) : message = .factoryReplaced name := by
  unfold Registry.replaced? at h
  split at h
  · exact (Option.some.inj h).symm
  · cases h

namespace Op

variable {α β : Type} {R : Store → Store → Prop} {s : Store} {Q : α → Store → Prop}

/-- The operation goes along `R`, and if it answers, `Q` holds of the answer and the store. -/
def Goes (R : Store → Store → Prop) (op : Op α) (s : Store) (Q : α → Store → Prop) : Prop :=
  match op s with
  | .ok a s' => ReflTransGen R s s' ∧ Q a s'
  | .error _ s' => ReflTransGen R s s'

/-- Nothing is said of the answer. -/
abbrev Anything : α → Store → Prop := fun _ _ => True

theorem goes_of_ok {op : Op α} {a : α} {s' : Store} (hrun : op s = .ok a s')
    (h : ReflTransGen R s s') (hQ : Q a s') : Goes R op s Q := by
  unfold Goes
  rw [hrun]
  exact ⟨h, hQ⟩

theorem goes_of_error {op : Op α} {halt : Halt} {s' : Store} (hrun : op s = .error halt s')
    (h : ReflTransGen R s s') : Goes R op s Q := by
  unfold Goes
  rw [hrun]
  exact h

theorem goes_pure {a : α} (h : Q a s) : Goes R (pure a) s Q := goes_of_ok rfl .refl h

theorem goes_throw (halt : Halt) : Goes R (throw halt : Op α) s Q := goes_of_error rfl .refl

theorem goes_modify {f : Store → Store} {Q : Unit → Store → Prop} (hR : R s (f s))
    (h : Q () (f s)) : Goes R (modify f : Op Unit) s Q := goes_of_ok rfl (.single hR) h

theorem goes_named {roster : Directory → Roster α} {name : String}
    (h : ∀ x, (roster s.directory).get? name = some x → Q x s) :
    Goes R (named roster name) s Q := by
  cases hx : (roster s.directory).get? name with
  | none => exact goes_of_error (named_of_none hx) .refl
  | some x => exact goes_of_ok (named_of_some hx) .refl (h x hx)

namespace Goes

/-- Where an operation goes, whatever it answers. -/
theorem path {op : Op α} (h : Goes R op s Q) : ReflTransGen R s (op.left s) := by
  unfold Goes at h
  unfold left
  cases hrun : op s with
  | ok a s' =>
      rw [hrun] at h
      exact h.1
  | error halt s' =>
      rw [hrun] at h
      exact h

theorem mono {op : Op α} {Q' : α → Store → Prop} (h : Goes R op s Q)
    (hQ : ∀ a s', ReflTransGen R s s' → Q a s' → Q' a s') : Goes R op s Q' := by
  unfold Goes at h ⊢
  cases hrun : op s with
  | ok a s' =>
      rw [hrun] at h
      exact ⟨h.1, hQ a s' h.1 h.2⟩
  | error halt s' =>
      rw [hrun] at h
      exact h

/-- One operation goes on where another one has got to. -/
theorem bind {op : Op α} {f : α → Op β} {Q' : β → Store → Prop} (h : Goes R op s Q)
    (hf : ∀ a s', ReflTransGen R s s' → Q a s' → Goes R (f a) s' Q') : Goes R (op >>= f) s Q' := by
  unfold Goes at h
  cases hrun : op s with
  | error halt s' =>
      rw [hrun] at h
      exact goes_of_error (bind_of_error hrun) h
  | ok a s' =>
      rw [hrun] at h
      have hnext := hf a s' h.1 h.2
      unfold Goes at hnext ⊢
      rw [bind_of_ok hrun]
      cases hrun' : f a s' with
      | ok b s'' =>
          rw [hrun'] at hnext
          exact ⟨h.1.trans hnext.1, hnext.2⟩
      | error halt s'' =>
          rw [hrun'] at hnext
          exact h.1.trans hnext

/-- An operation that goes along `R` goes along whatever `R` is made of. -/
theorem mapPaths {R' : Store → Store → Prop} {op : Op α} (h : Goes R op s Q)
    (hR : ∀ s s', ReflTransGen R s s' → ReflTransGen R' s s') : Goes R' op s Q := by
  unfold Goes at h ⊢
  cases hrun : op s with
  | ok a s' =>
      rw [hrun] at h
      exact ⟨hR s s' h.1, h.2⟩
  | error halt s' =>
      rw [hrun] at h
      exact hR s s' h

end Goes

theorem goes_get_bind {f : Store → Op β} {Q : β → Store → Prop} (h : Goes R (f s) s Q) :
    Goes R (get >>= f) s Q := h

theorem goes_pure_bind {a : α} {f : α → Op β} {Q : β → Store → Prop} (h : Goes R (f a) s Q) :
    Goes R (pure a >>= f) s Q := h

theorem goes_named_bind {roster : Directory → Roster α} {name : String} {f : α → Op β}
    {Q : β → Store → Prop}
    (h : ∀ x, (roster s.directory).get? name = some x → Goes R (f x) s Q) :
    Goes R (named roster name >>= f) s Q :=
  (goes_named fun _ hx => (⟨rfl, hx⟩ : s = s ∧ _)).bind
    (Q := fun x s' => s = s' ∧ (roster s.directory).get? name = some x)
    fun _ _ _ hx => hx.1 ▸ h _ hx.2

/-- An operation that is one change. -/
theorem goes_of_left {op : Op α} (h : R s (op.left s)) : Goes R op s Anything := by
  cases hrun : op s with
  | ok a s' => exact goes_of_ok hrun (.single (left_of_ok hrun ▸ h)) trivial
  | error halt s' => exact goes_of_error hrun (.single (left_of_error hrun ▸ h))

/-- An operation that makes one change and goes on as another one does. -/
theorem goes_of_run {op op' : Op α} {s' : Store} (hrun : op s = op' s') (hR : R s s')
    (h : Goes R op' s' Q) : Goes R op s Q := by
  unfold Goes at h ⊢
  rw [hrun]
  cases hrun' : op' s' with
  | ok a s'' =>
      rw [hrun'] at h
      exact ⟨.head hR h.1, h.2⟩
  | error halt s'' =>
      rw [hrun'] at h
      exact .head hR h

theorem goes_modify_bind {g : Store → Store} {f : Unit → Op β} {Q : β → Store → Prop}
    (hR : R s (g s)) (h : Goes R (f ()) (g s) Q) : Goes R (modify g >>= f) s Q :=
  (goes_modify hR rfl).bind (Q := fun _ s' => g s = s') fun _ _ _ hs' => hs' ▸ h

/-- Doing something for each member of a list keeps what each time keeps. -/
theorem goes_forM {I : Store → Prop} {f : α → Op Unit} {l : List α} (h : I s)
    (hf : ∀ a ∈ l, ∀ s, I s → Goes R (f a) s fun _ s' => I s') :
    Goes R (l.forM f) s fun _ s' => I s' := by
  induction l generalizing s with
  | nil => exact goes_pure h
  | cons a l ih =>
      refine Goes.bind (hf a List.mem_cons_self s h) fun _ s' _ hs' => ?_
      exact ih hs' fun b hb => hf b (List.mem_cons_of_mem a hb)

/-! ## What factories do

What a factory does is silent, unless it offers a provider. -/

theorem silent_of_path {s' : Store} (h : ReflTransGen Silent s s') : Silent s s' := by
  induction h with
  | refl => exact .refl s
  | tail _ hlast ih => exact ih.trans hlast

/-- Where all is silent, nothing is decided. -/
theorem Goes.searches {op : Op α} (h : Goes Silent op s Q) : Goes Search op s Q :=
  h.mapPaths fun _ _ hpath => ReflTransGen.mono (fun _ _ => .silent) _ _ hpath

theorem goes_see {e : Event} (he : e.isDecision = false) (hrepeat : e.isRepeat = false) :
    Goes Silent (see e) s Anything :=
  goes_modify (.see s he hrepeat) trivial

theorem goes_identify {p : Option ProviderRef} (hp : ∀ q, p = some q → s.providers.Has q) :
    Goes Silent (identify p) s Anything := by
  obtain ⟨id, s', hrun, hsilent⟩ := Silent.identify hp
  exact goes_of_ok hrun (.single hsilent) trivial

theorem goes_registered {r : RegistrationRef} (h : Sound s) :
    Goes Silent (registered r) s fun p s' => ∀ q, p = some q → s'.providers.Has q :=
  goes_of_ok rfl .refl fun q hq => h.owners.slots r q hq

theorem goes_register (g : RegistryRef) (name : String) (factory : StoredFactory) :
    Goes Silent (register g name factory) s Anything := by
  refine goes_get_bind (goes_modify_bind (.updateRegistry s g _) ?_)
  cases hreplaced : (s.registry g).replaced? name with
  | none => exact goes_pure trivial
  | some message =>
      rw [Registry.eq_of_replaced? hreplaced]
      exact goes_see rfl rfl

theorem goes_configure (r : RegistrationRef) (key : String) (value : Option String) :
    Goes Silent (configure r key value) s Anything :=
  goes_modify (.updateRegistration s r fun _ => ⟨rfl, rfl, rfl⟩) trivial

theorem providerNamed_of_some {name : String} {q : NamedProvider}
    (h : s.directory.providers.get? name = some q) : providerNamed name s = .ok q.ref s := by
  rw [providerNamed, bind_of_ok (named_of_some h)]
  rfl

theorem providerNamed_of_none {name : String} (h : s.directory.providers.get? name = none) :
    providerNamed name s = .error (.unnamed name) s := by
  rw [providerNamed, bind_of_error (named_of_none h)]

theorem goes_providerNamed (h : Sound s) {name : String} :
    Goes Silent (providerNamed name) s fun p s' => s'.providers.Has p :=
  goes_named_bind fun q hq => goes_pure (h.names.providers name q hq)

theorem goes_providerNamed_bind {name : String} {f : ProviderRef → Op β} {Q : β → Store → Prop}
    (h : Sound s) (hf : ∀ p, s.providers.Has p → Goes R (f p) s Q) :
    Goes R (providerNamed name >>= f) s Q := by
  unfold providerNamed
  rw [bind_assoc]
  exact goes_named_bind fun q hq => hf q.ref (h.names.providers name q hq)

/-- A new provider. -/
theorem goes_makeProvider {p : Provider} (htarget : p.target? = none) (hissued : p.issued = []) :
    Goes Silent (makeProvider p) s fun r s' => s'.providers.Has r :=
  goes_of_ok rfl (.single (.addProvider s htarget hissued)) (s.providers.has_next_add p)

theorem goes_makeNamed (name : String) {p : Provider} (htarget : p.target? = none)
    (hissued : p.issued = []) :
    Goes Silent (makeNamed name p) s fun r s' => s'.providers.Has r :=
  (goes_makeProvider htarget hissued).bind fun _ s' _ hr =>
    goes_modify_bind (.enterProvider s' name hr) (goes_pure hr)

theorem goes_build (h : Sound s) (name : String) (spec : ProviderSpec) :
    Goes Silent (build name spec) s fun r s' => s'.providers.Has r := by
  cases spec with
  | recording => exact goes_makeNamed name rfl rfl
  | noop => exact goes_makeNamed name rfl rfl
  | deferred => exact goes_makeNamed name rfl rfl
  | deferredOf registration =>
      refine goes_named_bind fun o ho => goes_get_bind ?_
      have hknown := h.owners.known o (h.names.registrations registration o ho)
      exact goes_modify_bind (.enterProvider s name hknown) (goes_pure hknown)
  | existing other =>
      refine goes_named_bind fun q hq => ?_
      have hknown := h.names.providers other q hq
      exact goes_modify_bind (.enterProvider s name hknown) (goes_pure hknown)
  | probe panicMeters panicInstruments peek => exact goes_makeNamed name rfl rfl
  | sdk reject => exact goes_makeNamed name rfl rfl

theorem goes_buildInvented (h : Sound s) (spec : ProviderSpec) :
    Goes Silent (buildInvented spec) s fun r s' => s'.providers.Has r := by
  have hinvent : ∀ spec, Goes Silent (invent >>= fun name => build name spec) s
      fun r s' => s'.providers.Has r := by
    intro spec
    have hname : Goes Silent invent s Anything :=
      goes_get_bind (goes_modify_bind (.countInvention s) (goes_pure trivial))
    exact hname.bind fun name s' hpath _ => goes_build ((silent_of_path hpath).sound h) name spec
  cases spec with
  | existing other => exact goes_providerNamed h
  | _ => exact hinvent _

/-- What asking a registry goes to: if there is a provider, it is one that there is. -/
abbrev Finds {γ : Type} (found : γ → Option ProviderRef) : Except DiscoveryError γ → Store → Prop :=
  fun answer s => ∀ x p, answer = .ok x → found x = some p → s.providers.Has p

/-- Asking a registry is a search. -/
def Asker.Searches (ask : Asker) : Prop :=
  ∀ {s}, Sound s → ∀ g key name, Goes Search (ask g key name) s (Finds some)

variable {ask : Asker}

/-- What a factory does decides nothing, unless it offers a provider or asks a registry. -/
theorem goes_act_of_isSilent (h : Sound s) {action : FactoryAction}
    (hsilent : action.isSilent = true) : Goes Silent (act ask action) s Anything := by
  cases action with
  | register registry name factory =>
      exact goes_named_bind fun g _ => goes_register g name (.program factory)
  | names registry => exact goes_named_bind fun g _ => goes_get_bind (goes_see rfl rfl)
  | registered registration =>
      refine goes_named_bind fun o ho => (goes_registered h).bind fun p s' _ hp => ?_
      exact (goes_identify hp).bind fun _ _ _ _ => goes_see rfl rfl
  | configure registration key value =>
      exact goes_named_bind fun o _ => goes_configure o key value
  | ask registry key name => cases hsilent
  | offer registration provider => cases hsilent

/-- Whatever a factory does is a search. -/
theorem goes_act (hask : ask.Searches) (h : Sound s) (action : FactoryAction) :
    Goes Search (act ask action) s Anything := by
  cases action with
  | ask registry key name =>
      exact goes_named_bind fun g _ => (hask h g key name).bind fun _ _ _ _ => goes_pure trivial
  | offer registration provider =>
      refine goes_named_bind fun o ho => goes_providerNamed_bind h fun p hp => ?_
      exact goes_of_left (.offered ho hp)
  | _ => exact (goes_act_of_isSilent h rfl).searches

theorem goes_finish (hask : ask.Searches) (h : Sound s) (name : String) (outcome : Outcome) :
    Goes Search (finish ask name outcome) s (Finds some) := by
  cases outcome with
  | panics payload => exact goes_throw _
  | fails reason causes => exact goes_pure fun _ _ hx => nomatch hx
  | delegates registry key other =>
      refine goes_named_bind fun g _ => (hask h g key other).bind fun answer s' _ hfound => ?_
      cases answer with
      | ok p => exact goes_pure hfound
      | error e => exact goes_pure fun _ _ hx => nomatch hx
  | makes spec =>
      refine (goes_buildInvented h spec).searches.bind fun p s' _ hp => goes_pure ?_
      rintro x q ⟨⟩ ⟨⟩
      exact hp

theorem ofFactory_of_finish {name : String} {outcome : Outcome} {e : DiscoveryError} {s' : Store}
    (h : finish ask name outcome s = .ok (.error e) s') : e.OfFactory name := by
  cases outcome with
  | panics payload => cases h
  | fails reason causes =>
      cases h
      rfl
  | delegates registry key other =>
      rw [finish, bind_run] at h
      cases hnamed : named Directory.registries registry s with
      | error halt s₁ => rw [hnamed] at h; cases h
      | ok g s₁ =>
          rw [hnamed] at h
          simp only [bind_run] at h
          cases hasked : ask g key other s₁ with
          | error halt s₂ => rw [hasked] at h; cases h
          | ok answer s₂ =>
              rw [hasked] at h
              cases answer with
              | ok p => cases h
              | error source =>
                  cases h
                  rfl
  | makes spec =>
      rw [finish, bind_run] at h
      cases hmade : buildInvented spec s with
      | error halt s₁ => rw [hmade] at h; cases h
      | ok p s₁ => rw [hmade] at h; cases h

theorem goes_runFactory (hask : ask.Searches) (h : Sound s) (name : String)
    (stored : StoredFactory) : Goes Search (runFactory ask name stored) s (Finds some) := by
  cases stored with
  | noop =>
      refine (goes_makeProvider rfl rfl).searches.bind fun p s' _ hp => goes_pure ?_
      rintro x q ⟨⟩ ⟨⟩
      exact hp
  | program factory =>
      refine (goes_see rfl rfl).searches.bind fun _ s₁ hpath₁ _ => ?_
      have hs₁ := (sound_of_searches h hpath₁).1
      -- the outcome starts from what the actions have left
      have hactions : Goes Search (factory.actions.forM (act ask)) s₁ fun _ s' => Sound s' := by
        refine goes_forM hs₁ fun action _ s' hs' => (goes_act hask hs' action).mono ?_
        exact fun _ s'' hpath _ => (sound_of_searches hs' hpath).1
      exact hactions.bind fun _ s₂ _ hs₂ => goes_finish hask hs₂ name factory.outcome

theorem instantiate_of_none {g : RegistryRef} {name : String} (depth : Nat) (key : String)
    (h : (s.registry g).get? name = none) :
    instantiate (depth + 1) g key name s = .ok (.error (.unknownProvider key name)) s := by
  rw [instantiate, bind_of_ok (get_run s)]
  simp only [h]
  rfl

theorem instantiate_of_some {g : RegistryRef} {name : String} {factory : StoredFactory}
    (depth : Nat) (key : String) (h : (s.registry g).get? name = some factory) :
    instantiate (depth + 1) g key name s = runFactory (instantiate depth) name factory s := by
  rw [instantiate, bind_of_ok (get_run s)]
  simp only [h]

theorem searches_instantiate (depth : Nat) : (instantiate depth).Searches := by
  -- a factory that asks a registry does so one level less deep
  induction depth with
  | zero => exact fun _ _ _ _ => goes_throw _
  | succ depth ih =>
      intro s h g key name
      refine goes_get_bind ?_
      cases (s.registry g).get? name with
      | none => exact goes_pure fun _ _ hx => nomatch hx
      | some stored => exact goes_runFactory ih h name stored

theorem goes_instantiate (depth : Nat) (h : Sound s) (g : RegistryRef) (key name : String) :
    Goes Search (instantiate depth g key name) s (Finds some) :=
  searches_instantiate depth h g key name

/-- A factory that answers an error is the one that the error speaks of. -/
theorem ofFactory_of_runFactory {name : String} {stored : StoredFactory} {e : DiscoveryError}
    {s' : Store} (h : runFactory ask name stored s = .ok (.error e) s') : e.OfFactory name := by
  cases stored with
  | noop => cases h
  | program factory =>
      rw [runFactory, bind_of_ok (see_run _ s), bind_run] at h
      cases hactions : factory.actions.forM (act ask) (s.see (.factory name)) with
      | error halt s₁ => rw [hactions] at h; cases h
      | ok _ s₁ =>
          rw [hactions] at h
          exact ofFactory_of_finish h

theorem goes_lookUp (source : Source) (key : String) :
    Goes Silent (lookUp source key) s Anything := by
  cases source with
  | settings values => exact (goes_see rfl rfl).bind fun _ _ _ _ => goes_pure trivial
  | environment => exact goes_get_bind (goes_pure trivial)

/-- Discovery is a search, and what it finds is a provider that there is. -/
theorem goes_resolve (depth : Nat) (h : Sound s) (r : RegistrationRef) :
    Goes Search (resolve depth r) s (Finds id) := by
  refine goes_get_bind ((goes_lookUp _ _).searches.bind fun value s' hpath _ => ?_)
  have hs' := (sound_of_searches h hpath).1
  cases value with
  | none =>
      refine goes_pure ?_
      rintro x p ⟨⟩ ⟨⟩
  | some value =>
      simp only
      split
      · refine goes_pure ?_
        rintro x p ⟨⟩ ⟨⟩
      · refine (goes_instantiate depth hs' _ _ _).bind fun answer s'' _ hfound => goes_pure ?_
        intro x p hx hp
        cases answer with
        | error e => cases hx
        | ok q =>
            cases hx
            exact hfound q p rfl hp

/-- What a registration answers when it is asked for the provider in effect: the one that it has
written down, or else its deferred provider. -/
abbrev InEffect (r : RegistrationRef) : Except DiscoveryError ProviderRef → Store → Prop :=
  fun answer s => ∀ p, answer = .ok p →
    (s.registration r).provider = some p ∨ p = (s.registration r).deferred

theorem registered_run {r : RegistrationRef} {slot : Option ProviderRef}
    (h : (s.registration r).provider = slot) : registered r s = .ok slot s := by
  rw [registered, bind_of_ok (get_run s), h]
  rfl

/-- A registered provider is what is found, and nothing is looked up for it. -/
theorem getProvider_of_some {r : RegistrationRef} {w : ProviderRef} (depth : Nat)
    (h : (s.registration r).provider = some w) : getProvider depth r s = .ok (.ok w) s := by
  rw [getProvider, bind_of_ok (registered_run h)]
  rfl

/-- Looking for the provider in effect goes along whatever searches go along, and the installation
of a provider that was found. -/
theorem goes_getProvider {R : Store → Store → Prop} (depth : Nat) (h : Sound s) {name : String}
    {r : RegistrationRef} (hr : s.directory.registrations.get? name = some r)
    (hsearch : ∀ s s', ReflTransGen Search s s' → ReflTransGen R s s')
    (hinstall : ∀ s p, s.directory.registrations.get? name = some r → s.providers.Has p →
      R s ((install r p true).left s)) :
    Goes R (getProvider depth r) s (InEffect r) := by
  refine goes_get_bind ?_
  cases hslot : (s.registration r).provider with
  | some p =>
      refine goes_pure ?_
      rintro q ⟨⟩
      exact .inl hslot
  | none =>
      -- what was found is there, and the search has given no names to registrations
      have hresolve : Goes Search (resolve depth r) s fun answer s' =>
          Finds id answer s' ∧ s'.directory.registrations.get? name = some r :=
        (goes_resolve depth h r).mono fun _ _ hpath hfound =>
          ⟨hfound, (congrArg (Roster.get? · name) (roster_of_searches h hpath)).trans hr⟩
      refine (hresolve.mapPaths hsearch).bind fun answer s' _ hanswer => ?_
      obtain ⟨hfound, hr'⟩ := hanswer
      cases answer with
      | error e => exact goes_pure fun _ hx => nomatch hx
      | ok found =>
          cases found with
          | none =>
              refine goes_get_bind (goes_pure ?_)
              rintro q ⟨⟩
              exact .inr rfl
          | some p =>
              have hgoes : Goes R (install r p true) s' Anything :=
                goes_of_left (hinstall s' p hr' (hfound _ p rfl rfl))
              refine hgoes.bind fun _ s₂ _ _ => goes_get_bind ?_
              -- what is written down need not be `p`: a factory may have offered another one
              cases hslot₂ : (s₂.registration r).provider with
              | some q =>
                  refine goes_pure ?_
                  rintro q' ⟨⟩
                  exact .inl hslot₂
              | none =>
                  refine goes_get_bind (goes_pure ?_)
                  rintro q ⟨⟩
                  exact .inr rfl

/-- A provider in effect is one that there is. -/
theorem has_of_inEffect (h : Sound s) {r : RegistrationRef} (hr : s.registrations.Has r)
    {answer : Except DiscoveryError ProviderRef} (hanswer : InEffect r answer s) :
    Finds some answer s := by
  rintro p q hp ⟨⟩
  rcases hanswer p hp with hslot | rfl
  · exact h.owners.slots r p hslot
  · exact h.owners.known r hr

end Op

end DeferredMetrics
