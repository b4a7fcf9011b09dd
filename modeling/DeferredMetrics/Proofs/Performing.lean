import DeferredMetrics.Proofs.Giving
import DeferredMetrics.Scenario.Run

set_option autoImplicit false

/-! # Steps are changes

Every step of a scenario is a path of changes that say nothing of second targets unless they install
a provider (`goes_perform`), but for the race in which threads create instruments beside an
installation, which has its own machine. So every store that can be reached between steps is sound
and agrees on what its registrations have decided (`reachable_sound`, `reachable_agreed`), whatever
panics on the way. Steps that neither call a callback nor make one leave all callbacks as they are
(`goes_perform_still`). -/

namespace DeferredMetrics

open Relation (ReflTransGen)

/-- Nothing is decided while samples are given. -/
theorem Gives.calm {s s' : Store} (h : Gives s s') : Calm s s' := by
  cases h with
  | note hc => exact .give hc
  | see _ => exact .see _
  | keep m events => exact .keep m events
  | poll c => exact .poll c

/-- Nothing is said of second targets while samples are given. -/
theorem Gives.repeated {s s' : Store} (h : Gives s s') : NothingRepeated s s' := by
  cases h with
  | see he => exact .see he
  | _ => exact .of_eq rfl

theorem hushed_of_gives {s s' : Store} (h : ReflTransGen Gives s s') : ReflTransGen Hushed s s' :=
  ReflTransGen.mono (fun _ _ hgives => .calm hgives.calm hgives.repeated) s s' h

namespace Op

variable {α β : Type} {s : Store} {Q : α → Store → Prop}

/-- What goes along changes of discovery goes along changes that call no callback. -/
theorem Goes.stills {op : Op α} (h : Goes Search op s Q) : Goes Still op s Q :=
  h.mapPaths fun _ _ => stills_of_searches

theorem Goes.hushed {op : Op α} (h : Goes Still op s Q) : Goes Hushed op s Q :=
  h.mapPaths fun _ _ => hushed_of_stills

/-- One operation goes on in a sound store where another one has got to. -/
theorem Goes.andThen {op : Op α} {f : α → Op β} {Q' : β → Store → Prop} (h : Goes Still op s Q)
    (hs : Sound s) (hf : ∀ a s', Sound s' → Q a s' → Goes Still (f a) s' Q') :
    Goes Still (op >>= f) s Q' :=
  h.bind fun a s' hpath ha => hf a s' (sound_of_changes hs (changes_of_stills hpath)).1 ha

theorem goes_calm {f : Store → Store} (hcalm : Calm s (f s)) (htrace : (f s).trace = s.trace)
    (hcallbacks : (f s).callbacks = s.callbacks) :
    Goes Still (modify f : Op Unit) s Anything :=
  goes_modify (.calm hcalm (.of_eq htrace) hcallbacks) trivial

/-! ## Requests -/

theorem goes_answering {op : Op α} {answer : Except Payload α} {s' : Store}
    (hrun : op s = answering answer s') (hstill : Still s s') : Goes Still op s Anything := by
  cases answer with
  | ok a => exact goes_of_ok hrun (.single hstill) trivial
  | error payload => exact goes_of_error hrun (.single hstill)

theorem goes_requestMeter {p : ProviderRef} (hp : s.providers.Has p) (scope : Scope) :
    Goes Still (requestMeter p scope) s Anything := by
  cases he : s.providerEnd? p with
  | none =>
      exact goes_of_error (requestMeter_of_none scope he)
        (.single (.calm (.note (.loseMeter scope he) rfl) (.of_eq rfl) rfl))
  | some e =>
      obtain ⟨s', hs', hrun⟩ := requestMeter_run scope he
      have hcalm := (Calm.askMeter scope hp he).trans (.of_shown hs'.shown)
      have hrepeated : NothingRepeated s s' :=
        .trans (.of_eq (Store.directory_askMeter s p e scope).2) (.of_shown hs'.shown)
      exact goes_answering hrun (.calm hcalm hrepeated
        (hs'.shown.callbacks.trans (Aside.askMeter s p e scope).callbacks))

theorem goes_requestInstrument (h : Sound s) (m : MeterRef) (request : Request) :
    Goes Still (requestInstrument m request) s Anything := by
  cases ht : s.meterEnd? m with
  | none =>
      exact goes_of_error (requestInstrument_of_none request ht)
        (.single (.calm (.note (.loseInstrument request ht) rfl) (.of_eq rfl) rfl))
  | some t =>
      have hfits : s.MeterFits t := fun e he => (h.tree.fits t e he).2
      obtain ⟨s', hs', hrun⟩ := requestInstrument_run request ht hfits
      have hcalm := (Calm.askInstrument request ht).trans (.of_shown hs'.shown)
      have hrepeated : NothingRepeated s s' :=
        .trans (.of_eq (Store.directory_askInstrument s m t request).2) (.of_shown hs'.shown)
      exact goes_answering hrun (.calm hcalm hrepeated
        (hs'.shown.callbacks.trans (Aside.askInstrument s m t request).callbacks))

/-! ## Samples and observations -/

theorem stills_accept (e : InstrumentRef) (sample : Sample) (attributes : AttributeSet) :
    ReflTransGen Still s (s.accept e sample attributes) := by
  unfold Store.accept
  simp only
  split
  · exact .refl
  · exact .refl
  · exact .single (.calm (.keep _ _) (.of_eq rfl) rfl)
  · exact .single (.calm (.see _) (.see rfl) rfl)

theorem goes_record (i : InstrumentRef) (sample : Sample) (attributes : AttributeSet) :
    Goes Still (record i sample attributes) s Anything := by
  refine (goes_calm (.give rfl) rfl rfl).bind fun _ s₁ _ _ => ?_
  refine (goes_instrumentEnd i).bind fun e s₂ _ _ => ?_
  exact goes_of_ok rfl (stills_accept e sample attributes) trivial

theorem goes_poll (c : CallbackRef) : Goes Hushed (poll c) s Anything :=
  (gives_poll c).mapPaths fun _ _ => hushed_of_gives

theorem goes_observe (i : InstrumentRef) : Goes Hushed (observe i) s Anything :=
  (gives_observe i).mapPaths fun _ _ => hushed_of_gives

theorem goes_collect (p : ProviderRef) : Goes Hushed (collect p) s Anything :=
  (gives_collect p).mapPaths fun _ _ => hushed_of_gives

/-! ## Names -/

theorem goes_registryNamed {R : Store → Store → Prop} (name : RegistryName) :
    Goes R (registryNamed name) s Anything := by
  cases name with
  | own name => exact goes_named fun _ _ => trivial
  | ofRegistration name => exact goes_named_bind fun o _ => goes_get_bind (goes_pure trivial)

/-- What a deferred provider is bound to is known. -/
theorem goes_deferredAt (h : Sound s) (r : ProviderRef) (label : String) :
    Goes Still (match s.provider r with
      | .deferred p => pure p
      | _ => throw (.unnamed label) : Op DeferredProvider) s fun p s' =>
        ∀ q, p.target = some q → s'.providers.Has q := by
  cases hr : s.provider r with
  | deferred p =>
      refine goes_pure fun q hq => h.bindings.known r q ?_
      rw [hr]
      exact hq
  | _ => exact goes_throw _

theorem goes_deferredNamed (h : Sound s) (name : DeferredName) :
    Goes Still (deferredNamed name) s fun p s' =>
      ∀ q, p.target = some q → s'.providers.Has q := by
  cases name with
  | own name =>
      exact goes_get_bind (goes_providerNamed_bind h fun p _ => goes_deferredAt h p name)
  | ofRegistration name =>
      exact goes_named_bind fun o _ => goes_get_bind (goes_get_bind (goes_deferredAt h _ name))

theorem goes_issuedMeterNamed (h : Sound s) (name : DeferredName) (index : Nat) :
    Goes Still (issuedMeterNamed name index) s Anything := by
  refine (goes_deferredNamed h name).bind fun p s' _ _ => ?_
  split
  · exact goes_pure trivial
  · exact goes_throw _

theorem goes_nameMeter (id : String) (m : MeterRef) : Goes Still (nameMeter id m) s Anything :=
  goes_modify_bind (.calm (.updateDirectory rfl rfl) (.of_eq rfl) rfl)
    (goes_get_bind (goes_pure trivial))

/-- A meter that stands alone. -/
theorem goes_makeMeter {m : Meter} (hissuer : m.issuer = none) (hbody : m.body.isDeferred = false) :
    Goes Still (makeMeter m) s Anything :=
  goes_get_bind
    (goes_modify_bind (.calm (.addMeter hissuer hbody) (.of_eq rfl) rfl) (goes_pure trivial))

theorem goes_meterNamed (name : String) : Goes Still (meterNamed name) s Anything :=
  goes_named fun _ _ => trivial

theorem goes_instrumentNamed (name : String) : Goes Still (instrumentNamed name) s Anything :=
  goes_named_bind fun _ _ => goes_pure trivial

theorem goes_addTo (name : String) (value : Int) (attributes : AttributeSet) :
    Goes Still (addTo name value attributes) s Anything := by
  refine (goes_instrumentNamed name).bind fun i s₁ _ _ => goes_get_bind ?_
  unfold sampleFor
  split
  · exact goes_pure_bind (goes_record i _ attributes)
  · exact goes_pure_bind (goes_record i _ attributes)
  · exact (goes_throw (Q := Anything) _).bind fun _ _ _ _ => goes_record i _ attributes

theorem goes_repeatedly {op : Op Unit} (hop : ∀ s, Goes Still op s Anything) (n : Nat) :
    Goes Still (repeatedly op n) s Anything := by
  induction n generalizing s with
  | zero => exact goes_pure trivial
  | succ n ih => exact (hop s).bind fun _ _ _ _ => ih

/-! ## Registrations -/

theorem goes_showFound {found : Except DiscoveryError (Option ProviderRef)}
    (h : Finds id found s) : Goes Search (showFound found) s Anything := by
  cases found with
  | error e => exact goes_pure trivial
  | ok p =>
      have hknown : ∀ q, p = some q → s.providers.Has q := fun q hq => h p q rfl hq
      exact (goes_identify hknown).searches.bind fun _ _ _ _ => goes_pure trivial

/-- Showing what looking for the provider in effect has found. -/
theorem goes_showEffect (h : Sound s) {r : RegistrationRef} (hr : s.registrations.Has r)
    {answer : Except DiscoveryError ProviderRef} (hanswer : InEffect r answer s) :
    Goes Search (showFound (answer.map some)) s Anything := by
  refine goes_showFound ?_
  cases answer with
  | error e => exact fun _ _ hx => nomatch hx
  | ok p =>
      rintro x q ⟨⟩ ⟨⟩
      exact has_of_inEffect h hr hanswer p p rfl rfl

theorem goes_setProvider {name : String} {r : RegistrationRef} {p : ProviderRef}
    (hr : s.directory.registrations.get? name = some r) (hp : s.providers.Has p) :
    Goes Still (setProvider r p) s Anything := goes_of_left (.install false hr hp)

theorem stills_getProvider (depth : Nat) (h : Sound s) {name : String} {r : RegistrationRef}
    (hr : s.directory.registrations.get? name = some r) :
    Goes Still (getProvider depth r) s (InEffect r) :=
  goes_getProvider depth h hr (fun _ _ => stills_of_searches) fun _ _ => .install true

theorem goes_getMeter (depth : Nat) (h : Sound s) {name : String} {r : RegistrationRef}
    (hr : s.directory.registrations.get? name = some r) (scope : Scope) :
    Goes Still (getMeter depth r scope) s Anything := by
  refine (stills_getProvider depth h hr).bind fun answer s' hpath hanswer => ?_
  obtain ⟨hs', hlater⟩ := sound_of_changes h (changes_of_stills hpath)
  have hknown :=
    has_of_inEffect hs' (hlater.registrations r (h.names.registrations name r hr)).1 hanswer
  cases answer with
  | error e => exact goes_pure trivial
  | ok p =>
      have hknown := hknown p p rfl rfl
      exact (goes_requestMeter hknown scope).bind fun _ _ _ _ => goes_pure trivial

theorem goes_registration (id : String) (key : Option String) (source : SourceSpec)
    (registry : Option String) : Goes Still (registration id key source registry) s Anything := by
  have hmake : ∀ (s : Store) (discovery : Discovery), Goes Still (makeRegistration discovery) s
      fun r s' => s'.registrations.Has r := by
    intro s discovery
    exact goes_of_ok rfl (.single ⟨.register discovery, fun _ => rfl⟩)
      (s.registrations.has_next_add _)
  have hrest : ∀ (s : Store) (g : RegistryRef) (discovery : Discovery),
      Goes Still (makeRegistration discovery >>= fun o =>
        modify (fun s => s.updateDirectory fun d =>
          { d with registrations := d.registrations.insert id o }) >>= fun _ =>
        get >>= fun s =>
          pure (Reply.registration (key.getD Discovery.defaultKey) (s.registry g).names))
        s Anything := by
    intro s g discovery
    refine (hmake s discovery).bind fun o s' _ ho => ?_
    exact goes_modify_bind (.calm (.nameRegistration id ho) (.of_eq rfl) rfl)
      (goes_get_bind (goes_pure trivial))
  cases registry with
  | none =>
      refine goes_get_bind (goes_modify_bind (.calm (.addRegistry _) (.of_eq rfl) rfl) ?_)
      exact hrest _ _ _
  | some name => exact goes_named_bind fun g _ => hrest s g _

theorem goes_callbackFor (id : String) (kind : Kind) (callback : Option String) :
    Goes Still (callbackFor id kind callback) s fun _ s' => s' = s := by
  unfold callbackFor
  split
  · exact goes_named_bind fun c _ => goes_pure rfl
  · exact goes_throw _
  · exact goes_pure rfl

theorem goes_requestNamed (h : Sound s) (m : MeterRef) (id : String) (request : Request) :
    Goes Still (requestNamed m id request) s Anything := by
  refine goes_get_bind ((goes_requestInstrument h m request).bind fun i s' _ _ => goes_get_bind ?_)
  exact goes_modify_bind (.calm (.updateDirectory rfl rfl) (.of_eq rfl) rfl) (goes_pure trivial)

theorem goes_create (h : Sound s) (meter id : String) (kind : Kind) (descriptor : Descriptor)
    (callback : Option String) :
    Goes Still (create meter id kind descriptor callback) s Anything := by
  refine goes_named_bind fun m _ => (goes_callbackFor id kind callback).bind fun c s' _ hs' => ?_
  rw [hs']
  exact goes_requestNamed h m id _

theorem goes_lookAtTree (h : Sound s) (provider : DeferredName) :
    Goes Still (lookAtTree provider) s Anything := by
  refine (goes_deferredNamed h provider).bind fun p s' _ htarget => ?_
  exact (goes_identify htarget).searches.stills.bind fun _ _ _ _ =>
    goes_get_bind (goes_pure trivial)

end Op

/-- The step does one thing after the other; no thread works beside it. -/
def Step.sequential : Step → Bool
  | .race .. => false
  | .raceCreate .. => false
  | _ => true

/-- The step is one that calls no callback and makes none. -/
def Step.still : Step → Bool
  | .observe _ => false
  | .callback .. => false
  | .poll _ => false
  | .collect _ => false
  | .race .. => false
  | .raceCreate .. => false
  | _ => true

namespace Op

variable {s : Store}

/-- What a step does that calls no callback. -/
theorem goes_perform_still (depth : Nat) (processWide : Option RegistrationRef) (h : Sound s)
    {x : Step} (hx : x.still = true) : Goes Still (perform depth processWide x) s Anything := by
  cases x with
  | provider id spec =>
      exact (goes_build h id spec).searches.stills.bind fun _ _ _ _ => goes_pure trivial
  | registry id withNoop =>
      refine goes_get_bind (goes_modify_bind (.calm (.addRegistry _) (.of_eq rfl) rfl) ?_)
      exact goes_modify_bind (.calm (.updateDirectory rfl rfl) (.of_eq rfl) rfl)
        (goes_get_bind (goes_pure trivial))
  | register registry name factory =>
      refine (goes_registryNamed registry).bind fun g s' _ _ => ?_
      exact (goes_register g name _).searches.stills.bind fun _ _ _ _ => goes_pure trivial
  | names registry =>
      exact (goes_registryNamed registry).bind fun _ _ _ _ => goes_get_bind (goes_pure trivial)
  | contains registry name =>
      exact (goes_registryNamed registry).bind fun _ _ _ _ => goes_get_bind (goes_pure trivial)
  | instantiate registry key name =>
      refine (goes_registryNamed registry).andThen h fun g s' hs' _ => ?_
      refine (goes_instantiate depth hs' g key name).stills.bind fun answer s'' _ hfound => ?_
      refine (goes_showFound ?_).stills
      cases answer with
      | error e => exact fun _ _ hx => nomatch hx
      | ok p =>
          rintro x q ⟨⟩ ⟨⟩
          exact hfound p p rfl rfl
  | outlineRegistry registry =>
      exact (goes_registryNamed registry).bind fun _ _ _ _ => goes_get_bind (goes_pure trivial)
  | registration id key source registry => exact goes_registration id key source registry
  | configure registration key value =>
      refine goes_named_bind fun o _ => ?_
      exact (goes_configure o key value).searches.stills.bind fun _ _ _ _ => goes_pure trivial
  | resolve registration =>
      refine goes_named_bind fun o ho => ?_
      refine (goes_resolve depth h o).stills.bind fun _ _ _ hfound => ?_
      exact (goes_showFound hfound).stills
  | getProvider registration =>
      refine goes_named_bind fun o ho => ?_
      refine (stills_getProvider depth h ho).bind fun answer s' hpath hanswer => ?_
      obtain ⟨hs', hlater⟩ := sound_of_changes h (changes_of_stills hpath)
      have hknown := (hlater.registrations o (h.names.registrations _ o ho)).1
      exact (goes_showEffect hs' hknown hanswer).stills
  | setProvider registration provider =>
      refine goes_named_bind fun o ho => goes_providerNamed_bind h fun p hp => ?_
      exact (goes_setProvider ho hp).bind fun _ _ _ _ => goes_pure trivial
  | registered registration =>
      refine goes_named_bind fun o _ => (goes_registered h).searches.stills.bind fun p s' _ hp => ?_
      exact (goes_identify hp).searches.stills.bind fun _ _ _ _ => goes_pure trivial
  | outline registration => exact goes_named_bind fun o _ => goes_get_bind (goes_pure trivial)
  | outlineDiscovery registration =>
      exact goes_named_bind fun o _ => goes_get_bind (goes_pure trivial)
  | tree provider => exact goes_lookAtTree h provider
  | getMeter registration id scope =>
      refine goes_named_bind fun o ho => ?_
      refine (goes_getMeter depth h ho scope).bind fun answer s' _ _ => ?_
      cases answer with
      | ok m => exact goes_nameMeter id m
      | error e => exact goes_pure trivial
  | meter provider id scope =>
      refine goes_providerNamed_bind h fun p hp => ?_
      exact (goes_requestMeter hp scope).bind fun m _ _ _ => goes_nameMeter id m
  | noopMeter id scope => exact (goes_makeMeter rfl rfl).bind fun m _ _ _ => goes_nameMeter id m
  | recordingMeter id scope =>
      exact (goes_makeMeter rfl rfl).bind fun m _ _ _ => goes_nameMeter id m
  | issuedMeter provider index id =>
      exact (goes_issuedMeterNamed h provider index).bind fun m _ _ _ => goes_nameMeter id m
  | meterTarget provider index id =>
      refine (goes_issuedMeterNamed h provider index).bind fun m s' _ _ => goes_get_bind ?_
      cases (s'.meter m).target? with
      | some t => exact goes_nameMeter id t
      | none => exact goes_pure trivial
  | scope meter =>
      exact (goes_meterNamed meter).bind fun _ _ _ _ => goes_get_bind (goes_pure trivial)
  | create meter id kind descriptor callback =>
      exact goes_create h meter id kind descriptor callback
  | add instrument value attributes =>
      exact (goes_addTo instrument value attributes).bind fun _ _ _ _ => goes_pure trivial
  | increment instrument attributes =>
      exact (goes_addTo instrument 1 attributes).bind fun _ _ _ _ => goes_pure trivial
  | record instrument value attributes =>
      refine (goes_instrumentNamed instrument).bind fun i _ _ _ => ?_
      exact (goes_record i _ attributes).bind fun _ _ _ _ => goes_pure trivial
  | observe instrument => cases hx
  | descriptor instrument =>
      exact (goes_instrumentNamed instrument).bind fun _ _ _ _ => goes_get_bind (goes_pure trivial)
  | bound instrument =>
      refine goes_named_bind fun i _ => goes_get_bind ?_
      simp only
      split <;> exact goes_pure trivial
  | instrumentTarget instrument id =>
      refine goes_named_bind fun i _ => ?_
      split
      · refine goes_get_bind ?_
        split
        · exact goes_modify_bind (.calm (.updateDirectory rfl rfl) (.of_eq rfl) rfl)
            (goes_pure trivial)
        · exact goes_pure trivial
      · exact goes_pure trivial
  | callback id kind answers additions => cases hx
  | poll callback => cases hx
  | polls callback => exact goes_named_bind fun c _ => goes_get_bind (goes_pure trivial)
  | parallelAdd instrument threads n value =>
      refine (goes_repeatedly (fun s => ?_) _).bind fun _ _ _ _ => goes_pure trivial
      exact goes_addTo instrument value .empty
  | race registration threads winner => cases hx
  | raceCreate registration meter threads provider => cases hx
  | backend provider => exact goes_providerNamed_bind h fun _ _ => goes_get_bind (goes_pure trivial)
  | events provider => exact goes_providerNamed_bind h fun _ _ => goes_get_bind (goes_pure trivial)
  | sum provider name =>
      exact goes_providerNamed_bind h fun _ _ => goes_get_bind (goes_pure trivial)
  | meterSums provider name =>
      exact goes_providerNamed_bind h fun _ _ => goes_get_bind (goes_pure trivial)
  | meterNamed provider name =>
      refine goes_providerNamed_bind h fun p _ => goes_get_bind ?_
      cases s.meterNamed? p name <;> exact goes_pure trivial
  | meterLog meter =>
      exact (goes_meterNamed meter).bind fun _ _ _ _ => goes_get_bind (goes_pure trivial)
  | meterSum meter name =>
      exact (goes_meterNamed meter).bind fun _ _ _ _ => goes_get_bind (goes_pure trivial)
  | collect provider => cases hx

/-- A sequential step goes along changes, whatever becomes of it. -/
theorem goes_perform (depth : Nat) (processWide : Option RegistrationRef) (h : Sound s) {x : Step}
    (hx : x.sequential = true) : Goes Hushed (perform depth processWide x) s Anything := by
  cases hstill : x.still with
  | true => exact (goes_perform_still depth processWide h hstill).hushed
  | false =>
      cases x with
      | observe instrument =>
          refine (goes_instrumentNamed instrument).hushed.bind fun i _ _ _ => ?_
          exact (goes_observe i).bind fun _ _ _ _ => goes_pure trivial
      | callback id kind answers additions =>
          have hmake : ∀ c, Goes Hushed (makeCallback c) s Anything := fun c =>
            goes_get_bind (goes_modify_bind (.calm (.addCallback c) (.of_eq rfl))
              (goes_pure trivial))
          refine (hmake _).bind fun c _ _ _ => ?_
          exact goes_modify_bind (.calm (.updateDirectory rfl rfl) (.of_eq rfl)) (goes_pure trivial)
      | poll callback =>
          refine goes_named_bind fun c _ => (goes_poll c).bind fun _ _ _ _ => goes_pure trivial
      | collect provider =>
          refine goes_providerNamed_bind h fun p _ => ?_
          exact (goes_collect p).bind fun _ _ _ _ => goes_pure trivial
      | race registration threads winner => cases hx
      | raceCreate registration meter threads provider => cases hx
      | _ => cases hstill

end Op

/-! ## Stores that can be reached

A scenario builds backends from descriptions, whose probes panic by name. A backend may also be code
that counts its calls and panics on any of them with any payload. So providers of any kind may come
in between two steps; from then on steps use them as any other. -/

/-- A store that is left by sequential steps, between which providers of any kind come in. -/
inductive Reachable : Store → Prop where
  | initial (environment : Environment) : Reachable (.initial environment)
  | step {s : Store} (depth : Nat) (processWide : Option RegistrationRef) {x : Step}
      (h : Reachable s) (hx : x.sequential = true) :
      Reachable (Scenario.step depth processWide s x).2
  /-- There is a new provider, whatever its probe does or the SDK behind it rejects. -/
  | backend {s : Store} (name : String) {p : Provider} (h : Reachable s)
      (htarget : p.target? = none) (hissued : p.issued = []) :
      Reachable ((Op.makeNamed name p).left s)

theorem sound_initial (environment : Environment) : Sound (.initial environment) where
  tree := ⟨nofun, fun _ _ => rfl, fun _ => .nil, nofun, nofun⟩
  instruments := ⟨fun _ => .nil, nofun, nofun⟩
  bindings := ⟨nofun, fun _ _ h => h.elim nofun nofun, nofun⟩
  owners := ⟨nofun, nofun, nofun, nofun⟩
  names := ⟨nofun, nofun⟩

/-- The store that a step leaves is the one that is left by what it performs, with an empty trace
before. -/
theorem Scenario.step_left (depth : Nat) (processWide : Option RegistrationRef) (s : Store)
    (x : Step) :
    (step depth processWide s x).2 =
      (Op.perform depth processWide x).left { s with trace := #[] } := by
  unfold step Op.left
  cases Op.perform depth processWide x { s with trace := #[] } <;> rfl

/-- What is seen of a step is the trace that it leaves. -/
theorem Scenario.step_events (depth : Nat) (processWide : Option RegistrationRef) (s : Store)
    (x : Step) :
    (step depth processWide s x).1.2 = (step depth processWide s x).2.trace.toList := by
  unfold step
  split <;> rfl

theorem Scenario.step_of_ok {depth : Nat} {processWide : Option RegistrationRef} {s s' : Store}
    {x : Step} {reply : Reply}
    (h : Op.perform depth processWide x { s with trace := #[] } = .ok reply s') :
    step depth processWide s x = ((reply, s'.trace.toList), s') := by
  rw [step, h]

theorem hushed_of_step (depth : Nat) (processWide : Option RegistrationRef) {s : Store} {x : Step}
    (h : Sound s) (hx : x.sequential = true) :
    ReflTransGen Hushed s (Scenario.step depth processWide s x).2 := by
  have hclear : Calm s { s with trace := #[] } :=
    .of_tables rfl rfl rfl rfl rfl rfl rfl
  have hempty : NothingRepeated s { s with trace := #[] } :=
    fun _ he => absurd he (Array.not_mem_empty _)
  rw [Scenario.step_left]
  exact .head (.calm hclear hempty) (Op.goes_perform depth processWide (hclear.sound h) hx).path

theorem changes_of_step (depth : Nat) (processWide : Option RegistrationRef) {s : Store} {x : Step}
    (h : Sound s) (hx : x.sequential = true) :
    ReflTransGen Change s (Scenario.step depth processWide s x).2 :=
  changes_of_hushed (hushed_of_step depth processWide h hx)

namespace Reachable

variable {s : Store}

theorem after (depth : Nat) (processWide : Option RegistrationRef) (h : Reachable s)
    {steps : List Step} (hsteps : ∀ x ∈ steps, x.sequential = true) :
    Reachable (Scenario.after depth processWide s steps) := by
  induction steps generalizing s with
  | nil => exact h
  | cons x xs ih =>
      have hhead := h.step depth processWide (hsteps x List.mem_cons_self)
      exact ih hhead fun y hy => hsteps y (List.mem_cons_of_mem x hy)

/-- What every change keeps of a sound store holds in every store that can be reached. -/
theorem induct {I : Store → Prop} (hinitial : ∀ environment, I (.initial environment))
    (hchange : ∀ s s', Sound s → I s → Change s s' → I s') (h : Reachable s) : Sound s ∧ I s := by
  -- a step or a new provider is a path of changes, and changes keep soundness
  have hpath : ∀ {s s'}, ReflTransGen Change s s' → Sound s ∧ I s → Sound s' ∧ I s' := by
    intro s s' hchanges hs
    induction hchanges with
    | refl => exact hs
    | tail _ hlast ih => exact ⟨(hlast.sound ih.1).1, hchange _ _ ih.1 ih.2 hlast⟩
  induction h with
  | initial environment => exact ⟨sound_initial environment, hinitial environment⟩
  | step depth processWide _ hx ih => exact hpath (changes_of_step depth processWide ih.1 hx) ih
  | backend name _ htarget hissued ih =>
      exact hpath (changes_of_searches (Op.goes_makeNamed name htarget hissued).searches.path) ih

end Reachable

/-- What can be reached is sound. -/
theorem reachable_sound {s : Store} (h : Reachable s) : Sound s :=
  (h.induct (I := fun _ => True) (fun _ => trivial) fun _ _ _ _ _ => trivial).1

/-- In what can be reached, the registrations agree on what they have decided. -/
theorem reachable_agreed {s : Store} (h : Reachable s) : s.Agreed :=
  (h.induct (fun _ => nofun) fun _ _ hsound hagreed hchange => hchange.agreed hsound hagreed).2

end DeferredMetrics
