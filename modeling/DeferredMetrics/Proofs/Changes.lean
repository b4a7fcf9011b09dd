import DeferredMetrics.Discovery.Resolve
import DeferredMetrics.Proofs.Install
import DeferredMetrics.Proofs.Deeds

set_option autoImplicit false

/-! # Changes

What an operation does to a store is a path of changes. A change is `Calm` if no registration
decides anything in it; what else happens is that a provider is installed, or that there is a new
registration. `Search` names the changes that resolving a configuration is made of: those that are
`Silent`, and the decisions on providers that factories offer. Soundness and agreement are
kept by every change, so they are kept by every operation that is a path of changes; `Op.Goes` takes
operations apart. -/

namespace DeferredMetrics

open Relation (ReflTransGen)

/-- The registration decides nothing between `o` and `o'`. -/
structure Registration.Rests (o o' : Registration) : Prop where
  deferred : o'.deferred = o.deferred
  provider : o'.provider = o.provider
  gate : o'.gate = o.gate

namespace Call

/-- A deferred node is told its target by the call. -/
def tells : Call → Bool
  | .bindProvider .. => true
  | .bindMeter .. => true
  | .bindInstrument .. => true
  | _ => false

end Call

/-- No deferred node is told its target between the stores. -/
def NothingTold (s s' : Store) : Prop :=
  ∃ new, s'.calls.toList = s.calls.toList ++ new ∧ ∀ c ∈ new, c.tells = false

namespace NothingTold

variable {s s' : Store}

theorem of_eq (h : s'.calls = s.calls) : NothingTold s s' := ⟨[], by rw [h, List.append_nil], nofun⟩

theorem trans {s'' : Store} (h : NothingTold s s') (h' : NothingTold s' s'') :
    NothingTold s s'' := by
  obtain ⟨new, hcalls, hnew⟩ := h
  obtain ⟨new', hcalls', hnew'⟩ := h'
  refine ⟨new ++ new', by rw [hcalls', hcalls, List.append_assoc], fun c hc => ?_⟩
  exact (List.mem_append.1 hc).elim (hnew c) (hnew' c)

theorem note {c : Call} (hc : c.tells = false) : NothingTold s (s.note c) :=
  ⟨[c], by simp [Store.note], fun c' hc' => List.mem_singleton.1 hc' ▸ hc⟩

theorem askMeter (s : Store) (p e : ProviderRef) (scope : Scope) :
    NothingTold s (s.askMeter p e scope) := by
  refine ⟨_, Store.calls_askMeter s p e scope, ?_⟩
  cases s.meterAnswer e scope <;> simp [Store.returns, Call.tells]

theorem askInstrument (s : Store) (m t : MeterRef) (request : Request) :
    NothingTold s (s.askInstrument m t request) := by
  refine ⟨_, Store.calls_askInstrument s m t request, ?_⟩
  cases s.instrumentAnswer t request <;> simp [Store.returns, Call.tells]

end NothingTold

/-- The event says that a deferred node was offered a second target. -/
def Event.isRepeat : Event → Bool
  | .log .providerAlreadyBound => true
  | .log (.meterAlreadyBound _) => true
  | .log (.instrumentAlreadyBound _) => true
  | .log (.observableAlreadyBound _) => true
  | _ => false

/-- Nothing is seen of second targets in `s'` that was not seen in `s`. -/
def NothingRepeated (s s' : Store) : Prop := ∀ e ∈ s'.trace, e.isRepeat = true → e ∈ s.trace

namespace NothingRepeated

variable {s s' : Store}

theorem of_eq (h : s'.trace = s.trace) : NothingRepeated s s' := fun _ he _ => h ▸ he

theorem trans {s'' : Store} (h : NothingRepeated s s') (h' : NothingRepeated s' s'') :
    NothingRepeated s s'' :=
  fun e he hrepeat => h e (h' e he hrepeat) hrepeat

theorem see {e : Event} (he : e.isRepeat = false) : NothingRepeated s (s.see e) := by
  intro e' he' hrepeat
  rcases Array.mem_push.1 he' with hmem | rfl
  · exact hmem
  · rw [he] at hrepeat
    cases hrepeat

theorem of_shown (h : Shown s s') : NothingRepeated s s' := by
  intro e he hrepeat
  have hkept : e.isRequest = false := by cases e <;> first | rfl | cases hrepeat
  have hmem : e ∈ s'.trace.toList.filter fun x => !x.isRequest :=
    List.mem_filter.2 ⟨Array.mem_toList_iff.2 he, by rw [hkept]; rfl⟩
  rw [h.trace] at hmem
  exact Array.mem_toList_iff.1 (List.mem_filter.1 hmem).1

end NothingRepeated

/-- No registration decides anything, and no provider gets a target. -/
structure Calm (s s' : Store) : Prop where
  sound : Sound s → Sound s'
  later : Later s s'
  told : NothingTold s s'
  target : ∀ q, s.providers.Has q → (s'.provider q).target? = (s.provider q).target?
  has : ∀ r, s'.registrations.Has r ↔ s.registrations.Has r
  registration : ∀ r, (s.registration r).Rests (s'.registration r)
  deeds : ReflTransGen SoundDeed s s'

/-- Neither a decision nor a call is made, also of a callback, and no registration gets a name. -/
structure Silent (s s' : Store) : Prop extends Calm s s' where
  repeated : NothingRepeated s s'
  callbacks : s'.callbacks = s.callbacks
  decisions : s'.decisions = s.decisions
  calls : s'.calls = s.calls
  provider : ∀ q, s.providers.Has q → s'.provider q = s.provider q
  roster : s'.directory.registrations = s.directory.registrations

namespace Calm

variable {s s' : Store}

/-- A deed that changes no target and no registration is calm. -/
theorem of_deed (hdeed : Deed s s') (hsound : Sound s → Sound s') (hlater : Later s s')
    (htold : NothingTold s s')
    (htarget : ∀ q, s.providers.Has q → (s'.provider q).target? = (s.provider q).target?)
    (hregistrations : s'.registrations = s.registrations) : Calm s s' := by
  refine ⟨hsound, hlater, htold, htarget, fun r => ?_, fun r => ?_, .single ⟨hdeed, hsound⟩⟩
  · rw [hregistrations]
  · rw [show s'.registration r = s.registration r from congrArg (Table.get · r) hregistrations]
    exact ⟨rfl, rfl, rfl⟩

theorem of_eq (hdeed : Deed s s') (hsound : Sound s → Sound s') (hlater : Later s s')
    (hproviders : s'.providers = s.providers) (hregistrations : s'.registrations = s.registrations)
    (hcalls : s'.calls = s.calls) : Calm s s' :=
  of_deed hdeed hsound hlater (.of_eq hcalls)
    (fun q _ => congrArg (fun t => (Table.get t q).target?) hproviders) hregistrations

/-- Where no object changes that operations of the library work on, all is calm. -/
theorem of_aside (hsound : Sound s → Sound s') (hproviders : s'.providers = s.providers)
    (hmeters : s'.meters = s.meters) (hinstruments : s'.instruments = s.instruments)
    (hcallbacks : s'.callbacks = s.callbacks) (hregistrations : s'.registrations = s.registrations)
    (hcalls : s'.calls = s.calls) : Calm s s' :=
  of_eq (.aside hproviders hmeters hinstruments hcallbacks hcalls) hsound
    (.of_eq hproviders hmeters hinstruments hregistrations hcalls) hproviders hregistrations hcalls

/-- Where no object changes that soundness speaks of, all is calm. -/
theorem of_tables (hproviders : s'.providers = s.providers) (hmeters : s'.meters = s.meters)
    (hinstruments : s'.instruments = s.instruments) (hcallbacks : s'.callbacks = s.callbacks)
    (hregistrations : s'.registrations = s.registrations) (hcalls : s'.calls = s.calls)
    (hdirectory : s'.directory = s.directory) : Calm s s' :=
  of_aside (fun hs => hs.of_eq hproviders hmeters hinstruments hregistrations hcalls hdirectory)
    hproviders hmeters hinstruments hcallbacks hregistrations hcalls

theorem of_shown (h : Shown s s') : Calm s s' :=
  of_aside (fun hs => hs.shown h) h.providers h.meters h.instruments h.callbacks h.registrations
    h.calls

theorem see (e : Event) : Calm s (s.see e) := of_tables rfl rfl rfl rfl rfl rfl rfl

theorem trans {s'' : Store} (h : Calm s s') (h' : Calm s' s'') : Calm s s'' where
  sound hs := h'.sound (h.sound hs)
  later := h.later.trans h'.later
  told := h.told.trans h'.told
  target q hq := (h'.target q (h.later.providers q hq).1).trans (h.target q hq)
  has r := (h'.has r).trans (h.has r)
  registration r :=
    ⟨(h'.registration r).deferred.trans (h.registration r).deferred,
      (h'.registration r).provider.trans (h.registration r).provider,
      (h'.registration r).gate.trans (h.registration r).gate⟩
  deeds := h.deeds.trans h'.deeds

/-- A call is made that tells no target and changes nothing. -/
theorem note {c : Call} (hdeed : Deed s (s.note c)) (hc : c.tells = false) :
    Calm s (s.note c) := by
  refine of_deed hdeed (fun hs => hs.note ?_) (.note s c) (.note hc) (fun _ _ => rfl) rfl
  rintro m t rfl
  cases hc

/-- A sample is given, or an instrument is observed. -/
theorem give {c : Call} (hc : c.gives = true) : Calm s (s.note c) :=
  note (.give hc) (by cases c <;> first | rfl | cases hc)

theorem poll (c : CallbackRef) : Calm s ((s.note (.poll c)).updateCallback c Callback.count) :=
  of_deed (.poll c) (fun hs => (hs.note (by simp)).of_eq rfl rfl rfl rfl rfl rfl)
    ((Later.note s _).trans (.of_eq rfl rfl rfl rfl rfl)) (.note rfl) (fun _ _ => rfl) rfl

theorem addCallback (c : Callback) : Calm s (s.addCallback c) :=
  of_eq (.addCallback c) (fun hs => hs.of_eq rfl rfl rfl rfl rfl rfl) (.of_eq rfl rfl rfl rfl rfl)
    rfl rfl rfl

theorem addRegistry (g : Registry) : Calm s (s.addRegistry g) :=
  of_tables rfl rfl rfl rfl rfl rfl rfl

theorem keep (m : MeterRef) (events : List Recorded) :
    Calm s (s.updateMeter m fun m => m.keep events) :=
  of_eq (.keep m events) (fun hs => hs.keep m events) (.updateMeter (Meter.grows_keep _ _)) rfl rfl
    rfl

theorem addMeter {x : Meter} (hissuer : x.issuer = none) (hbody : x.body.isDeferred = false) :
    Calm s (s.addMeter x) :=
  of_eq (.addMeter hissuer hbody) (fun hs => hs.addMeter hissuer hbody) (.addMeter s x) rfl rfl rfl

/-- Names of other kinds than those of providers and registrations. -/
theorem updateDirectory {f : Directory → Directory}
    (hproviders : (f s.directory).providers = s.directory.providers)
    (hregistrations : (f s.directory).registrations = s.directory.registrations) :
    Calm s (s.updateDirectory f) := by
  refine of_aside (fun hs => hs.updateDirectory ?_ ?_) rfl rfl rfl rfl rfl rfl
  · rw [hproviders]
    exact hs.names.providers
  · rw [hregistrations]
    exact hs.names.registrations

/-- A registration that there is gets a name. -/
theorem nameRegistration (name : String) {r : RegistrationRef} (hr : s.registrations.Has r) :
    Calm s (s.updateDirectory fun d =>
      { d with registrations := d.registrations.insert name r }) := by
  refine of_aside (fun hs => hs.updateDirectory hs.names.providers ?_) rfl rfl rfl rfl rfl rfl
  intro name' r' h
  rw [show (s.directory.registrations.insert name r).get? name' = _ from
    Roster.get?_insert s.directory.registrations name name' r] at h
  split at h
  · rwa [← Option.some.inj h]
  · exact hs.names.registrations name' r' h

/-- A provider is asked for a meter. -/
theorem askMeter {p e : ProviderRef} (scope : Scope) (hp : s.providers.Has p)
    (he : s.providerEnd? p = some e) : Calm s (s.askMeter p e scope) := by
  refine of_deed (.askMeter scope hp he)
    (fun hs => hs.askMeter scope (hs.bindings.has_end hp he)) (.askMeter s p e scope)
    (.askMeter s p e scope) (fun q _ => Store.providerTarget_askMeter scope q)
    (Aside.askMeter s p e scope).registrations

theorem target?_updateIssuer (s : Store) (issuer : Option ProviderRef) {f : Provider → Provider}
    (hf : ∀ p : Provider, (f p).target? = p.target?) (q : ProviderRef) :
    ((s.updateIssuer issuer f).provider q).target? = (s.provider q).target? := by
  cases issuer with
  | none => rfl
  | some e =>
      show ((s.updateProvider e f).provider q).target? = _
      rw [Store.provider_updateProvider]
      split
      · exact hf _
      · rfl

theorem target?_giveInstrument (s : Store) (t : MeterRef) (request : Request) (q : ProviderRef) :
    ((s.giveInstrument t request).provider q).target? = (s.provider q).target? := by
  have hprobed := target?_updateIssuer s (s.meter t).issuer Provider.target?_probed q
  unfold Store.giveInstrument
  simp only
  split
  · exact hprobed
  · refine Eq.trans ?_ hprobed
    exact target?_updateIssuer _ (s.meter t).issuer
      (fun p => Provider.target?_keepRequest p request s.instruments.next) q

/-- A meter is asked for an instrument. -/
theorem askInstrument {m t : MeterRef} (request : Request) (ht : s.meterEnd? m = some t) :
    Calm s (s.askInstrument m t request) := by
  refine of_deed (.askInstrument request ht) (fun hs => hs.askInstrument m t request)
    (.askInstrument s m t request) (.askInstrument s m t request) (fun q _ => ?_)
    (Aside.askInstrument s m t request).registrations
  show ((s.askInstrument m t request).providers.get q).target? = _
  rw [Store.askInstrument, Store.providers_noteReturn]
  exact target?_giveInstrument (s.note (.instrument m request)) t request q

end Calm

namespace Silent

variable {s s' : Store}

theorem refl (s : Store) : Silent s s where
  toCalm := .of_shown (.refl s)
  repeated := .of_eq rfl
  callbacks := rfl
  decisions := rfl
  calls := rfl
  provider _ _ := rfl
  roster := rfl

theorem trans {s'' : Store} (h : Silent s s') (h' : Silent s' s'') : Silent s s'' where
  toCalm := h.toCalm.trans h'.toCalm
  repeated := h.repeated.trans h'.repeated
  callbacks := h'.callbacks.trans h.callbacks
  decisions := h'.decisions.trans h.decisions
  calls := h'.calls.trans h.calls
  provider q hq := (h'.provider q (h.later.providers q hq).1).trans (h.provider q hq)
  roster := h'.roster.trans h.roster

/-- An event is seen that is no decision. -/
theorem see (s : Store) {e : Event} (he : e.isDecision = false) (hrepeat : e.isRepeat = false) :
    Silent s (s.see e) where
  toCalm := .see e
  repeated := .see hrepeat
  callbacks := rfl
  decisions := by simp [Store.decisions, Store.see, he]
  calls := rfl
  provider _ _ := rfl
  roster := rfl

/-- A provider that there is gets a name. -/
theorem enterProvider (s : Store) (name : String) {p : NamedProvider} (hp : s.providers.Has p.ref) :
    Silent s (s.enterProvider name p) where
  toCalm := by
    refine .of_aside (fun hs => hs.updateDirectory ?_ hs.names.registrations) rfl rfl rfl rfl rfl
      rfl
    intro name' q h
    rw [show (s.directory.providers.insert name p).get? name' = _ from
      Roster.get?_insert s.directory.providers name name' p] at h
    split at h
    · rwa [← Option.some.inj h]
    · exact hs.names.providers name' q h
  repeated := .of_eq rfl
  callbacks := rfl
  decisions := rfl
  calls := rfl
  provider _ _ := rfl
  roster := rfl

theorem countInvention (s : Store) : Silent s s.countInvention where
  toCalm := .updateDirectory rfl rfl
  repeated := .of_eq rfl
  callbacks := rfl
  decisions := rfl
  calls := rfl
  provider _ _ := rfl
  roster := rfl

theorem updateRegistry (s : Store) (g : RegistryRef) (f : Registry → Registry) :
    Silent s (s.updateRegistry g f) where
  toCalm := .of_tables rfl rfl rfl rfl rfl rfl rfl
  repeated := .of_eq rfl
  callbacks := rfl
  decisions := rfl
  calls := rfl
  provider _ _ := rfl
  roster := rfl

/-- A registration discovers in another way. -/
theorem updateRegistration (s : Store) (r : RegistrationRef) {f : Registration → Registration}
    (hf : ∀ o : Registration, o.Rests (f o)) : Silent s (s.updateRegistration r f) where
  toCalm := by
    have hrests := hf (s.registration r)
    have hgrows : (s.registration r).Grows (f (s.registration r)) :=
      ⟨hrests.deferred, fun h => (congrArg Gate.fired hrests.gate).trans h⟩
    have hsound : Sound s → Sound (s.updateRegistration r f) := fun hs =>
      hs.updateRegistration ⟨hrests.deferred, hrests.provider⟩ hgrows
    refine ⟨hsound, .updateRegistration hgrows, .of_eq rfl, fun _ _ => rfl,
      fun _ => Table.has_update _ _ _ _, fun r' => ?_,
      .single ⟨.aside rfl rfl rfl rfl rfl, hsound⟩⟩
    rw [Store.registration_updateRegistration]
    split
    · exact hf _
    · exact ⟨rfl, rfl, rfl⟩
  repeated := .of_eq rfl
  callbacks := rfl
  decisions := rfl
  calls := rfl
  provider _ _ := rfl
  roster := rfl

/-- There is a new provider that nobody knows of yet. -/
theorem addProvider (s : Store) {p : Provider} (htarget : p.target? = none)
    (hissued : p.issued = []) :
    Silent s (s.addProvider p) where
  toCalm := .of_deed (.addProvider htarget hissued) (fun hs => hs.addProvider htarget hissued)
    (.addProvider s p) (.of_eq rfl)
    (fun _ hq => congrArg Provider.target? (s.providers.get_add_of_has p hq)) rfl
  repeated := .of_eq rfl
  callbacks := rfl
  decisions := rfl
  calls := rfl
  provider _ hq := s.providers.get_add_of_has p hq
  roster := rfl

/-- Showing a provider that there is may give it a name. -/
theorem identify {p : Option ProviderRef} (hp : ∀ q, p = some q → s.providers.Has q) :
    ∃ id s', Op.identify p s = .ok id s' ∧ Silent s s' := by
  obtain ⟨id, s', hrun, rfl | ⟨q, name, hq, rfl⟩⟩ := Op.identify_run p s
  · exact ⟨id, s', hrun, .refl s'⟩
  · have hname :=
      (countInvention s).trans (enterProvider s.countInvention name (p := ⟨q, true⟩) (hp q hq))
    exact ⟨id, _, hrun, hname⟩

end Silent

/-! ## Changes -/

namespace Op

/-- A factory offers a provider, and shows the answer. -/
def offer (r : RegistrationRef) (p : ProviderRef) : Op Unit := do
  see (.offered (← setProvider r p))

/-- An offer leaves what the installation leaves, with the answer seen if there is one. -/
theorem left_offer (r : RegistrationRef) (p : ProviderRef) (s : Store) :
    (offer r p).left s = (install r p false).left s ∨
      ∃ won, (offer r p).left s = ((install r p false).left s).see (.offered won) := by
  cases hrun : install r p false s with
  | error halt s' =>
      refine .inl ?_
      rw [left_of_error hrun]
      exact left_bind_of_error hrun
  | ok won s' =>
      refine .inr ⟨won, ?_⟩
      rw [left_of_ok hrun]
      exact left_bind_of_ok hrun

end Op

/-- A change of resolving a configuration: it decides nothing, or a factory offers a provider that
there is to a registration that has a name. -/
inductive Search : Store → Store → Prop where
  | silent {s s' : Store} (h : Silent s s') : Search s s'
  | offered {s : Store} {name : String} {r : RegistrationRef} {p : ProviderRef}
      (hr : s.directory.registrations.get? name = some r) (hp : s.providers.Has p) :
      Search s ((Op.offer r p).left s)

/-- A change of a step: all is calm, or a registration that has a name decides on a provider that
there is, or there is a new registration. -/
inductive Change : Store → Store → Prop where
  | calm {s s' : Store} (h : Calm s s') : Change s s'
  | install {s : Store} {name : String} {r : RegistrationRef} {p : ProviderRef} (discovered : Bool)
      (hr : s.directory.registrations.get? name = some r) (hp : s.providers.Has p) :
      Change s ((Op.install r p discovered).left s)
  | register {s : Store} (discovery : Discovery) : Change s ((Op.makeRegistration discovery).left s)

/-- A change that says nothing of second targets, unless it is a decision on a provider. -/
inductive Hushed : Store → Store → Prop where
  | calm {s s' : Store} (h : Calm s s') (hrepeated : NothingRepeated s s') : Hushed s s'
  | install {s : Store} {name : String} {r : RegistrationRef} {p : ProviderRef} (discovered : Bool)
      (hr : s.directory.registrations.get? name = some r) (hp : s.providers.Has p) :
      Hushed s ((Op.install r p discovered).left s)
  | register {s : Store} (discovery : Discovery) :
      Hushed s ((Op.makeRegistration discovery).left s)

theorem Hushed.change {s s' : Store} (h : Hushed s s') : Change s s' := by
  cases h with
  | calm hcalm => exact .calm hcalm
  | install discovered hr hp => exact .install discovered hr hp
  | register discovery => exact .register discovery

/-- A change in which no callback is called, and there is no new one. -/
structure Still (s s' : Store) : Prop where
  hushed : Hushed s s'
  callbacks : Sound s → s'.callbacks = s.callbacks

namespace Still

variable {s s' : Store}

theorem calm (h : Calm s s') (hrepeated : NothingRepeated s s')
    (hcallbacks : s'.callbacks = s.callbacks) : Still s s' :=
  ⟨.calm h hrepeated, fun _ => hcallbacks⟩

theorem install {name : String} {r : RegistrationRef} {p : ProviderRef} (discovered : Bool)
    (hr : s.directory.registrations.get? name = some r) (hp : s.providers.Has p) :
    Still s ((Op.install r p discovered).left s) :=
  ⟨.install discovered hr hp, fun h =>
    (Op.aside_install h (h.names.registrations _ _ hr) discovered).1⟩

end Still

/-- A change of discovery is made of changes in which no callback is called. -/
theorem Search.stills {s s' : Store} (h : Search s s') : ReflTransGen Still s s' := by
  cases h with
  | silent h => exact .single (.calm h.toCalm h.repeated h.callbacks)
  | @offered _ r p hr hp =>
      have hchange : Still s ((Op.install r p false).left s) := .install false hr hp
      rcases Op.left_offer r p s with heq | ⟨won, heq⟩
      · rw [heq]
        exact .single hchange
      · -- the answer is shown when the installation is over
        rw [heq]
        exact .tail (.single hchange) (.calm (.see (.offered won)) (.see rfl) rfl)

theorem hushed_of_stills {s s' : Store} (h : ReflTransGen Still s s') : ReflTransGen Hushed s s' :=
  ReflTransGen.mono (fun _ _ => Still.hushed) s s' h

theorem changes_of_hushed {s s' : Store} (h : ReflTransGen Hushed s s') :
    ReflTransGen Change s s' := ReflTransGen.mono (fun _ _ => Hushed.change) s s' h

theorem changes_of_stills {s s' : Store} (h : ReflTransGen Still s s') :
    ReflTransGen Change s s' := changes_of_hushed (hushed_of_stills h)

theorem Search.changes {s s' : Store} (h : Search s s') : ReflTransGen Change s s' :=
  changes_of_stills h.stills

namespace Store

variable (s : Store) (discovery : Discovery)

/-- A registration is made beside the others, with a deferred provider of its own. -/
theorem registration_makeRegistration (r : RegistrationRef) :
    ((Op.makeRegistration discovery).left s).registration r =
      if r = s.registrations.next then ⟨none, .ready, s.providers.next, discovery⟩
      else s.registration r :=
  s.registrations.get_add _ r

theorem has_of_makeRegistration {r : RegistrationRef}
    (hr : ((Op.makeRegistration discovery).left s).registrations.Has r)
    (hne : r ≠ s.registrations.next) : s.registrations.Has r :=
  ((Table.has_add _ _ _).1 hr).resolve_right hne

theorem target?_makeRegistration (d : ProviderRef) :
    (((Op.makeRegistration discovery).left s).provider d).target? = (s.provider d).target? :=
  Table.apply_get_add (x := .freshDeferred) Provider.target? s.providers rfl d

theorem target?_makeRegistration_next :
    (((Op.makeRegistration discovery).left s).provider s.providers.next).target? = none := by
  rw [target?_makeRegistration, provider, Table.get_next]
  rfl

end Store

/-- A new registration has a deferred provider that no other registration has. -/
theorem sound_makeRegistration {s : Store} (h : Sound s) (discovery : Discovery) :
    Sound ((Op.makeRegistration discovery).left s) ∧
      Later s ((Op.makeRegistration discovery).left s) := by
  have hadd := (Silent.addProvider s (p := .freshDeferred) rfl rfl).toCalm
  have hrow := s.providers.get_add_next Provider.freshDeferred
  refine ⟨(hadd.sound h).addRegistration rfl (s.providers.has_next_add _) ?_ ?_,
    hadd.later.trans (.addRegistration _ _)⟩
  · rw [show (s.addProvider .freshDeferred).provider s.providers.next = _ from hrow]
    rfl
  · intro r hr
    exact Table.ne_next_of_has (h.owners.known r hr)

/-- Every change keeps a store sound, and takes nothing back. -/
theorem Change.sound {s s' : Store} (h : Sound s) (hchange : Change s s') :
    Sound s' ∧ Later s s' := by
  cases hchange with
  | calm hcalm => exact ⟨hcalm.sound h, hcalm.later⟩
  | install discovered hr hp =>
      exact Op.sound_install h (h.names.registrations _ _ hr) hp discovered
  | register discovery => exact sound_makeRegistration h discovery

theorem Calm.agreed {s s' : Store} (hcalm : Calm s s') (h : Sound s) (hagreed : s.Agreed) :
    s'.Agreed := by
  intro r hhas' hend
  have hhas := (hcalm.has r).1 hhas'
  have hrests := hcalm.registration r
  rw [hrests.deferred] at hend
  have hbefore := hagreed r hhas (Store.ends_of_later hcalm.later hend)
  exact hbefore.congr hrests.deferred hrests.provider hrests.gate
    (hcalm.target _ (h.owners.known r hhas))

theorem agreed_makeRegistration {s : Store} (h : Sound s) (hagreed : s.Agreed)
    (discovery : Discovery) : ((Op.makeRegistration discovery).left s).Agreed := by
  have hcalm := (Silent.addProvider s (p := .freshDeferred) rfl rfl).toCalm
  have hadded := hcalm.agreed h hagreed
  have hrow := s.registration_makeRegistration discovery
  intro r hhas hend
  by_cases hr : r = s.registrations.next
  · have hself := (hrow r).trans (if_pos hr)
    constructor
    · rw [hself]
      exact s.target?_makeRegistration_next discovery
    · rw [Store.gate, hself]
      rfl
  · have hold := (hrow r).trans (if_neg hr)
    have hknown := s.has_of_makeRegistration discovery hhas hr
    have hbefore := hadded r hknown (by rw [hold] at hend; exact hend)
    exact hbefore.congr (by rw [hold]; rfl) (by rw [hold]; rfl) (by rw [Store.gate, hold]; rfl) rfl

/-- Every change keeps agreement. -/
theorem Change.agreed {s s' : Store} (h : Sound s) (hagreed : s.Agreed) (hchange : Change s s') :
    s'.Agreed := by
  cases hchange with
  | calm hcalm => exact hcalm.agreed h hagreed
  | install discovered hr hp =>
      exact Op.agreed_install h hagreed (h.names.registrations _ _ hr) hp discovered
  | register discovery => exact agreed_makeRegistration h hagreed discovery

theorem sound_of_changes {s s' : Store} (h : Sound s) (hchanges : ReflTransGen Change s s') :
    Sound s' ∧ Later s s' := by
  induction hchanges with
  | refl => exact ⟨h, .refl s⟩
  | tail _ hchange ih =>
      obtain ⟨hsound, hlater⟩ := ih
      obtain ⟨hsound', hlater'⟩ := hchange.sound hsound
      exact ⟨hsound', hlater.trans hlater'⟩

theorem agreed_of_changes {s s' : Store} (h : Sound s) (hagreed : s.Agreed)
    (hchanges : ReflTransGen Change s s') : s'.Agreed := by
  induction hchanges with
  | refl => exact hagreed
  | tail hchanges hchange ih => exact hchange.agreed (sound_of_changes h hchanges).1 ih

theorem stills_of_searches {s s' : Store} (h : ReflTransGen Search s s') :
    ReflTransGen Still s s' := by
  induction h with
  | refl => exact .refl
  | tail _ hsearch ih => exact ih.trans hsearch.stills

theorem changes_of_searches {s s' : Store} (h : ReflTransGen Search s s') :
    ReflTransGen Change s s' := changes_of_stills (stills_of_searches h)

/-- No callback is called on a path of such changes. -/
theorem callbacks_of_stills {s s' : Store} (h : Sound s) (hstills : ReflTransGen Still s s') :
    s'.callbacks = s.callbacks := by
  induction hstills with
  | refl => rfl
  | tail hstills hstill ih =>
      exact (hstill.callbacks (sound_of_changes h (changes_of_stills hstills)).1).trans ih

theorem sound_of_searches {s s' : Store} (h : Sound s) (hsearches : ReflTransGen Search s s') :
    Sound s' ∧ Later s s' := sound_of_changes h (changes_of_searches hsearches)

/-- Discovery calls no callback, and gives no names to registrations. -/
theorem Search.aside {s s' : Store} (h : Sound s) (hsearch : Search s s') :
    s'.callbacks = s.callbacks ∧ s'.directory.registrations = s.directory.registrations := by
  cases hsearch with
  | silent hsilent => exact ⟨hsilent.callbacks, hsilent.roster⟩
  | @offered _ r p hr hp =>
      have hinstall := Op.aside_install (p := p) h (h.names.registrations _ r hr) false
      rcases Op.left_offer r p s with heq | ⟨won, heq⟩ <;> rw [heq] <;> exact hinstall

theorem Search.roster {s s' : Store} (h : Sound s) (hsearch : Search s s') :
    s'.directory.registrations = s.directory.registrations := (hsearch.aside h).2

theorem roster_of_searches {s s' : Store} (h : Sound s) (hsearches : ReflTransGen Search s s') :
    s'.directory.registrations = s.directory.registrations := by
  induction hsearches with
  | refl => rfl
  | tail hsearches hsearch ih =>
      exact (hsearch.roster (sound_of_searches h hsearches).1).trans ih

end DeferredMetrics
