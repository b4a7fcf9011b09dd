import DeferredMetrics.Proofs.Inert
import DeferredMetrics.Proofs.Mute

set_option autoImplicit false

/-! # Registrations at which nothing is registered

A registration without a provider is the API that does nothing, and so is one in which a discarding
provider takes effect at any time, and such a provider itself: each does, step by step, what `Inert`
does (`Op.Imitates`). The main statement is `unregistered_inert`. -/

namespace DeferredMetrics

/-- The replies to the steps of a run that use the API. -/
def Scenario.answers (depth : Nat) (processWide : Option RegistrationRef)
    (registration provider : String) : Store → List Step → List Reply
  | _, [] => []
  | s, x :: xs =>
      let rest := answers depth processWide registration provider (step depth processWide s x).2 xs
      if x.uses registration provider then (step depth processWide s x).1.1.unissued :: rest
      else rest

/-! ## Stores that are such an API -/

/-- In the store, the registration `r` by its name and the provider by its name are an API that
discards everything, for the program that the API remembers. -/
structure Resembles (registration provider : String) (r : RegistrationRef) (s : Store) (a : Inert) :
    Prop where
  mute : s.Mute r
  registration : s.directory.registrations.get? registration = some r
  provider : ∃ q, s.directory.providers.get? provider = some q ∧ s.provider q.ref = .noop
  callbacks : s.callbacks = a.callbacks
  callbackNames : s.directory.callbacks = a.callbackNames
  meters : ∀ name, Option.Rel (fun m scope => s.MuteMeter r m ∧ (s.meter m).scope = scope)
    (s.directory.meters.get? name) (a.meters.get? name)
  instruments : ∀ name, Option.Rel
    (fun i request => s.MuteInstrument r i.ref ∧ (s.instrument i.ref).request = request)
    (s.directory.instruments.get? name) (a.instruments.get? name)

variable {registration provider : String} {r : RegistrationRef} {s s' : Store} {a a' : Inert}

namespace Resembles

theorem meters_later (h : Resembles registration provider r s a) (hlater : Later s s')
    (name : String) :
    Option.Rel (fun m scope => s'.MuteMeter r m ∧ (s'.meter m).scope = scope)
      (s.directory.meters.get? name) (a.meters.get? name) :=
  rel_mono (h.meters name) fun _ _ _ _ ⟨hm, hscope⟩ =>
    ⟨hm.later h.mute.known hlater, (hlater.meter hm.known).scope.trans hscope⟩

theorem instruments_later (h : Resembles registration provider r s a) (hlater : Later s s')
    (name : String) :
    Option.Rel
      (fun i request => s'.MuteInstrument r i.ref ∧ (s'.instrument i.ref).request = request)
      (s.directory.instruments.get? name) (a.instruments.get? name) :=
  rel_mono (h.instruments name) fun _ _ _ _ ⟨hi, hrequest⟩ =>
    ⟨hi.later h.mute.known hlater, (hlater.instrument hi.known).request.trans hrequest⟩

theorem stays (h : Resembles registration provider r s a) (hstays : s.StaysMute r s') :
    Resembles registration provider r s' a := by
  obtain ⟨q, hname, hnoop⟩ := h.provider
  have hq := h.mute.sound.names.providers provider q hname
  have hdirectory := hstays.directory
  constructor
  case mute => exact hstays.mute
  case registration =>
    rw [hdirectory]
    exact h.registration
  case provider =>
    rw [hdirectory]
    exact ⟨q, hname, Provider.noop_of_grows (hstays.later.provider hq) hnoop⟩
  case callbacks => exact hstays.callbacks.trans h.callbacks
  case callbackNames =>
    rw [hdirectory]
    exact h.callbackNames
  case meters =>
    rw [hdirectory]
    exact h.meters_later hstays.later
  case instruments =>
    rw [hdirectory]
    exact h.instruments_later hstays.later

/-- The registration stays as it is when objects of other sorts get names. -/
theorem mute_updateDirectory (h : Resembles registration provider r s a)
    {f : Directory → Directory} (hproviders : (f s.directory).providers = s.directory.providers)
    (hregistrations : (f s.directory).registrations = s.directory.registrations) :
    (s.updateDirectory f).Mute r :=
  h.mute.steady ((Calm.updateDirectory hproviders hregistrations).sound h.mute.sound)
    ⟨.of_eq rfl rfl rfl rfl rfl, rfl, rfl, fun _ => rfl⟩ rfl

theorem nameMeter (h : Resembles registration provider r s a) (id : String) {m : MeterRef}
    {scope : Scope} (hm : s.MuteMeter r m) (hscope : (s.meter m).scope = scope) :
    Resembles registration provider r (s.nameMeter id m)
      { a with meters := a.meters.insert id scope } where
  mute := h.mute_updateDirectory rfl rfl
  registration := h.registration
  provider := h.provider
  callbacks := h.callbacks
  callbackNames := h.callbackNames
  meters :=
    have hlater : Later s (s.nameMeter id m) := .of_eq rfl rfl rfl rfl rfl
    rel_insert (h.meters_later hlater) id ⟨hm.later h.mute.known hlater, hscope⟩
  instruments := h.instruments_later (.of_eq rfl rfl rfl rfl rfl)

theorem nameInstrument (h : Resembles registration provider r s a) (id : String)
    {i : NamedInstrument} {request : Request} (hi : s.MuteInstrument r i.ref)
    (hrequest : (s.instrument i.ref).request = request) :
    Resembles registration provider r (s.nameInstrument id i)
      { a with instruments := a.instruments.insert id request } where
  mute := h.mute_updateDirectory rfl rfl
  registration := h.registration
  provider := h.provider
  callbacks := h.callbacks
  callbackNames := h.callbackNames
  meters := h.meters_later (.of_eq rfl rfl rfl rfl rfl)
  instruments :=
    have hlater : Later s (s.nameInstrument id i) := .of_eq rfl rfl rfl rfl rfl
    rel_insert (h.instruments_later hlater) id ⟨hi.later h.mute.known hlater, hrequest⟩

/-- A provider that discards everything gets a name, which may have meant another one. -/
theorem nameStray (h : Resembles registration provider r s a) (name : String) {q : ProviderRef}
    (hq : s.providers.Has q) (hnoop : s.provider q = .noop) :
    Resembles registration provider r (s.countInvention.nameStray name q) a := by
  have hlater : Later s (s.countInvention.nameStray name q) := .of_eq rfl rfl rfl rfl rfl
  have hsilent := (Silent.countInvention s).trans
    (.enterProvider s.countInvention name (p := ⟨q, true⟩) hq)
  have hmute : (s.countInvention.nameStray name q).Mute r :=
    h.mute.steady (hsilent.sound h.mute.sound) ⟨hlater, rfl, rfl, fun _ => rfl⟩ rfl
  refine ⟨hmute, h.registration, ?_, h.callbacks, h.callbackNames, h.meters_later hlater,
    h.instruments_later hlater⟩
  show ∃ q', (s.directory.providers.insert name ⟨q, true⟩).get? provider = some q' ∧ _
  rw [Roster.get?_insert]
  split
  · -- the name is that of the provider, which from now on is another one that discards everything
    exact ⟨_, rfl, hnoop⟩
  · exact h.provider

end Resembles

/-! ## Operations -/

namespace Inert

variable {α β : Type}

theorem named_of_some {known : Roster α} {name : String} {x : α} (h : known.get? name = some x)
    (f : α → Except Halt β) : (named known name >>= f) = f x := by
  rw [named, h]
  rfl

theorem named_of_none {known : Roster α} {name : String} (h : known.get? name = none)
    (f : α → Except Halt β) : (named known name >>= f) = .error (.unnamed name) := by
  rw [named, h]
  rfl

end Inert

namespace Op

variable {α β γ : Type}

/-- The operation replies what the API replies, or halts as it does, and leaves a store that is such
an API again. -/
def Imitates (registration provider : String) (r : RegistrationRef) (op : Op Reply) (s : Store)
    (a : Inert) (e : Except Halt (Reply × Inert)) : Prop :=
  match op s, e with
  | .ok reply s', .ok (reply', a') =>
      reply.unissued = reply' ∧ Resembles registration provider r s' a'
  | .error halt s', .error halt' => halt = halt' ∧ Resembles registration provider r s' a
  | _, _ => False

theorem imitates_of_ok {op : Op Reply} {reply reply' : Reply} (hrun : op s = .ok reply s')
    (hreply : reply.unissued = reply') (h : Resembles registration provider r s' a') :
    Imitates registration provider r op s a (.ok (reply', a')) := by
  unfold Imitates
  rw [hrun]
  exact ⟨hreply, h⟩

theorem imitates_of_error {op : Op Reply} {halt : Halt} (hrun : op s = .error halt s')
    (h : Resembles registration provider r s' a) :
    Imitates registration provider r op s a (.error halt) := by
  unfold Imitates
  rw [hrun]
  exact ⟨rfl, h⟩

theorem imitates_congr {op op' : Op Reply} {e : Except Halt (Reply × Inert)}
    (hrun : op s = op' s') (h : Imitates registration provider r op' s' a e) :
    Imitates registration provider r op s a e := by
  unfold Imitates at h ⊢
  rwa [hrun]

/-- What a name stands for corresponds, and so does what comes of it. -/
theorem imitates_named_bind {R : α → β → Prop} {roster : Directory → Roster α} {known : Roster β}
    {name : String} {f : α → Op Reply} {g : β → Except Halt (Reply × Inert)}
    (h : Resembles registration provider r s a)
    (hnames : Option.Rel R ((roster s.directory).get? name) (known.get? name))
    (hf : ∀ x y, R x y → Imitates registration provider r (f x) s a (g y)) :
    Imitates registration provider r (named roster name >>= f) s a
      (Inert.named known name >>= g) := by
  cases hx : (roster s.directory).get? name with
  | none =>
      rw [Inert.named_of_none ((eq_none_iff_of_rel hnames).1 hx)]
      exact imitates_of_error (bind_of_error (named_of_none hx)) h
  | some x =>
      obtain ⟨y, hy, hxy⟩ := exists_of_rel_left hnames hx
      rw [Inert.named_of_some hy]
      exact imitates_congr (bind_of_ok (named_of_some hx)) (hf x y hxy)

theorem imitates_instrumentNamed_bind {name : String} {f : InstrumentRef → Op Reply}
    {g : Request → Except Halt (Reply × Inert)} (h : Resembles registration provider r s a)
    (hf : ∀ i, s.MuteInstrument r i →
      Imitates registration provider r (f i) s a (g (s.instrument i).request)) :
    Imitates registration provider r (instrumentNamed name >>= f) s a
      (Inert.named a.instruments name >>= g) := by
  rw [instrumentNamed, bind_assoc]
  refine imitates_named_bind h (h.instruments name) fun i request hi => ?_
  obtain ⟨hi, rfl⟩ := hi
  exact hf i.ref hi

/-- Asking a mute provider for a meter and naming it. -/
theorem imitates_requestMeter (h : Resembles registration provider r s a) {q : ProviderRef}
    (hq : s.MuteProvider r q) (id : String) (scope : Scope) :
    Imitates registration provider r (requestMeter q scope >>= nameMeter id) s a
      (.ok (a.addMeter id scope)) := by
  obtain ⟨m, s', hrun, hstays, hm, hscope⟩ := h.mute.requestMeter hq scope
  have hnamed : (requestMeter q scope >>= nameMeter id) s = _ := bind_of_ok hrun
  rw [nameMeter_run] at hnamed
  exact imitates_of_ok hnamed (congrArg (Reply.meter · false) hscope)
    ((h.stays hstays).nameMeter id hm hscope)

/-- Asking a mute meter for an instrument and naming it. -/
theorem imitates_requestNamed (h : Resembles registration provider r s a) {m : MeterRef}
    (hm : s.MuteMeter r m) (id : String) (request : Request) :
    Imitates registration provider r (requestNamed m id request) s a
      (.ok (.instrument request.descriptor false,
        { a with instruments := a.instruments.insert id request })) := by
  obtain ⟨i, s', hrun, hstays, hi, hrequest⟩ := h.mute.requestInstrument hm request
  have hnamed : requestNamed m id request s = _ :=
    (bind_of_ok (get_run s)).trans ((bind_of_ok hrun).trans (bind_of_ok (get_run s')))
  have hdescriptor := congrArg Request.descriptor hrequest
  exact imitates_of_ok hnamed (congrArg (Reply.instrument · false) hdescriptor)
    ((h.stays hstays).nameInstrument id hi hrequest)

/-- The names of callbacks stand for the same. -/
theorem imitates_callback_bind {name : String} {f : CallbackRef → Op Reply}
    {g : CallbackRef → Except Halt (Reply × Inert)} (h : Resembles registration provider r s a)
    (hf : ∀ c, Imitates registration provider r (f c) s a (g c)) :
    Imitates registration provider r (named Directory.callbacks name >>= f) s a
      (Inert.named a.callbackNames name >>= g) := by
  have hnames : Option.Rel Eq (s.directory.callbacks.get? name) (a.callbackNames.get? name) := by
    rw [h.callbackNames]
    cases a.callbackNames.get? name with
    | none => exact .none
    | some c => exact .some rfl
  refine imitates_named_bind h hnames fun c c' hc => ?_
  rw [hc]
  exact hf c'

theorem imitates_callbackFor_bind (h : Resembles registration provider r s a) (id : String)
    (kind : Kind) (callback : Option String) {f : Option CallbackRef → Op Reply}
    {g : Option CallbackRef → Except Halt (Reply × Inert)}
    (hf : ∀ c, Imitates registration provider r (f c) s a (g c)) :
    Imitates registration provider r (callbackFor id kind callback >>= f) s a
      (a.callbackFor id kind callback >>= g) := by
  unfold callbackFor Inert.callbackFor
  cases kind.isObservable with
  | false => exact hf none
  | true =>
      cases callback with
      | none => exact imitates_of_error rfl h
      | some name =>
          simp only
          rw [bind_assoc, bind_assoc]
          exact imitates_callback_bind h fun c => hf (some c)

theorem imitates_addTo (h : Resembles registration provider r s a) (hwired : s.Wired)
    (name : String) (value : Int) (attributes : AttributeSet) :
    Imitates registration provider r
      (addTo name value attributes >>= fun _ => pure .nothing) s a
      (a.add name >>= fun _ => pure (.nothing, a)) := by
  rw [addTo, Inert.add, bind_assoc, bind_assoc]
  refine imitates_instrumentNamed_bind h fun i hi => ?_
  have hrecord : ∀ sample : Sample, Imitates registration provider r
      (record i sample attributes >>= fun _ => pure .nothing) s a (.ok (.nothing, a)) := by
    intro sample
    obtain ⟨s', hrun, hstays⟩ := h.mute.record hwired i sample attributes
    exact imitates_of_ok (bind_of_ok hrun) rfl (h.stays hstays)
  rw [bind_assoc]
  refine imitates_congr (bind_of_ok (get_run s)) ?_
  rw [bind_assoc]
  cases (s.instrument i).request.kind with
  | counter => exact hrecord _
  | upDownCounter => exact hrecord _
  | _ => exact imitates_of_error rfl h

/-- A step that uses the API. -/
theorem imitates_perform (depth : Nat) (processWide : Option RegistrationRef)
    (h : Resembles registration provider r s a) (hwired : s.Wired) (habreast : s.Abreast) {x : Step}
    (hx : x.uses registration provider = true) :
    Imitates registration provider r (perform (depth + 1) processWide x) s a (a.perform x) := by
  cases x with
  | getMeter name id scope =>
      obtain rfl : name = registration := of_decide_eq_true hx
      obtain ⟨q, s', hprovider, hstays, hq⟩ := h.mute.getProvider depth
      refine imitates_congr (bind_of_ok (named_of_some h.registration)) ?_
      refine imitates_congr ?_ (imitates_requestMeter (h.stays hstays) hq id scope)
      rw [getMeter, bind_assoc, bind_of_ok hprovider, bind_assoc]
      rfl
  | meter name id scope =>
      obtain rfl : name = provider := of_decide_eq_true hx
      obtain ⟨q, hname, hnoop⟩ := h.provider
      refine imitates_congr (bind_of_ok (providerNamed_of_some hname)) ?_
      exact imitates_requestMeter h ⟨h.mute.sound.names.providers _ q hname, .inr hnoop⟩ id scope
  | scope meter =>
      rw [perform, meterNamed]
      refine imitates_named_bind h (h.meters meter) fun m scope hm => ?_
      exact imitates_of_ok rfl (congrArg Reply.scope hm.2) h
  | create meter id kind descriptor callback =>
      rw [perform, create, meterNamed]
      refine imitates_named_bind h (h.meters meter) fun m scope hm => ?_
      refine imitates_callbackFor_bind h id kind callback fun c => ?_
      exact imitates_requestNamed h hm.1 id ⟨kind, descriptor, c⟩
  | add instrument value attributes => exact imitates_addTo h hwired instrument value attributes
  | increment instrument attributes => exact imitates_addTo h hwired instrument 1 attributes
  | record instrument value attributes =>
      refine imitates_instrumentNamed_bind h fun i hi => ?_
      obtain ⟨s', hrun, hstays⟩ := h.mute.record hwired i (.value value) attributes
      exact imitates_of_ok (bind_of_ok hrun) rfl (h.stays hstays)
  | observe instrument =>
      refine imitates_instrumentNamed_bind h fun i hi => ?_
      obtain ⟨hrun, hstays⟩ := h.mute.observe hwired habreast hi
      exact imitates_of_ok (bind_of_ok hrun) rfl (h.stays hstays)
  | descriptor instrument =>
      refine imitates_instrumentNamed_bind h fun i hi => ?_
      exact imitates_of_ok rfl rfl h
  | polls callback =>
      refine imitates_callback_bind h fun c => ?_
      have hcalls : (s.callback c).shownCalls = (a.callbacks.get c).shownCalls :=
        congrArg (fun t => (Table.get t c).shownCalls) h.callbacks
      exact imitates_of_ok rfl (congrArg Reply.count hcalls) h
  | _ => cases hx

/-- The deferred provider of a registration that has a name is shown by that. -/
theorem identify_owned {o : RegistrationRef} {name : String}
    (h : s.directory.registrations.get? name = some o) :
    ∃ shown, identify (some (s.registration o).deferred) s = .ok shown s := by
  obtain ⟨e, he, rfl⟩ := Roster.exists_entry h
  have hsome : (s.directory.registrations.nameOf? fun x =>
      decide ((s.registration x).deferred = (s.registration e.2).deferred)).isSome = true := by
    rw [Roster.nameOf?, Option.isSome_map, List.find?_isSome]
    exact ⟨e, he, decide_eq_true rfl⟩
  obtain ⟨owner, howner⟩ := Option.isSome_iff_exists.1 hsome
  exact ⟨.deferredOf owner, by simp [identify, bind_run, howner]⟩

/-- A mute provider is shown, perhaps by a name that is made up for it. -/
theorem identify_mute (h : Resembles registration provider r s a) {q : ProviderRef}
    (hq : s.MuteProvider r q) :
    ∃ shown s', identify (some q) s = .ok shown s' ∧ Resembles registration provider r s' a := by
  rcases hq.kind with rfl | hnoop
  · obtain ⟨shown, hrun⟩ := identify_owned h.registration
    exact ⟨shown, s, hrun, h⟩
  · obtain ⟨shown, s', hrun, rfl | ⟨p, name, hp, rfl⟩⟩ := identify_run (some q) s
    · exact ⟨shown, _, hrun, h⟩
    · obtain rfl := Option.some.inj hp
      exact ⟨shown, _, hrun, h.nameStray name hq.known hnoop⟩

/-- A step that has a discarding provider take effect, or makes way for it. -/
theorem installs_run (depth : Nat) (processWide : Option RegistrationRef)
    (h : Resembles registration provider r s a) {x : Step}
    (hx : x.installs registration provider = true) :
    ∃ reply s', perform (depth + 1) processWide x s = .ok reply s' ∧
      Resembles registration provider r s' a := by
  cases x with
  | setProvider name offered =>
      obtain ⟨hname, hoffered⟩ := Bool.and_eq_true_iff.1 hx
      obtain rfl : name = registration := of_decide_eq_true hname
      obtain rfl : offered = provider := of_decide_eq_true hoffered
      obtain ⟨q, hname, hnoop⟩ := h.provider
      obtain ⟨won, s', hrun, hstays, _⟩ :=
        h.mute.install (h.mute.sound.names.providers _ q hname) hnoop false
      refine ⟨if processWide = some r then .nothing else .flag won, s', ?_, h.stays hstays⟩
      rw [perform, bind_of_ok (named_of_some h.registration),
        bind_of_ok (providerNamed_of_some hname), setProvider, bind_of_ok hrun]
      rfl
  | getProvider name =>
      obtain rfl : name = registration := of_decide_eq_true hx
      obtain ⟨q, s', hrun, hstays, hq⟩ := h.mute.getProvider depth
      obtain ⟨shown, s'', hshown, h'⟩ := identify_mute (h.stays hstays) hq
      refine ⟨.identity shown, s'', ?_, h'⟩
      rw [perform, bind_of_ok (named_of_some h.registration), bind_of_ok hrun]
      exact bind_of_ok hshown
  | configure name key value =>
      obtain ⟨hname, hvalue⟩ := Bool.and_eq_true_iff.1 hx
      obtain rfl : name = registration := of_decide_eq_true hname
      obtain ⟨s', hrun, hstays⟩ := h.mute.configure key value fun v hv => by
        rw [hv] at hvalue
        simpa using hvalue
      refine ⟨.nothing, s', ?_, h.stays hstays⟩
      rw [perform, bind_of_ok (named_of_some h.registration), bind_of_ok hrun]
      rfl
  | _ => cases hx

end Op

/-! ## Steps and runs -/

section Runs

variable (depth : Nat) (processWide : Option RegistrationRef)

theorem Step.sequential_of_uses {x : Step}
    (hx : x.uses registration provider = true ∨ x.installs registration provider = true) :
    x.sequential = true := by
  cases x <;> first | rfl | simp [uses, installs] at hx

/-- A step does what the API does, and shows no more of it. -/
theorem Resembles.step (hreach : Reachable s) (h : Resembles registration provider r s a) {x : Step}
    (hx : x.uses registration provider = true) :
    (Scenario.step (depth + 1) processWide s x).1.1.unissued = (a.step x).1 ∧
      Resembles registration provider r (Scenario.step (depth + 1) processWide s x).2
        (a.step x).2 := by
  have hclear := h.stays (h.mute.retrace #[])
  have hwired : Store.Wired { s with trace := #[] } := (wired_of_reachable hreach).of_eq rfl rfl
  have habreast : Store.Abreast { s with trace := #[] } :=
    (abreast_of_reachable hreach).of_eq rfl rfl
  have himitates := Op.imitates_perform depth processWide hclear hwired habreast hx
  unfold Op.Imitates at himitates
  unfold Scenario.step Inert.step
  cases hrun : Op.perform (depth + 1) processWide x { s with trace := #[] } <;>
    cases hreply : a.perform x <;> simp only [hrun, hreply] at himitates ⊢
  · exact himitates
  · exact ⟨congrArg Reply.halted himitates.1, himitates.2⟩

theorem Resembles.pass (h : Resembles registration provider r s a) {x : Step}
    (hx : x.installs registration provider = true) :
    Resembles registration provider r (Scenario.step (depth + 1) processWide s x).2 a := by
  obtain ⟨reply, s', hrun, h'⟩ :=
    Op.installs_run depth processWide (h.stays (h.mute.retrace #[])) hx
  rw [Scenario.step_of_ok hrun]
  exact h'

/-- A run answers what the API answers to the steps that use it. -/
theorem Resembles.run (hreach : Reachable s) (h : Resembles registration provider r s a)
    {steps : List Step} (hsteps : ∀ x ∈ steps,
      x.uses registration provider = true ∨ x.installs registration provider = true) :
    Scenario.answers (depth + 1) processWide registration provider s steps =
        a.replies (steps.filter (Step.uses registration provider)) ∧
      (Scenario.after (depth + 1) processWide s steps).callbacks = a.callbacks := by
  induction steps generalizing s a with
  | nil => exact ⟨rfl, h.callbacks⟩
  | cons x steps ih =>
      have hx := hsteps x List.mem_cons_self
      have hnext := hreach.step (depth + 1) processWide (Step.sequential_of_uses hx)
      have hrest : ∀ y ∈ steps,
          y.uses registration provider = true ∨ y.installs registration provider = true :=
        fun y hy => hsteps y (List.mem_cons_of_mem x hy)
      by_cases huses : x.uses registration provider = true
      · obtain ⟨hreply, h'⟩ := h.step depth processWide hreach huses
        obtain ⟨hreplies, hcallbacks⟩ := ih hnext h' hrest
        refine ⟨?_, hcallbacks.trans ?_⟩
        · rw [List.filter_cons_of_pos huses, Scenario.answers, if_pos huses, hreply, hreplies]
          rfl
        · exact (a.tame_step x).2
      · have h' := h.pass depth processWide (hx.resolve_left huses)
        obtain ⟨hreplies, hcallbacks⟩ := ih hnext h' hrest
        refine ⟨?_, hcallbacks⟩
        rw [List.filter_cons_of_neg huses, Scenario.answers, if_neg huses, hreplies]

end Runs

/-! ## The main statement -/

/-- Nothing is registered at the registration `r`, its configuration names nothing or the discarding
provider, which its registry still makes, and no meter and no instrument has a name. -/
structure Store.Unregistered (s : Store) (r : RegistrationRef) : Prop where
  target : (s.provider (s.registration r).deferred).target? = none
  configured : s.NamesNoop r
  factory : (s.registry (s.registration r).discovery.registry).get? Registry.noopName = some .noop
  meters : s.directory.meters = .empty
  instruments : s.directory.instruments = .empty

/-- A registration at which nothing is registered resembles the API that does nothing. -/
theorem resembles_of_unregistered (hreach : Reachable s) (h : s.Unregistered r)
    (hr : s.directory.registrations.get? registration = some r)
    (hp : ∃ q, s.directory.providers.get? provider = some q ∧ s.provider q.ref = .noop) :
    Resembles registration provider r s (.blank s) := by
  have hsound := reachable_sound hreach
  have hknown := hsound.names.registrations registration r hr
  have hend := Store.providerEnd?_eq_some.2 (endsAt_self h.target)
  have hagrees := reachable_agreed hreach r hknown (by rw [hend]; rfl)
  have hmute : s.Mute r := by
    refine ⟨hsound, hknown, hagrees, fun p hp => ?_, h.configured, h.factory⟩
    rw [← hagrees.target, h.target] at hp
    cases hp
  refine ⟨hmute, hr, hp, rfl, rfl, fun _ => ?_, fun _ => ?_⟩
  · rw [h.meters]
    exact .none
  · rw [h.instruments]
    exact .none

/-- A program gets the same replies whether nothing is registered, a discarding provider takes
effect at any time, offered or discovered, or it asks such a provider itself: those of the API that
does nothing, in which nothing panics and every batch is empty. No callback is called. -/
theorem unregistered_inert (h : Reachable s) (hunregistered : s.Unregistered r)
    (hr : s.directory.registrations.get? registration = some r)
    (hp : ∃ q, s.directory.providers.get? provider = some q ∧ s.provider q.ref = .noop)
    (depth : Nat) (processWide : Option RegistrationRef) {program installed : List Step}
    (hprogram : ∀ x ∈ program, x.uses registration provider = true)
    (hinstalled : ∀ x ∈ installed,
      x.uses registration provider = true ∨ x.installs registration provider = true)
    (hsame : installed.filter (Step.uses registration provider) = program) :
    let replies := (Inert.blank s).replies program
    let direct := program.map (Step.direct provider)
    (∀ steps ∈ [program, installed, direct],
      Scenario.answers (depth + 1) processWide registration provider s steps = replies ∧
        (Scenario.after (depth + 1) processWide s steps).callbacks = s.callbacks) ∧
      ∀ reply ∈ replies, reply.harmless = true := by
  intro replies direct
  have hresembles := resembles_of_unregistered h hunregistered hr hp
  have hrun := @Resembles.run _ _ _ _ _ depth processWide h hresembles
  have hdirect : ∀ x ∈ direct, x.uses registration provider = true := by
    intro x hx
    obtain ⟨y, hy, rfl⟩ := List.mem_map.1 hx
    have huses := hprogram y hy
    cases y <;> first | exact huses | exact decide_eq_true rfl
  refine ⟨fun steps hsteps => ?_, fun reply hreply => Inert.harmless_replies _ hreply⟩
  rcases List.mem_cons.1 hsteps with rfl | hsteps
  · have hboth := hrun fun x hx => .inl (hprogram x hx)
    rwa [List.filter_eq_self.2 hprogram] at hboth
  · rcases List.mem_cons.1 hsteps with rfl | hsteps
    · have hboth := hrun hinstalled
      rwa [hsame] at hboth
    · obtain rfl := List.mem_singleton.1 hsteps
      have hboth := hrun fun x hx => .inl (hdirect x hx)
      rwa [List.filter_eq_self.2 hdirect, Inert.replies_direct] at hboth

/-- A registration and a provider that discards everything. -/
def Store.unregistered : Store :=
  Scenario.after 1 none (.initial .empty)
    [.registration "r" none (.settings []) none,
      .provider "p" .noop,
      .callback "c" .function [.batch [⟨.ofNat 1, .empty⟩]] []]

theorem unregistered_inert_offered :
    let program : List Step := [.getMeter "r" "m" (.named "kept"),
      .create "m" "i" .counter (.named "hits") none, .add "i" 5 .empty,
      .create "m" "g" .observableGauge (.named "load") (some "c"), .observe "g", .polls "c"]
    let installed : List Step := [.getMeter "r" "m" (.named "kept"),
      .create "m" "i" .counter (.named "hits") none,
      .configure "r" Discovery.defaultKey (some " noop "), .add "i" 5 .empty, .getProvider "r",
      .create "m" "g" .observableGauge (.named "load") (some "c"), .setProvider "r" "p",
      .observe "g", .polls "c"]
    let replies := (Inert.blank .unregistered).replies program
    let direct := program.map (Step.direct "p")
    (∀ steps ∈ [program, installed, direct],
      Scenario.answers 1 none "r" "p" .unregistered steps = replies ∧
        (Scenario.after 1 none .unregistered steps).callbacks = Store.unregistered.callbacks) ∧
      ∀ reply ∈ replies, reply.harmless = true := by
  have hreach : Reachable .unregistered := .after _ _ (.initial _) (by decide)
  have hfactory : Registry.preset.get? Registry.noopName = some .noop :=
    Roster.get?_insert_self _ _ _
  have hunregistered : Store.unregistered.Unregistered ⟨0⟩ := ⟨rfl, nofun, hfactory, rfl, rfl⟩
  exact unregistered_inert hreach hunregistered (by decide +kernel)
    ⟨⟨⟨1⟩, false⟩, by decide +kernel, rfl⟩ 0 none (by decide) (by decide +kernel) (by rfl)

end DeferredMetrics
