import DeferredMetrics.Proofs.Looking
import DeferredMetrics.Proofs.Running

set_option autoImplicit false

/-! # What a request shows

What is asked of a provider is shown by the code behind it before it is answered, and a provider
may be given a name to be shown by. `Shown s s'` says that `s'` differs from `s` in that and in
nothing else; it is kept by every change of the objects, so a proof about what an operation does
can leave out what is shown on the way. Nothing is shown of what a `Quiet` provider is asked
(`ShownUnless`). `Provider.refusal` says which requests are refused, by the number of calls that
the provider's probe has seen. -/

namespace DeferredMetrics

/-- What can be asked of a provider, directly or through one of its meters. -/
inductive Ask where
  | meter (scope : Scope)
  | instrument (request : Request)

namespace Provider

/-- The payload with which the provider refuses what it is asked when its probe has seen `n` calls
more, if it refuses it. -/
def refusal (p : Provider) (n : Nat) (ask : Ask) : Option Payload :=
  match p, ask with
  | .recording q, .meter scope =>
      q.probe.bind fun probe => probe.panicsForMeter (q.asked + n) scope
  | .recording q, .instrument request =>
      q.probe.bind fun probe => probe.panicsForInstrument (q.asked + n) request.descriptor
  | .sdk q, .instrument request => (q.rejects request.descriptor.name).map Op.rejection
  | _, _ => none

/-- The provider after a call, which its probe counts if there is one. -/
def probed (p : Provider) : Provider :=
  match p with
  | .recording q => if q.probe.isSome then p.countCall else p
  | p => p

/-- The body of the meters that the provider issues. -/
def freshBody : Provider → MeterBody
  | .noop => .noop
  | .recording _ => .recording ⟨[], #[]⟩
  | .deferred _ => .deferred ⟨none, []⟩
  | .sdk _ => .sdk

/-- A meter with the body `body` is one that the provider issues. -/
inductive Fits : Provider → MeterBody → Prop where
  | noop : Fits .noop .noop
  | recording (q : RecordingProvider) (m : RecordingMeter) : Fits (.recording q) (.recording m)
  | deferred (q : DeferredProvider) (d : DeferredMeter) : Fits (.deferred q) (.deferred d)
  | sdk (q : SdkProvider) : Fits (.sdk q) .sdk

namespace Fits

variable {p : Provider} {body : MeterBody}

theorem body_of_recording {q : RecordingProvider} (h : p.Fits body) (hp : p = .recording q) :
    ∃ m, body = .recording m := by
  subst hp
  cases h with
  | recording _ m => exact ⟨m, rfl⟩

theorem body_of_deferred {q : DeferredProvider} (h : p.Fits body) (hp : p = .deferred q) :
    ∃ d, body = .deferred d := by
  subst hp
  cases h with
  | deferred _ d => exact ⟨d, rfl⟩

theorem body_of_sdk {q : SdkProvider} (h : p.Fits body) (hp : p = .sdk q) : body = .sdk := by
  subst hp
  cases h
  rfl

theorem body_of_noop (h : p.Fits body) (hp : p = .noop) : body = .noop := by
  subst hp
  cases h
  rfl

theorem exists_recording {m : RecordingMeter} (h : p.Fits body) (hbody : body = .recording m) :
    ∃ q, p = .recording q := by
  subst hbody
  cases h with
  | recording q _ => exact ⟨q, rfl⟩

theorem exists_sdk (h : p.Fits body) (hbody : body = .sdk) : ∃ q, p = .sdk q := by
  subst hbody
  cases h with
  | sdk q => exact ⟨q, rfl⟩

end Fits

theorem fits_freshBody (p : Provider) : p.Fits p.freshBody := by cases p <;> constructor

theorem fits_probed {p : Provider} {body : MeterBody} (h : p.Fits body) : p.probed.Fits body := by
  cases h with
  | recording q m => cases hq : q.probe <;> simp only [probed, hq, countCall] <;> constructor
  | _ => constructor

/-- Nothing is shown of what the provider is asked. -/
def Quiet : Provider → Prop
  | .recording q => q.probe = none
  | .sdk _ => False
  | _ => True

/-- The provider after it answered a request for an instrument with `j`. -/
def keepRequest (p : Provider) (request : Request) (j : InstrumentRef) : Provider :=
  match request.callback with
  | some c => p.holdCallback ⟨j, request.descriptor.name, c⟩
  | none => p

end Provider

namespace Meter

/-- The meter after it answered a request with the instrument `i`. -/
def keepRequest (m : Meter) (request : Request) (i : InstrumentRef) : Meter :=
  match m.body with
  | .recording _ => m.noteCreated request.kind request.descriptor
  | .deferred _ => m.hold i
  | _ => m

/-- Where the instruments that the meter issues lead. -/
def freshDestination (m : Meter) : Destination :=
  match m.body with
  | .noop => .nowhere
  | .recording _ => .log
  | .deferred _ => .deferred none
  | .sdk => .sdk

end Meter

namespace Event

/-- The event belongs to a request that a backend got. -/
def isRequest : Event → Bool
  | .meterAsked .. => true
  | .instrumentAsked .. => true
  | .peeked .. => true
  | .sdkMeter .. => true
  | .sdkInstrument .. => true
  | _ => false

end Event

/-- The stores differ in events of requests and in names that registered providers are shown by,
and in nothing else. -/
structure Shown (s s' : Store) : Prop where
  providers : s'.providers = s.providers
  meters : s'.meters = s.meters
  instruments : s'.instruments = s.instruments
  callbacks : s'.callbacks = s.callbacks
  registries : s'.registries = s.registries
  registrations : s'.registrations = s.registrations
  environment : s'.environment = s.environment
  calls : s'.calls = s.calls
  directory : s'.directory = { s.directory with
    providers := s'.directory.providers, inventions := s'.directory.inventions }
  names : ∀ name q, s'.directory.providers.get? name = some q →
    s.directory.providers.get? name = some q ∨ ∃ r, (s.registration r).provider = some q.ref
  trace : s'.trace.toList.filter (fun e => !e.isRequest) =
    s.trace.toList.filter (fun e => !e.isRequest)

namespace Shown

variable {s s' : Store}

theorem refl (s : Store) : Shown s s :=
  ⟨rfl, rfl, rfl, rfl, rfl, rfl, rfl, rfl, rfl, fun _ _ h => .inl h, rfl⟩

theorem trans {s₁ s₂ s₃ : Store} (h : Shown s₁ s₂) (h' : Shown s₂ s₃) : Shown s₁ s₃ where
  providers := h'.providers.trans h.providers
  meters := h'.meters.trans h.meters
  instruments := h'.instruments.trans h.instruments
  callbacks := h'.callbacks.trans h.callbacks
  registries := h'.registries.trans h.registries
  registrations := h'.registrations.trans h.registrations
  environment := h'.environment.trans h.environment
  calls := h'.calls.trans h.calls
  directory := by rw [h'.directory, h.directory]
  names name q hq := by
    rcases h'.names name q hq with hq | ⟨r, hr⟩
    · exact h.names name q hq
    · rw [Store.registration, h.registrations] at hr
      exact .inr ⟨r, hr⟩
  trace := h'.trace.trans h.trace

/-- An event of a request is shown. -/
theorem see (s : Store) (e : Event) (he : e.isRequest = true) : Shown s (s.see e) :=
  { refl s with trace := by simp [Store.see, he] }

/-- A name is made up for a registered provider. -/
theorem nameStray (s : Store) (name : String) {p : ProviderRef}
    (hp : ∃ r, (s.registration r).provider = some p) :
    Shown s (s.countInvention.nameStray name p) :=
  { refl s with
    directory := rfl
    names := by
      intro other q hq
      have hget := Roster.get?_insert s.directory.providers name other ⟨p, true⟩
      rw [show (s.countInvention.nameStray name p).directory.providers
        = s.directory.providers.insert name ⟨p, true⟩ from rfl, hget] at hq
      split at hq
      · cases hq
        exact .inr hp
      · exact .inl hq }

/-! ## Changes of the objects -/

theorem note (h : Shown s s') (c : Call) : Shown (s.note c) (s'.note c) :=
  { h with calls := congrArg (Array.push · c) h.calls }

theorem log (h : Shown s s') (m : Message) : Shown (s.log m) (s'.log m) :=
  { h with trace := by simpa [Store.log, Store.see] using h.trace }

theorem updateProvider (h : Shown s s') (r : ProviderRef) (f : Provider → Provider) :
    Shown (s.updateProvider r f) (s'.updateProvider r f) :=
  { h with providers := congrArg (Table.update · r f) h.providers }

theorem updateMeter (h : Shown s s') (r : MeterRef) (f : Meter → Meter) :
    Shown (s.updateMeter r f) (s'.updateMeter r f) :=
  { h with meters := congrArg (Table.update · r f) h.meters }

theorem updateInstrument (h : Shown s s') (r : InstrumentRef) (f : Instrument → Instrument) :
    Shown (s.updateInstrument r f) (s'.updateInstrument r f) :=
  { h with instruments := congrArg (Table.update · r f) h.instruments }

theorem addMeter (h : Shown s s') (m : Meter) : Shown (s.addMeter m) (s'.addMeter m) :=
  { h with meters := congrArg (Table.add · m) h.meters }

theorem addInstrument (h : Shown s s') (i : Instrument) :
    Shown (s.addInstrument i) (s'.addInstrument i) :=
  { h with instruments := congrArg (Table.add · i) h.instruments }

theorem provider (h : Shown s s') (r : ProviderRef) : s'.provider r = s.provider r :=
  congrArg (Table.get · r) h.providers

theorem meter (h : Shown s s') (r : MeterRef) : s'.meter r = s.meter r :=
  congrArg (Table.get · r) h.meters

theorem instrument (h : Shown s s') (r : InstrumentRef) : s'.instrument r = s.instrument r :=
  congrArg (Table.get · r) h.instruments

theorem providerEnd? (h : Shown s s') (r : ProviderRef) : s'.providerEnd? r = s.providerEnd? r := by
  simp only [Store.providerEnd?, Store.provider, h.providers]

end Shown

/-- The stores differ in what is shown, and if nothing is shown, not at all. -/
structure ShownUnless (quiet : Prop) (s s' : Store) : Prop where
  shown : Shown s s'
  same : quiet → s' = s

namespace ShownUnless

variable {quiet : Prop} {s s' : Store}

theorem refl (s : Store) : ShownUnless quiet s s := ⟨.refl s, fun _ => rfl⟩

theorem trans {s₁ s₂ s₃ : Store} (h : ShownUnless quiet s₁ s₂) (h' : ShownUnless quiet s₂ s₃) :
    ShownUnless quiet s₁ s₃ :=
  ⟨h.shown.trans h'.shown, fun hquiet => (h'.same hquiet).trans (h.same hquiet)⟩

theorem mono {still : Prop} (h : ShownUnless quiet s s') (hstill : still → quiet) :
    ShownUnless still s s' :=
  ⟨h.shown, fun h' => h.same (hstill h')⟩

theorem loud (h : Shown s s') (hloud : ¬ quiet) : ShownUnless quiet s s' :=
  ⟨h, fun hquiet => absurd hquiet hloud⟩

/-- Whatever keeps `Shown` keeps that nothing is shown. -/
theorem map (h : ShownUnless quiet s s') {f : Store → Store} (hf : Shown (f s) (f s')) :
    ShownUnless quiet (f s) (f s') :=
  ⟨hf, fun hquiet => congrArg f (h.same hquiet)⟩

variable (h : ShownUnless quiet s s')
include h

theorem log (m : Message) : ShownUnless quiet (s.log m) (s'.log m) :=
  h.map (f := fun s => s.log m) (h.shown.log m)

theorem updateProvider (r : ProviderRef) (f : Provider → Provider) :
    ShownUnless quiet (s.updateProvider r f) (s'.updateProvider r f) :=
  h.map (f := fun s => s.updateProvider r f) (h.shown.updateProvider r f)

theorem updateMeter (r : MeterRef) (f : Meter → Meter) :
    ShownUnless quiet (s.updateMeter r f) (s'.updateMeter r f) :=
  h.map (f := fun s => s.updateMeter r f) (h.shown.updateMeter r f)

theorem addMeter (m : Meter) : ShownUnless quiet (s.addMeter m) (s'.addMeter m) :=
  h.map (f := fun s => s.addMeter m) (h.shown.addMeter m)

theorem addInstrument (i : Instrument) :
    ShownUnless quiet (s.addInstrument i) (s'.addInstrument i) :=
  h.map (f := fun s => s.addInstrument i) (h.shown.addInstrument i)

end ShownUnless

namespace Op

/-- Identifying a provider always succeeds, and at most makes up a name for it. -/
theorem identify_run (x : Option ProviderRef) (s : Store) :
    ∃ id s', identify x s = .ok id s' ∧
      (s' = s ∨ ∃ p name, x = some p ∧ s' = s.countInvention.nameStray name p) := by
  cases x with
  | none => exact ⟨.absent, s, rfl, .inl rfl⟩
  | some p =>
      cases howner : s.directory.registrations.nameOf? fun o =>
          decide ((s.registration o).deferred = p) with
      | some name =>
          exact ⟨.deferredOf name, s, by simp [identify, bind_run, howner], .inl rfl⟩
      | none =>
          cases hname : s.directory.providers.nameOf? fun q => decide (q.ref = p) with
          | some name =>
              exact ⟨.named name false, s, by simp [identify, bind_run, howner, hname], .inl rfl⟩
          | none =>
              exact ⟨.named s.inventedName true, s.countInvention.nameStray s.inventedName p,
                by simp [identify, bind_run, map_run, howner, hname, invent],
                .inr ⟨p, s.inventedName, rfl, rfl⟩⟩

/-- Identifying the provider of a registration shows it and does nothing else. -/
theorem identify_registered (r : RegistrationRef) (s : Store) :
    ∃ id s', identify (s.registration r).provider s = .ok id s' ∧ Shown s s' := by
  obtain ⟨id, s', hrun, rfl | ⟨p, name, hp, rfl⟩⟩ := identify_run (s.registration r).provider s
  · exact ⟨id, s', hrun, Shown.refl s'⟩
  · exact ⟨id, _, hrun, Shown.nameStray s name ⟨r, hp⟩⟩

end Op

end DeferredMetrics
