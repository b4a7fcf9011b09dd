import DeferredMetrics.Proofs.Trials

set_option autoImplicit false

/-! # What requests and trials leave alone

Requests, and the trials that are made of them, work on providers, meters and instruments. They
leave alone callbacks, registries, registrations and the environment, they give no name except to
show a registered provider by, and whether a provider is taken or refused by a registration is none
of the things that they show. -/

namespace DeferredMetrics

/-- The event tells what a registration decided on an offered provider. -/
def Event.isDecision : Event → Bool
  | .log (.installed _) => true
  | .log .refused => true
  | .offered _ => true
  | _ => false

/-- The decisions that are shown, in order. -/
def Store.decisions (s : Store) : List Event := s.trace.toList.filter Event.isDecision

/-- The stores agree in all that requests leave alone. -/
structure Aside (s s' : Store) : Prop where
  callbacks : s'.callbacks = s.callbacks
  registries : s'.registries = s.registries
  registrations : s'.registrations = s.registrations
  environment : s'.environment = s.environment
  directory : s'.directory = { s.directory with
    providers := s'.directory.providers, inventions := s'.directory.inventions }
  names : ∀ name q, s'.directory.providers.get? name = some q →
    s.directory.providers.get? name = some q ∨ ∃ r, (s.registration r).provider = some q.ref
  decisions : s'.decisions = s.decisions

namespace Aside

theorem refl (s : Store) : Aside s s := ⟨rfl, rfl, rfl, rfl, rfl, fun _ _ h => .inl h, rfl⟩

/-- No registration gets a name. -/
theorem roster {s s' : Store} (h : Aside s s') :
    s'.directory.registrations = s.directory.registrations := by
  rw [h.directory]

theorem trans {s₁ s₂ s₃ : Store} (h : Aside s₁ s₂) (h' : Aside s₂ s₃) : Aside s₁ s₃ where
  callbacks := h'.callbacks.trans h.callbacks
  registries := h'.registries.trans h.registries
  registrations := h'.registrations.trans h.registrations
  environment := h'.environment.trans h.environment
  directory := by rw [h'.directory, h.directory]
  names name q hq := by
    rcases h'.names name q hq with hq | ⟨r, hr⟩
    · exact h.names name q hq
    · rw [Store.registration, h.registrations] at hr
      exact .inr ⟨r, hr⟩
  decisions := h'.decisions.trans h.decisions

theorem log (s : Store) {m : Message} (hm : (Event.log m).isDecision = false) : Aside s (s.log m) :=
  { refl s with decisions := by simp [Store.decisions, Store.log, Store.see, hm] }

theorem note (s : Store) (c : Call) : Aside s (s.note c) := { refl s with }

theorem noteReturn {α : Type} (s : Store) (answer : Except Payload α) (returned : α → Call) :
    Aside s (s.noteReturn answer returned) := by
  cases answer with
  | ok a => exact note s (returned a)
  | error payload => exact refl s

theorem updateProvider (s : Store) (r : ProviderRef) (f : Provider → Provider) :
    Aside s (s.updateProvider r f) := { refl s with }

theorem updateMeter (s : Store) (r : MeterRef) (f : Meter → Meter) : Aside s (s.updateMeter r f) :=
  { refl s with }

theorem updateIssuer (s : Store) (issuer : Option ProviderRef) (f : Provider → Provider) :
    Aside s (s.updateIssuer issuer f) := by
  cases issuer with
  | none => exact refl s
  | some e => exact updateProvider s e f

theorem giveMeter (s : Store) (e : ProviderRef) (scope : Scope) :
    Aside s (s.giveMeter e scope) := by
  unfold Store.giveMeter
  simp only
  split <;> exact { refl s with }

theorem giveInstrument (s : Store) (t : MeterRef) (request : Request) :
    Aside s (s.giveInstrument t request) := by
  have hissuer := updateIssuer s (s.meter t).issuer Provider.probed
  unfold Store.giveInstrument
  simp only
  split
  · exact hissuer
  · exact hissuer.trans { updateIssuer _ (s.meter t).issuer
      fun p => p.keepRequest request s.instruments.next with }

theorem bindInstrument (s : Store) (i j : InstrumentRef) : Aside s (s.bindInstrument i j) := by
  unfold Store.bindInstrument
  split
  · apply log
    unfold Instrument.alreadyBound
    split <;> rfl
  · exact { refl s with }

theorem askMeter (s : Store) (p e : ProviderRef) (scope : Scope) : Aside s (s.askMeter p e scope) :=
  (note s _).trans ((giveMeter _ e scope).trans (noteReturn _ _ _))

theorem askInstrument (s : Store) (m t : MeterRef) (request : Request) :
    Aside s (s.askInstrument m t request) :=
  (note s _).trans ((giveInstrument _ t request).trans (noteReturn _ _ _))

theorem tryInstrument (s : Store) (t : MeterRef) (i : InstrumentRef) :
    Aside s (s.tryInstrument t i) := by
  have hask := (note s (.bindInstrument i t)).trans
    (askInstrument _ t t (s.instrument i).request)
  unfold Store.tryInstrument
  simp only
  split
  · exact hask.trans (bindInstrument _ i _)
  · exact hask.trans (log _ rfl)

theorem tryInstruments (s : Store) (t : MeterRef) (is : List InstrumentRef) :
    Aside s (s.tryInstruments t is) := by
  induction is generalizing s with
  | nil => exact refl s
  | cons i is ih => exact (tryInstrument s t i).trans (ih (s.tryInstrument t i))

theorem bindMeter (s : Store) (m t : MeterRef) : Aside s (s.bindMeter m t) :=
  (note s _).trans ((tryInstruments _ t _).trans ((updateMeter _ m _).trans (log _ rfl)))

theorem tryMeter (s : Store) (p e : ProviderRef) (m : MeterRef) : Aside s (s.tryMeter p e m) := by
  have hask := askMeter s p e (s.meter m).scope
  unfold Store.tryMeter
  simp only
  split
  · exact hask.trans (bindMeter _ m _)
  · exact hask.trans (log _ rfl)

theorem tryMeters (s : Store) (p e : ProviderRef) (ms : List MeterRef) :
    Aside s (s.tryMeters p e ms) := by
  induction ms generalizing s with
  | nil => exact refl s
  | cons m ms ih => exact (tryMeter s p e m).trans (ih (s.tryMeter p e m))

theorem bindProvider (s : Store) (d p e : ProviderRef) : Aside s (s.bindProvider d p e) :=
  (note s _).trans ((updateProvider _ d _).trans ((tryMeters _ p e _).trans (log _ rfl)))

end Aside

/-! ## Names and what could be seen -/

namespace Store

/-- What a request leaves of the directory and of what could be seen, once it is answered. -/
theorem directory_askMeter (s : Store) (p e : ProviderRef) (scope : Scope) :
    (s.askMeter p e scope).directory = s.directory ∧ (s.askMeter p e scope).trace = s.trace := by
  unfold askMeter noteReturn giveMeter
  cases s.meterAnswer e scope <;>
    cases ((s.note (.meter p scope)).provider e).refusal 0 (.meter scope) <;>
      exact ⟨rfl, rfl⟩

theorem directory_askInstrument (s : Store) (m t : MeterRef) (request : Request) :
    (s.askInstrument m t request).directory = s.directory ∧
      (s.askInstrument m t request).trace = s.trace := by
  have hissuer : ∀ (s : Store) (issuer : Option ProviderRef) (f : Provider → Provider),
      (s.updateIssuer issuer f).directory = s.directory ∧
        (s.updateIssuer issuer f).trace = s.trace := by
    intro s issuer f
    cases issuer <;> exact ⟨rfl, rfl⟩
  have hgive : (giveInstrument (s.note (.instrument m request)) t request).directory = s.directory ∧
      (giveInstrument (s.note (.instrument m request)) t request).trace = s.trace := by
    unfold giveInstrument
    simp only
    split
    · exact hissuer _ _ _
    · obtain ⟨hdirectory, htrace⟩ := hissuer (s.note (.instrument m request))
        ((s.note (.instrument m request)).meter t).issuer Provider.probed
      obtain ⟨hdirectory', htrace'⟩ := hissuer (updateIssuer (s.note (.instrument m request))
        ((s.note (.instrument m request)).meter t).issuer Provider.probed)
        ((s.note (.instrument m request)).meter t).issuer
        fun p => p.keepRequest request s.instruments.next
      exact ⟨hdirectory'.trans hdirectory, htrace'.trans htrace⟩
  unfold askInstrument noteReturn
  cases s.instrumentAnswer t request <;> exact hgive

/-- Trials give no names. -/
theorem directory_tryInstrument (s : Store) (t : MeterRef) (i : InstrumentRef) :
    (s.tryInstrument t i).directory = s.directory := by
  have hask :=
    (directory_askInstrument (s.note (.bindInstrument i t)) t t (s.instrument i).request).1
  have hbind :
      ∀ (s : Store) (j : InstrumentRef), (s.bindInstrument i j).directory = s.directory := by
    intro s j
    unfold bindInstrument
    split <;> rfl
  unfold tryInstrument
  simp only
  split
  · exact (hbind _ _).trans hask
  · exact hask

theorem directory_tryInstruments (s : Store) (t : MeterRef) (is : List InstrumentRef) :
    (s.tryInstruments t is).directory = s.directory := by
  induction is generalizing s with
  | nil => rfl
  | cons i is ih => exact (ih (s.tryInstrument t i)).trans (directory_tryInstrument s t i)

theorem directory_tryMeter (s : Store) (p e : ProviderRef) (m : MeterRef) :
    (s.tryMeter p e m).directory = s.directory := by
  have hask := (directory_askMeter s p e (s.meter m).scope).1
  unfold tryMeter
  simp only
  split
  · exact (directory_tryInstruments _ _ _).trans hask
  · exact hask

theorem directory_tryMeters (s : Store) (p e : ProviderRef) (ms : List MeterRef) :
    (s.tryMeters p e ms).directory = s.directory := by
  induction ms generalizing s with
  | nil => rfl
  | cons m ms ih => exact (ih (s.tryMeter p e m)).trans (directory_tryMeter s p e m)

end Store

/-- What is shown of a request is no decision of a registration. -/
theorem Shown.decisions {s s' : Store} (h : Shown s s') : s'.decisions = s.decisions := by
  have hfilter : ∀ l : List Event,
      l.filter Event.isDecision = (l.filter fun e => !e.isRequest).filter Event.isDecision := by
    intro l
    rw [List.filter_filter]
    congr 1
    funext e
    cases e <;> simp [Event.isDecision, Event.isRequest]
  rw [Store.decisions, hfilter, h.trace, ← hfilter]
  rfl

theorem Shown.aside {s s' : Store} (h : Shown s s') : Aside s s' where
  callbacks := h.callbacks
  registries := h.registries
  registrations := h.registrations
  environment := h.environment
  directory := h.directory
  names := h.names
  decisions := h.decisions

end DeferredMetrics
