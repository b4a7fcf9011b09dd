import DeferredMetrics.Proofs.Exchanges

set_option autoImplicit false

/-! # What is never taken back

Objects keep their places and what they were asked for by, targets stay, lists only get longer, a
gate that has fired stays fired, and calls are not forgotten. `Later s s'` says that `s'` is
related to `s` in this way; it holds of every operation, and it is what makes it possible to speak
of one object in two states. -/

namespace DeferredMetrics

namespace Table

variable {k : ObjectKind} {α : Type} [Inhabited α]

/-- Every object is still there, related to what it was. -/
def Grows (R : α → α → Prop) (t t' : Table k α) : Prop :=
  ∀ r, t.Has r → t'.Has r ∧ R (t.get r) (t'.get r)

namespace Grows

variable {R : α → α → Prop} {t t' t'' : Table k α}

theorem refl (hR : ∀ x, R x x) (t : Table k α) : Grows R t t := fun r hr => ⟨hr, hR (t.get r)⟩

theorem trans (hR : ∀ x y z, R x y → R y z → R x z) (h : Grows R t t') (h' : Grows R t' t'') :
    Grows R t t'' := by
  intro r hr
  obtain ⟨hr', hrow⟩ := h r hr
  obtain ⟨hr'', hrow'⟩ := h' r hr'
  exact ⟨hr'', hR _ _ _ hrow hrow'⟩

theorem add (hR : ∀ x, R x x) (t : Table k α) (x : α) : Grows R t (t.add x) := by
  intro r hr
  refine ⟨(has_add t x r).2 (.inl hr), ?_⟩
  rw [get_add_of_has t x hr]
  exact hR _

theorem update (hR : ∀ x, R x x) {f : α → α} {r : Ref k} (h : R (t.get r) (f (t.get r))) :
    Grows R t (t.update r f) := by
  intro r' hr'
  refine ⟨(has_update t r r' f).2 hr', ?_⟩
  rw [get_update]
  split
  · rename_i heq
    rw [heq.1]
    exact h
  · exact hR _

end Grows

end Table

/-! ## Single objects -/

/-- What of a provider is never taken back. -/
structure Provider.Grows (p p' : Provider) : Prop where
  freshBody : p'.freshBody = p.freshBody
  target : ∀ t, p.target? = some t → p'.target? = some t
  meters : p.meters <+: p'.meters

/-- What of a meter is never taken back. -/
structure Meter.Grows (m m' : Meter) : Prop where
  scope : m'.scope = m.scope
  issuer : m'.issuer = m.issuer
  target : ∀ t, m.target? = some t → m'.target? = some t
  instruments : m.instruments <+: m'.instruments

/-- What of an instrument is never taken back. -/
structure Instrument.Grows (i i' : Instrument) : Prop where
  request : i'.request = i.request
  issuer : i'.issuer = i.issuer
  target : ∀ t, i.target? = some t → i'.target? = some t

/-- What of a registration is never taken back. -/
structure Registration.Grows (o o' : Registration) : Prop where
  deferred : o'.deferred = o.deferred
  gate : o.gate.fired = true → o'.gate.fired = true

namespace Provider

theorem Grows.refl (p : Provider) : p.Grows p := ⟨rfl, fun _ h => h, List.prefix_refl _⟩

theorem Grows.trans {p q r : Provider} (h : p.Grows q) (h' : q.Grows r) : p.Grows r :=
  ⟨h'.freshBody.trans h.freshBody, fun t ht => h'.target t (h.target t ht),
    h.meters.trans h'.meters⟩

theorem grows_probed (p : Provider) : p.Grows p.probed := by
  refine ⟨?_, fun t ht => by rwa [target?_probed], ?_⟩ <;>
  · cases p with
    | recording q => cases hq : q.probe <;> simp [probed, hq, countCall, freshBody, meters]
    | _ => rfl

theorem grows_hold (p : Provider) (m : MeterRef) : p.Grows (p.hold m) := by
  refine ⟨?_, fun t ht => by rwa [target?_hold], ?_⟩
  · cases p <;> rfl
  · cases p <;> simp [hold, meters]

theorem grows_keepRequest (p : Provider) (request : Request) (j : InstrumentRef) :
    p.Grows (p.keepRequest request j) := by
  refine ⟨?_, fun t ht => by rwa [target?_keepRequest], ?_⟩ <;>
  · unfold keepRequest
    cases request.callback with
    | none => rfl
    | some c => cases p <;> rfl

/-- A provider without a target may get one. -/
theorem grows_bind {p : Provider} (h : p.target? = none) (t : ProviderRef) :
    p.Grows (p.bind t) := by
  refine ⟨?_, fun t' ht' => by simp [h] at ht', ?_⟩
  · cases p <;> rfl
  · cases p <;> simp [bind, meters]

end Provider

namespace Meter

theorem Grows.refl (m : Meter) : m.Grows m := ⟨rfl, rfl, fun _ h => h, List.prefix_refl _⟩

theorem Grows.trans {m m' m'' : Meter} (h : m.Grows m') (h' : m'.Grows m'') : m.Grows m'' :=
  ⟨h'.scope.trans h.scope, h'.issuer.trans h.issuer, fun t ht => h'.target t (h.target t ht),
    h.instruments.trans h'.instruments⟩

theorem grows_keepRequest (m : Meter) (request : Request) (j : InstrumentRef) :
    m.Grows (m.keepRequest request j) := by
  refine ⟨scope_keepRequest m request j, issuer_keepRequest m request j,
    fun t ht => by rwa [target?_keepRequest], ?_⟩
  cases hm : m.body <;> simp [keepRequest, hm, noteCreated, hold, instruments]

theorem grows_keep (m : Meter) (events : List Recorded) : m.Grows (m.keep events) := by
  cases hm : m.body with
  | recording r => constructor <;> simp [keep, hm, target?, instruments]
  | _ =>
      rw [show m.keep events = m by simp [keep, hm]]
      exact Grows.refl m

/-- A meter without a target may get one. -/
theorem grows_bind {m : Meter} (h : m.target? = none) (t : MeterRef) : m.Grows (m.bind t) := by
  cases hm : m.body with
  | deferred d =>
      refine ⟨by simp [bind, hm], by simp [bind, hm], fun t' ht' => by simp [h] at ht', ?_⟩
      simp [bind, hm, instruments]
  | _ =>
      rw [show m.bind t = m by simp [bind, hm]]
      exact Grows.refl m

end Meter

namespace Instrument

theorem Grows.refl (i : Instrument) : i.Grows i := ⟨rfl, rfl, fun _ h => h⟩

theorem Grows.trans {i i' i'' : Instrument} (h : i.Grows i') (h' : i'.Grows i'') : i.Grows i'' :=
  ⟨h'.request.trans h.request, h'.issuer.trans h.issuer, fun t ht => h'.target t (h.target t ht)⟩

/-- An instrument without a target may get one. -/
theorem grows_bind {i : Instrument} (h : i.target? = none) (t : InstrumentRef) :
    i.Grows (i.bind t) := by
  cases hi : i.destination with
  | deferred target =>
      exact ⟨by simp [bind, hi], by simp [bind, hi], fun t' ht' => by simp [h] at ht'⟩
  | _ =>
      rw [show i.bind t = i by simp [bind, hi]]
      exact Grows.refl i

end Instrument

namespace Registration

theorem Grows.refl (o : Registration) : o.Grows o := ⟨rfl, fun h => h⟩

theorem Grows.trans {o o' o'' : Registration} (h : o.Grows o') (h' : o'.Grows o'') : o.Grows o'' :=
  ⟨h'.deferred.trans h.deferred, fun hf => h'.gate (h.gate hf)⟩

end Registration

/-! ## Stores -/

/-- The store `s'` may come after `s`: nothing was taken back. -/
structure Later (s s' : Store) : Prop where
  providers : s.providers.Grows Provider.Grows s'.providers
  meters : s.meters.Grows Meter.Grows s'.meters
  instruments : s.instruments.Grows Instrument.Grows s'.instruments
  registrations : s.registrations.Grows Registration.Grows s'.registrations
  calls : s.calls.toList <+: s'.calls.toList

namespace Later

variable {s s' s'' : Store}

theorem refl (s : Store) : Later s s where
  providers := .refl Provider.Grows.refl _
  meters := .refl Meter.Grows.refl _
  instruments := .refl Instrument.Grows.refl _
  registrations := .refl Registration.Grows.refl _
  calls := List.prefix_refl _

theorem trans (h : Later s s') (h' : Later s' s'') : Later s s'' where
  providers := h.providers.trans (fun _ _ _ => Provider.Grows.trans) h'.providers
  meters := h.meters.trans (fun _ _ _ => Meter.Grows.trans) h'.meters
  instruments := h.instruments.trans (fun _ _ _ => Instrument.Grows.trans) h'.instruments
  registrations := h.registrations.trans (fun _ _ _ => Registration.Grows.trans) h'.registrations
  calls := h.calls.trans h'.calls

theorem provider (h : Later s s') {p : ProviderRef} (hp : s.providers.Has p) :
    (s.provider p).Grows (s'.provider p) := (h.providers p hp).2

theorem meter (h : Later s s') {m : MeterRef} (hm : s.meters.Has m) :
    (s.meter m).Grows (s'.meter m) := (h.meters m hm).2

theorem instrument (h : Later s s') {i : InstrumentRef} (hi : s.instruments.Has i) :
    (s.instrument i).Grows (s'.instrument i) := (h.instruments i hi).2

theorem registration (h : Later s s') {r : RegistrationRef} (hr : s.registrations.Has r) :
    (s.registration r).Grows (s'.registration r) := (h.registrations r hr).2

/-- Nothing is taken back where the tables and the calls stay as they are. -/
theorem of_eq (hproviders : s'.providers = s.providers) (hmeters : s'.meters = s.meters)
    (hinstruments : s'.instruments = s.instruments)
    (hregistrations : s'.registrations = s.registrations) (hcalls : s'.calls = s.calls) :
    Later s s' := by
  have hrefl := refl s
  constructor
  case providers =>
    rw [hproviders]
    exact hrefl.providers
  case meters =>
    rw [hmeters]
    exact hrefl.meters
  case instruments =>
    rw [hinstruments]
    exact hrefl.instruments
  case registrations =>
    rw [hregistrations]
    exact hrefl.registrations
  case calls => rw [hcalls]

theorem of_shown (h : Shown s s') : Later s s' :=
  of_eq h.providers h.meters h.instruments h.registrations h.calls

variable (s)

theorem note (c : Call) : Later s (s.note c) :=
  { refl s with calls := by simp [Store.note] }

theorem addProvider (p : Provider) : Later s (s.addProvider p) :=
  { refl s with providers := .add Provider.Grows.refl s.providers p }

theorem addMeter (m : Meter) : Later s (s.addMeter m) :=
  { refl s with meters := .add Meter.Grows.refl s.meters m }

theorem addInstrument (i : Instrument) : Later s (s.addInstrument i) :=
  { refl s with instruments := .add Instrument.Grows.refl s.instruments i }

theorem addRegistration (o : Registration) : Later s (s.addRegistration o) :=
  { refl s with registrations := .add Registration.Grows.refl s.registrations o }

variable {s}

theorem updateProvider {r : ProviderRef} {f : Provider → Provider}
    (h : (s.provider r).Grows (f (s.provider r))) : Later s (s.updateProvider r f) :=
  { refl s with providers := .update Provider.Grows.refl h }

theorem updateMeter {r : MeterRef} {f : Meter → Meter} (h : (s.meter r).Grows (f (s.meter r))) :
    Later s (s.updateMeter r f) :=
  { refl s with meters := .update Meter.Grows.refl h }

theorem updateInstrument {r : InstrumentRef} {f : Instrument → Instrument}
    (h : (s.instrument r).Grows (f (s.instrument r))) : Later s (s.updateInstrument r f) :=
  { refl s with instruments := .update Instrument.Grows.refl h }

theorem updateRegistration {r : RegistrationRef} {f : Registration → Registration}
    (h : (s.registration r).Grows (f (s.registration r))) : Later s (s.updateRegistration r f) :=
  { refl s with registrations := .update Registration.Grows.refl h }

theorem updateIssuer {issuer : Option ProviderRef} {f : Provider → Provider}
    (h : ∀ e, issuer = some e → (s.provider e).Grows (f (s.provider e))) :
    Later s (s.updateIssuer issuer f) := by
  cases issuer with
  | none => exact refl s
  | some e => exact updateProvider (h e rfl)

/-! ### Requests and trials -/

theorem noteReturn {α : Type} (s : Store) (answer : Except Payload α) (returned : α → Call) :
    Later s (s.noteReturn answer returned) := by
  cases answer with
  | ok a => exact note s (returned a)
  | error payload => exact refl s

theorem giveMeter (s : Store) (e : ProviderRef) (scope : Scope) :
    Later s (s.giveMeter e scope) := by
  have hprobed : Later s (s.updateProvider e Provider.probed) :=
    updateProvider (Provider.grows_probed _)
  unfold Store.giveMeter
  simp only
  split
  · exact hprobed
  · exact (hprobed.trans (addMeter _ _)).trans (updateProvider (Provider.grows_hold _ _))

theorem giveInstrument (s : Store) (t : MeterRef) (request : Request) :
    Later s (s.giveInstrument t request) := by
  have hprobed : Later s (s.updateIssuer (s.meter t).issuer Provider.probed) :=
    updateIssuer fun e _ => Provider.grows_probed _
  unfold Store.giveInstrument
  simp only
  split
  · exact hprobed
  · have hkept : ∀ s₁ : Store, Later s₁ (s₁.updateIssuer (s.meter t).issuer fun p =>
        p.keepRequest request s.instruments.next) := fun _ =>
      updateIssuer fun _ _ => Provider.grows_keepRequest _ _ _
    refine (hprobed.trans (hkept _)).trans ?_
    exact (updateMeter (Meter.grows_keepRequest _ _ _)).trans (addInstrument _ _)

theorem askMeter (s : Store) (p e : ProviderRef) (scope : Scope) : Later s (s.askMeter p e scope) :=
  (note s _).trans ((giveMeter _ e scope).trans (noteReturn _ _ _))

theorem askInstrument (s : Store) (m t : MeterRef) (request : Request) :
    Later s (s.askInstrument m t request) :=
  (note s _).trans ((giveInstrument _ t request).trans (noteReturn _ _ _))

theorem log (s : Store) (m : Message) : Later s (s.log m) := of_eq rfl rfl rfl rfl rfl

theorem bindInstrument (s : Store) (i j : InstrumentRef) : Later s (s.bindInstrument i j) := by
  unfold Store.bindInstrument
  split
  · exact log s _
  · rename_i hnone
    exact updateInstrument (Instrument.grows_bind (by simpa using hnone) j)

theorem tryInstrument (s : Store) (t : MeterRef) (i : InstrumentRef) :
    Later s (s.tryInstrument t i) := by
  have hask := (note s (.bindInstrument i t)).trans
    (askInstrument _ t t (s.instrument i).request)
  unfold Store.tryInstrument
  simp only
  split
  · exact hask.trans (bindInstrument _ i _)
  · exact hask.trans (log _ _)

theorem tryInstruments (s : Store) (t : MeterRef) (is : List InstrumentRef) :
    Later s (s.tryInstruments t is) := by
  induction is generalizing s with
  | nil => exact refl s
  | cons i is ih => exact (tryInstrument s t i).trans (ih (s.tryInstrument t i))

end Later

end DeferredMetrics
