import DeferredMetrics.Proofs.Collecting
import DeferredMetrics.Proofs.Registering
import DeferredMetrics.Proofs.Waiting
import DeferredMetrics.Proofs.Wiring

set_option autoImplicit false

/-! # Programs over an SDK

Callers get meters and instruments from a provider over an SDK, or from the deferred providers of
registrations that take it at some point, record and observe, and the SDK collects. `Deals` says
what programs can do, in any order, and what the SDK has to have got by then; `Dealt` holds of every
store that they leave (`dealt_of_deals`). There may be no registration at all: then the provider is
used directly, and by nobody else. -/

namespace DeferredMetrics

open Relation (ReflTransGen)

/-- What has been done with registrations and a provider over an SDK: the deferred providers that
have been bound to it, the meters that callers hold with the provider that they have asked and the
scope, the instruments with the meter and the request, what the SDK has to have got, and the
callbacks that it has to have called. -/
structure Dealings where
  made : ProviderRef → Bool
  meters : MeterRef → ProviderRef → Scope → Prop
  instruments : InstrumentRef → MeterRef → Request → Prop
  uses : List Event
  polls : List CallbackRef

namespace Dealings

/-- Callers begin with what the deferred providers of the registrations in `R` and their meters have
issued. -/
def early (s : Store) (R : RegistrationRef → Prop) : Dealings where
  made _ := false
  meters m q scope := (∃ r, R r ∧ q = (s.registration r).deferred) ∧ m ∈ (s.provider q).meters ∧
    scope = (s.meter m).scope
  instruments i m request := (∃ r, R r ∧ m ∈ (s.provider (s.registration r).deferred).meters) ∧
    i ∈ (s.meter m).instruments ∧ request = (s.instrument i).request
  uses := []
  polls := []

/-- The deferred provider `d` has been bound. -/
def make (a : Dealings) (d : ProviderRef) : Dealings :=
  { a with made := fun q => decide (q = d) || a.made q }

/-- A caller has got the meter `m` from the provider `q`. -/
def addMeter (a : Dealings) (m : MeterRef) (q : ProviderRef) (scope : Scope) : Dealings :=
  { a with meters := fun x o y => (x = m ∧ o = q ∧ y = scope) ∨ a.meters x o y }

/-- A caller has got the instrument `i` from the meter `m`. -/
def addInstrument (a : Dealings) (i : InstrumentRef) (m : MeterRef) (request : Request) :
    Dealings :=
  { a with instruments := fun x o y => (x = i ∧ o = m ∧ y = request) ∨ a.instruments x o y }

/-- The SDK has got `us`, and has called `cs`. -/
def use (a : Dealings) (us : List Event) (cs : List CallbackRef) : Dealings :=
  { a with uses := a.uses ++ us, polls := a.polls ++ cs }

/-- What callers have from the provider `q` leads to the provider `p` by now. -/
def live (a : Dealings) (p q : ProviderRef) : Bool := decide (q = p) || a.made q

/-- The handles that callers hold. -/
def kin (a : Dealings) : Kin where
  meters m := ∃ q scope, a.meters m q scope
  instruments i := ∃ m request, a.instruments i m request

theorem made_make (a : Dealings) (d q : ProviderRef) :
    (a.make d).made q = if q = d then true else a.made q := by
  by_cases hq : q = d <;> simp [make, hq]

theorem make_of_made {a : Dealings} {d : ProviderRef} (h : a.made d = true) : a.make d = a := by
  have hsame : (a.make d).made = a.made := by
    funext q
    rw [made_make]
    by_cases hq : q = d
    · rw [if_pos hq, hq, h]
    · rw [if_neg hq]
  exact congrArg (Dealings.mk · a.meters a.instruments a.uses a.polls) hsame

theorem use_nil (a : Dealings) : a.use [] [] = a := by simp [use]

theorem kin_addMeter (a : Dealings) (m : MeterRef) (q : ProviderRef) (scope : Scope) :
    (a.addMeter m q scope).kin = a.kin.addMeter m :=
  congrArg (Kin.mk · a.kin.instruments) (funext fun x => propext (Kin.exists_row_iff x))

theorem kin_addInstrument (a : Dealings) (i : InstrumentRef) (m : MeterRef) (request : Request) :
    (a.addInstrument i m request).kin = a.kin.addInstrument i :=
  congrArg (Kin.mk a.kin.meters) (funext fun x => propext (Kin.exists_row_iff x))

end Dealings

/-- The registrations in `R` wait, and `p` is a provider over an SDK that accepts every
instrument. -/
structure Store.Bridge (s : Store) (R : RegistrationRef → Prop) (p : ProviderRef)
    (label : String) : Prop where
  reachable : Reachable s
  known : ∀ r, R r → s.registrations.Has r
  waiting : ∀ r, R r → (s.provider (s.registration r).deferred).target? = none
  accepts : s.Accepts p label

/-- What can be asked for meters: the provider over the SDK, and the deferred providers of the
registrations. -/
def Store.Fronts (s : Store) (R : RegistrationRef → Prop) (p q : ProviderRef) : Prop :=
  q = p ∨ ∃ r, R r ∧ q = (s.registration r).deferred

/-- What programs can do, in any order, with the registrations in `R` and a provider `p` over an
SDK, and what the SDK gets: a sample if it is for an instrument that leads to one of the SDK at that
moment, as one for that, and what it collects. -/
inductive Deals (R : RegistrationRef → Prop) (p : ProviderRef) (start : Store) :
    Dealings → Store → Prop where
  | start : Deals R p start (.early start R) start
  /-- A registration is offered the provider. -/
  | setProvider {a : Dealings} {s s' : Store} {r : RegistrationRef} {installed : Bool}
      (h : Deals R p start a s) (hr : R r) (hrun : Op.setProvider r p s = .ok installed s') :
      Deals R p start (a.make (start.registration r).deferred) s'
  /-- A caller looks for the provider in effect, and there is one or the environment names none. -/
  | getProvider {a : Dealings} {s s' : Store} {r : RegistrationRef} {q : ProviderRef} (depth : Nat)
      (h : Deals R p start a s) (hr : R r)
      (hidle : a.made (start.registration r).deferred = true ∨ s.NamesNone r)
      (hrun : Op.getProvider depth r s = .ok (.ok q) s') : Deals R p start a s'
  /-- A deferred provider or the one over the SDK is asked for a meter. -/
  | requestMeter {a : Dealings} {s s' : Store} {q : ProviderRef} {m : MeterRef} (scope : Scope)
      (h : Deals R p start a s) (hq : start.Fronts R p q)
      (hrun : Op.requestMeter q scope s = .ok m s') : Deals R p start (a.addMeter m q scope) s'
  /-- A meter is asked for an instrument. -/
  | requestInstrument {a : Dealings} {s s' : Store} {q : ProviderRef} {scope : Scope}
      {m : MeterRef} {i : InstrumentRef} (request : Request) (h : Deals R p start a s)
      (hm : a.meters m q scope) (hrun : Op.requestInstrument m request s = .ok i s') :
      Deals R p start (a.addInstrument i m request) s'
  | record {a : Dealings} {s : Store} {q : ProviderRef} {scope : Scope} {m : MeterRef}
      {request : Request} {i : InstrumentRef} (sample : Sample) (attributes : AttributeSet)
      (h : Deals R p start a s) (hi : a.instruments i m request) (hm : a.meters m q scope) :
      Deals R p start
        (a.use (if a.live p q then (s.instrumentEnd? i).toList.map fun j =>
          .sdkSample j request.descriptor.name sample attributes.toSdk else []) [])
        ((Op.record i sample attributes).left s)
  | observe {a : Dealings} {s : Store} {m : MeterRef} {request : Request} {i : InstrumentRef}
      (h : Deals R p start a s) (hi : a.instruments i m request) :
      Deals R p start a ((Op.observe i).left s)
  /-- An instrument gets the name by which callbacks add to it. -/
  | name {a : Dealings} {s : Store} (id : String) (x : NamedInstrument) (h : Deals R p start a s) :
      Deals R p start a
        (s.updateDirectory fun d => { d with instruments := d.instruments.insert id x })
  /-- The SDK collects from the callbacks that it keeps. -/
  | collect {a : Dealings} {s : Store} (h : Deals R p start a s) :
      Deals R p start
        (a.use (s.collected (s.provider p).kept) (s.polled (s.provider p).kept))
        ((Op.collect p).left s)

/-! ## What holds of every program -/

/-- What callers hold comes from where they have got it. -/
structure Dealings.Holds (start : Store) (R : RegistrationRef → Prop) (p : ProviderRef)
    (a : Dealings) (s : Store) : Prop where
  meters : ∀ m q scope, a.meters m q scope → start.Fronts R p q ∧ (s.meter m).scope = scope ∧
    ((s.meter m).issuer = some q ∨ a.made q = true ∧ (s.meter m).issuer = some p)
  instruments : ∀ i m request, a.instruments i m request → (∃ q scope, a.meters m q scope) ∧
    s.instruments.Has i ∧ (s.instrument i).request = request ∧
      Leads (fun x => (s.meter x).target?) m (s.instrument i).issuer

/-- The registrations whose deferred provider has been bound have the provider `p`, and the others
have none. -/
structure Dealings.Registers (start : Store) (R : RegistrationRef → Prop) (p : ProviderRef)
    (a : Dealings) (s : Store) : Prop where
  slots : ∀ r, R r → (s.registration r).provider =
    if a.made (start.registration r).deferred then some p else none
  gates : ∀ r, R r → (s.gate r).fired = a.made (start.registration r).deferred
  targets : ∀ r, R r → (s.provider (start.registration r).deferred).target? =
    if a.made (start.registration r).deferred then some p else none

/-- What everything that is done with registrations and an SDK keeps. -/
structure Dealt (start : Store) (R : RegistrationRef → Prop) (p : ProviderRef) (label : String)
    (a : Dealings) (s : Store) : Prop where
  family : ∃ own, Lineage (start.Fronts R p) start a.kin own .nothing s
  holds : a.Holds start R p s
  wired : s.Wired
  remains : Remains start s
  registers : a.Registers start R p s
  accepts : s.Accepts p label
  orders : ∃ xs, start.Orders s p label xs
  uses : s.uses = start.uses ++ a.uses
  polls : s.callbacks = a.polls.foldl (fun t c => t.update c Callback.count) start.callbacks

namespace Store.Bridge

variable {start s : Store} {R : RegistrationRef → Prop} {p : ProviderRef} {label : String}

/-- The deferred provider of a registration that waits. -/
theorem isDeferred (h : start.Bridge R p label) {r : RegistrationRef} (hr : R r) :
    (start.provider (start.registration r).deferred).isDeferred = true :=
  (reachable_sound h.reachable).owners.deferred r (h.known r hr)

theorem isDeferred_later (h : start.Bridge R p label) {r : RegistrationRef} (hr : R r)
    (hlater : Later start s) :
    (s.provider (start.registration r).deferred).isDeferred = true := by
  have hknown : start.providers.Has (start.registration r).deferred :=
    (reachable_sound h.reachable).owners.known r (h.known r hr)
  rw [Provider.isDeferred_of_freshBody (hlater.provider hknown).freshBody]
  exact h.isDeferred hr

theorem ne_deferred (h : start.Bridge R p label) {r : RegistrationRef} (hr : R r) :
    (start.registration r).deferred ≠ p := by
  intro heq
  have hdeferred := h.isDeferred hr
  rw [heq, h.accepts.backend] at hdeferred
  cases hdeferred

theorem agreesOn (h : start.Bridge R p label) {r : RegistrationRef} (hr : R r) :
    start.AgreesOn r := by
  have hend := Store.providerEnd?_eq_some.2 (endsAt_self (h.waiting r hr))
  exact reachable_agreed h.reachable r (h.known r hr) (by rw [hend]; rfl)

/-- What callers hold in the beginning is what the deferred providers have issued. -/
theorem lineage (h : start.Bridge R p label) : Lineage (start.Fronts R p) start
    (Dealings.early start R).kin (Dealings.early start R).kin .nothing start := by
  have hsound := reachable_sound h.reachable
  obtain ⟨hnone, hissued⟩ := Provider.alone_of_isDeferred h.accepts.backend
  refine .initial hsound ?_ ?_ ?_ (fun m => ?_) fun i => ?_
  · rintro q (rfl | ⟨r, hr, rfl⟩)
    · exact h.accepts.known
    · exact hsound.owners.known r (h.known r hr)
  · rintro q (rfl | ⟨r, hr, rfl⟩)
    · exact hnone
    · exact h.waiting r hr
  · rintro q (rfl | ⟨r, hr, rfl⟩) n ask
    · exact h.accepts.willing n ask
    · exact Provider.refusal_of_isDeferred (h.isDeferred hr) n ask
  · constructor
    · rintro ⟨q, scope, ⟨r, hr, rfl⟩, hm, _⟩
      exact ⟨_, .inr ⟨r, hr, rfl⟩, SoundBut.meters_eq_issued (h.isDeferred hr) ▸ hm⟩
    · rintro ⟨q, rfl | ⟨r, hr, rfl⟩, hm⟩
      · rw [hissued] at hm
        exact absurd hm List.not_mem_nil
      · exact ⟨_, _, ⟨r, hr, rfl⟩, (SoundBut.meters_eq_issued (h.isDeferred hr)).symm ▸ hm, rfl⟩
  · constructor
    · rintro ⟨m, request, ⟨r, hr, hm⟩, hi, _⟩
      exact ⟨m, ⟨_, _, ⟨r, hr, rfl⟩, hm, rfl⟩, hi⟩
    · rintro ⟨m, ⟨q, scope, ⟨r, hr, rfl⟩, hm, _⟩, hi⟩
      exact ⟨m, _, ⟨r, hr, hm⟩, hi, rfl⟩

theorem holds (h : start.Bridge R p label) :
    (Dealings.early start R).Holds start R p start := by
  have hsound := reachable_sound h.reachable
  refine ⟨?_, ?_⟩
  · rintro m q scope ⟨⟨r, hr, rfl⟩, hm, rfl⟩
    exact ⟨.inr ⟨r, hr, rfl⟩, rfl,
      .inl (hsound.issued_of_mem_meters (h.isDeferred hr) hm).2⟩
  · rintro i m request ⟨⟨r, hr, hm⟩, hi, rfl⟩
    obtain ⟨hknown, hissuer, _⟩ := hsound.instruments.issued m i hi
    refine ⟨⟨_, _, ⟨r, hr, rfl⟩, hm, rfl⟩, hknown, rfl, ?_⟩
    rw [show (start.instrument i).issuer = m from hissuer]
    exact .refl

theorem registers (h : start.Bridge R p label) :
    (Dealings.early start R).Registers start R p start := by
  have hslot : ∀ r, R r → (start.registration r).provider = none :=
    fun r hr => (h.agreesOn hr).target.symm.trans (h.waiting r hr)
  refine ⟨hslot, fun r hr => ?_, h.waiting⟩
  rw [(h.agreesOn hr).gate, hslot r hr]
  rfl

end Store.Bridge

namespace Dealings.Holds

variable {start s s' : Store} {R : RegistrationRef → Prop} {p : ProviderRef} {a : Dealings}

theorem later (h : a.Holds start R p s) (hlater : Later s s') : a.Holds start R p s' where
  meters m q scope hm := by
    obtain ⟨hq, hscope, hissuer⟩ := h.meters m q scope hm
    have hknown : s.meters.Has m :=
      hissuer.elim Store.has_of_meterIssuer fun hboth => Store.has_of_meterIssuer hboth.2
    have hgrows := hlater.meter hknown
    rw [hgrows.issuer]
    exact ⟨hq, hgrows.scope.trans hscope, hissuer⟩
  instruments i m request hi := by
    obtain ⟨hm, hknown, hrequest, hlead⟩ := h.instruments i m request hi
    exact ⟨hm, Store.instrument_later hlater hknown hrequest hlead⟩

theorem make (h : a.Holds start R p s) (d : ProviderRef) : (a.make d).Holds start R p s where
  meters m q scope hm := by
    obtain ⟨hq, hscope, hissuer⟩ := h.meters m q scope hm
    exact ⟨hq, hscope, hissuer.imp_right fun hboth => ⟨by simp [Dealings.make, hboth.1], hboth.2⟩⟩
  instruments := h.instruments

theorem addMeter (h : a.Holds start R p s) {m : MeterRef} {q : ProviderRef}
    (hq : start.Fronts R p q)
    (hissuer : (s.meter m).issuer = some q ∨ a.made q = true ∧ (s.meter m).issuer = some p) :
    (a.addMeter m q (s.meter m).scope).Holds start R p s where
  meters x o scope hx := by
    rcases hx with ⟨rfl, rfl, rfl⟩ | hx
    · exact ⟨hq, rfl, hissuer⟩
    · exact h.meters x o scope hx
  instruments i m request hi := by
    obtain ⟨⟨o, scope, hm⟩, hrest⟩ := h.instruments i m request hi
    exact ⟨⟨o, scope, .inr hm⟩, hrest⟩

theorem addInstrument (h : a.Holds start R p s) {i : InstrumentRef} {m : MeterRef}
    (hm : ∃ q scope, a.meters m q scope) (hknown : s.instruments.Has i)
    (hlead : Leads (fun x => (s.meter x).target?) m (s.instrument i).issuer) :
    (a.addInstrument i m (s.instrument i).request).Holds start R p s where
  meters := h.meters
  instruments k o request hk := by
    rcases hk with ⟨rfl, rfl, rfl⟩ | hk
    · exact ⟨hm, hknown, rfl, hlead⟩
    · exact h.instruments k o request hk

theorem use (h : a.Holds start R p s) (us : List Event) (cs : List CallbackRef) :
    (a.use us cs).Holds start R p s := ⟨h.meters, h.instruments⟩

end Dealings.Holds

namespace Dealings.Registers

variable {start s s' : Store} {R : RegistrationRef → Prop} {p : ProviderRef} {label : String}
  {a a' : Dealings}

theorem steady (h : a.Registers start R p s) (hsteady : Steady s s') (hmade : a'.made = a.made) :
    a'.Registers start R p s' where
  slots r hr := by
    rw [hsteady.registration, hmade]
    exact h.slots r hr
  gates r hr := by
    rw [Store.gate, hsteady.registration, hmade]
    exact h.gates r hr
  targets r hr := by
    rw [hsteady.targets, hmade]
    exact h.targets r hr

/-- A registration takes the provider. -/
theorem takes (hstart : start.Bridge R p label) (h : a.Registers start R p s)
    (hlater : Later start s) {r : RegistrationRef} (hr : R r) (htakes : Takes r p s s') :
    (a.make (start.registration r).deferred).Registers start R p s' := by
  have hsame : (s.registration r).deferred = (start.registration r).deferred :=
    (hlater.registration (hstart.known r hr)).deferred
  have hdistinct : ∀ x, R x → ((start.registration x).deferred = (start.registration r).deferred ↔
      x = r) := fun x hx =>
    ⟨(reachable_sound hstart.reachable).owners.distinct x r (hstart.known x hx)
      (hstart.known r hr), fun heq => heq ▸ rfl⟩
  have hmade : ∀ x, R x → (a.make (start.registration r).deferred).made
      (start.registration x).deferred =
        if x = r then true else a.made (start.registration x).deferred :=
    fun x hx => by rw [a.made_make, if_congr (hdistinct x hx) rfl rfl]
  refine ⟨fun x hx => ?_, fun x hx => ?_, fun x hx => ?_⟩
  · rw [htakes.registration, hmade x hx]
    split
    · rfl
    · exact h.slots x hx
  · rw [Store.gate, htakes.registration, hmade x hx]
    split
    · rfl
    · exact h.gates x hx
  · rw [htakes.targets, hmade x hx, hsame, if_congr (hdistinct x hx) rfl rfl]
    split
    · rfl
    · exact h.targets x hx

end Dealings.Registers

/-- What meters have kept does not matter. -/
theorem Store.Wired.alike {s s' : Store} (h : s.Wired) (ha : Alike s s') : s'.Wired :=
  h.congr ha.instruments fun m hm => (ha.meter m).freshDestination.trans hm

theorem Remains.of_alike {s s' : Store} (h : Alike s s') : Remains s s' := by
  refine ⟨fun m hm => ⟨(h.meters.has m).2 hm, ?_⟩, ?_⟩
  · have hmeter := h.meter m
    refine ⟨hmeter.scope, hmeter.issuer, fun hsdk => ?_⟩
    have hfresh := hmeter.freshDestination
    rw [Meter.freshDestination, Meter.freshDestination] at hfresh
    rw [show (s.meter m).body = .sdk from hsdk] at hfresh
    show (s'.meter m).body = .sdk
    cases hbody : (s'.meter m).body <;> rw [hbody] at hfresh <;> first | rfl | cases hfresh
  · rw [h.instruments]
    exact .refl Instrument.Remains.refl _

namespace Dealt

variable {start s s' : Store} {R : RegistrationRef → Prop} {p : ProviderRef} {label : String}
  {a a' : Dealings}

theorem initial (hstart : start.Bridge R p label) :
    Dealt start R p label (.early start R) start := by
  refine ⟨⟨_, hstart.lineage⟩, hstart.holds, wired_of_reachable hstart.reachable, .refl start,
    hstart.registers, hstart.accepts,
    ⟨[], .none (Store.not_new (fun _ h => h) fun _ h => h) rfl rfl⟩, (List.append_nil _).symm, rfl⟩

theorem orders_trans (h : Dealt start R p label a s) (hremains : Remains s s')
    (hnext : ∃ ys, s.Orders s' p label ys) : ∃ xs, start.Orders s' p label xs := by
  obtain ⟨_, hfamily⟩ := h.family
  obtain ⟨xs, hxs⟩ := h.orders
  obtain ⟨ys, hys⟩ := hnext
  exact ⟨_, hxs.trans hys h.remains hremains hfamily.books.issuers⟩

/-- Objects are asked for, and registrations and targets stay as they are. -/
theorem of_delivers (h : Dealt start R p label a s) (hsteady : Steady s s')
    (hdelivers : Delivers p label s s') (hwired : s'.Wired)
    (hfamily : ∃ own, Lineage (start.Fronts R p) start a'.kin own .nothing s')
    (hholds : a'.Holds start R p s') (hmade : a'.made = a.made) (huses : a'.uses = a.uses)
    (hpolls : a'.polls = a.polls) : Dealt start R p label a' s' := by
  refine ⟨hfamily, hholds, hwired, h.remains.trans hdelivers.remains,
    h.registers.steady hsteady hmade, hdelivers.accepts h.accepts,
    h.orders_trans hdelivers.remains hdelivers.orders, ?_, ?_⟩
  · rw [hdelivers.uses, huses]
    exact h.uses
  · rw [hdelivers.callbacks, hpolls]
    exact h.polls

/-- Samples are given and callbacks called. -/
theorem of_alike (h : Dealt start R p label a s) {us : List Event} {cs : List CallbackRef}
    (halike : Alike s s') (hsteady : Steady s s') (huses : s'.uses = s.uses ++ us)
    (hrequests : s'.shownRequests = s.shownRequests)
    (hcallbacks : s'.callbacks = cs.foldl (fun t c => t.update c Callback.count) s.callbacks) :
    Dealt start R p label (a.use us cs) s' := by
  obtain ⟨own, hfamily⟩ := h.family
  have hremains := Remains.of_alike halike
  have hnone : s.Orders s' p label [] :=
    .none (Store.not_new (fun m => (halike.meters.has m).1) fun _ h => halike.instruments ▸ h)
      hrequests (congrArg Provider.kept (halike.provider p))
  refine ⟨⟨own, hfamily.alike halike⟩, (h.holds.later halike.later).use us cs,
    h.wired.alike halike, h.remains.trans hremains, h.registers.steady hsteady rfl, ?_,
    h.orders_trans hremains ⟨[], hnone⟩, ?_, ?_⟩
  · rw [Store.Accepts, halike.provider]
    exact h.accepts
  · rw [huses, h.uses, List.append_assoc]
    rfl
  · rw [hcallbacks, h.polls, ← List.foldl_append]
    rfl

theorem of_passes (h : Dealt start R p label a s) {us : List Event} {cs : List CallbackRef}
    (hpath : ReflTransGen Gives s s') (hpasses : Passes us cs s s') :
    Dealt start R p label (a.use us cs) s' :=
  h.of_alike (.of_path hpath) (.of_gives hpath) hpasses.uses hpasses.requests hpasses.callbacks

/-- Nothing that matters has changed. -/
theorem of_same (h : Dealt start R p label a s) (halike : Alike s s')
    (hregistrations : s'.registrations = s.registrations)
    (henvironment : s'.environment = s.environment) (huses : s'.uses = s.uses)
    (hrequests : s'.shownRequests = s.shownRequests) (hcallbacks : s'.callbacks = s.callbacks) :
    Dealt start R p label a s' := by
  have hnext : Dealt start R p label (a.use [] []) s' :=
    h.of_alike halike (.of_alike halike hregistrations henvironment)
      (by rw [huses, List.append_nil]) hrequests hcallbacks
  rwa [a.use_nil] at hnext

/-! ### Where handles lead -/

/-- The deferred provider of a registration is the one that it had. -/
theorem deferred_eq (hstart : start.Bridge R p label) (h : Dealt start R p label a s)
    {r : RegistrationRef} (hr : R r) :
    (s.registration r).deferred = (start.registration r).deferred := by
  obtain ⟨_, hfamily⟩ := h.family
  exact (hfamily.later.registration (hstart.known r hr)).deferred

/-- The provider that answers for what a caller asks. -/
theorem providerEnd? (h : Dealt start R p label a s) {q : ProviderRef}
    (hq : start.Fronts R p q) : s.providerEnd? q = some (if a.live p q then p else q) := by
  by_cases hqp : q = p
  · rw [if_pos (by simp [Dealings.live, hqp]), hqp]
    exact h.accepts.providerEnd?
  · obtain ⟨r, hr, rfl⟩ := hq.resolve_left hqp
    have htarget := h.registers.targets r hr
    cases hmade : a.made (start.registration r).deferred with
    | true =>
        rw [hmade] at htarget
        rw [if_pos (by simp [Dealings.live, hmade]), Store.providerEnd?_of_target htarget]
        exact h.accepts.providerEnd?
    | false =>
        rw [hmade] at htarget
        rw [if_neg (by simp [Dealings.live, hqp, hmade])]
        exact Store.providerEnd?_eq_some.2 (endsAt_self htarget)

/-- A meter leads to one of the scope that it was asked for by. -/
theorem meter_end (h : Dealt start R p label a s) {own : Kin}
    (hfamily : Lineage (start.Fronts R p) start a.kin own
      .nothing s) {m : MeterRef} {q : ProviderRef} {scope : Scope} (hm : a.meters m q scope) :
    ∃ t, s.meterEnd? m = some t ∧ own.meters t ∧ (s.meter t).scope = scope ∧
      (s.meter t).issuer = some (if a.live p q then p else q) := by
  have hown := hfamily.meters.lines.own_of_held m ⟨q, scope, hm⟩
  obtain ⟨hq, hscope, hissuer⟩ := h.holds.meters m q scope hm
  obtain ⟨t, q', e, ht, htown, hsame, _, hq', hend, hte⟩ := hfamily.meter_end hown
  refine ⟨t, ht, htown, hsame.trans hscope, hte.trans (hend.symm.trans ?_)⟩
  -- a deferred provider that has been bound lets the SDK issue the meter in its place
  rcases hissuer with hissuer | ⟨hmade, hissuer⟩
  · obtain rfl : q = q' := Option.some.inj (hissuer.symm.trans hq')
    exact h.providerEnd? hq
  · obtain rfl : p = q' := Option.some.inj (hissuer.symm.trans hq')
    rw [if_pos (by simp [Dealings.live, hmade])]
    exact h.accepts.providerEnd?

/-- An instrument leads to one by the same request, of the meter that its meter leads to. -/
theorem instrument_end (h : Dealt start R p label a s) {own : Kin}
    (hfamily : Lineage (start.Fronts R p) start a.kin own
      .nothing s) {i : InstrumentRef} {m : MeterRef} {request : Request}
    (hi : a.instruments i m request) :
    ∃ j, s.instrumentEnd? i = some j ∧ own.instruments j ∧
      (s.instrument j).request = (s.instrument i).request ∧ (s.instrument i).request = request ∧
      s.meterEnd? m = some (s.instrument j).issuer := by
  have hown := hfamily.instruments.lines.own_of_held i ⟨m, request, hi⟩
  obtain ⟨_, _, hrequest, hlead⟩ := h.holds.instruments i m request hi
  obtain ⟨j, hj, hjown, hsame, hissuer⟩ := hfamily.instrument_end_of_leads hown hlead
  exact ⟨j, hj, hjown, hsame, hrequest, hissuer⟩

/-- What is issued by the provider over the SDK belongs to the SDK. -/
theorem body_of_issuer (h : Dealt start R p label a s) {t : MeterRef}
    (hissuer : (s.meter t).issuer = some p) : (s.meter t).body = .sdk := by
  obtain ⟨_, hfamily⟩ := h.family
  have hfits : (s.provider p).Fits (s.meter t).body := (hfamily.sound.tree.fits t p hissuer).2
  obtain ⟨q, hq, _⟩ := h.accepts
  exact hfits.body_of_sdk hq

/-- Samples for an instrument go to the SDK, if the instrument leads there by now, and nowhere
otherwise. -/
theorem destination (hstart : start.Bridge R p label) (h : Dealt start R p label a s)
    {i : InstrumentRef} {m : MeterRef} {request : Request} (hi : a.instruments i m request)
    {q : ProviderRef} {scope : Scope} (hm : a.meters m q scope) :
    ∃ j, s.instrumentEnd? i = some j ∧ (s.instrument j).request = request ∧
      (s.instrument j).destination = if a.live p q then .sdk else .deferred none := by
  obtain ⟨own, hfamily⟩ := h.family
  obtain ⟨t, ht, _, _, hissuer⟩ := h.meter_end hfamily hm
  obtain ⟨j, hj, hjown, hsame, hrequest, hjissuer⟩ := h.instrument_end hfamily hi
  obtain rfl : (s.instrument j).issuer = t := Option.some.inj (hjissuer.symm.trans ht)
  refine ⟨j, hj, hsame.trans hrequest, ?_⟩
  -- the end of the chain is not bound, so it leads where its meter has begun it
  rw [hfamily.instruments.fresh j hjown (Store.instrumentEnd?_eq_some.1 hj).2,
    Meter.freshDestination]
  split at hissuer
  · rename_i hlive
    rw [h.body_of_issuer hissuer, if_pos hlive]
  · rename_i hlive
    obtain ⟨r, hr, rfl⟩ := (h.holds.meters m q scope hm).1.resolve_left
      fun hq => hlive (by simp [Dealings.live, hq])
    have hdeferred : (s.meter (s.instrument j).issuer).body.isDeferred = true :=
      (hfamily.isDeferred_meter hissuer).trans (hstart.isDeferred_later hr hfamily.later)
    rw [if_neg hlive]
    cases hbody : (s.meter (s.instrument j).issuer).body <;> rw [hbody] at hdeferred <;>
      first | rfl | cases hdeferred

/-! ### One call -/

/-- A registration takes the provider. -/
theorem takes (hstart : start.Bridge R p label) (h : Dealt start R p label a s)
    {r : RegistrationRef} (hr : R r) (htakes : Takes r p s s') (hdelivers : Delivers p label s s')
    (hwired : s'.Wired)
    (hnext : ∃ own, Lineage (start.Fronts R p) start a.kin own .nothing s') :
    Dealt start R p label (a.make (start.registration r).deferred) s' := by
  obtain ⟨_, hfamily⟩ := h.family
  exact ⟨hnext, (h.holds.make _).later htakes.later, hwired, h.remains.trans hdelivers.remains,
    h.registers.takes hstart hfamily.later hr htakes, hdelivers.accepts h.accepts,
    h.orders_trans hdelivers.remains hdelivers.orders,
    hdelivers.uses.trans h.uses, hdelivers.callbacks.trans h.polls⟩

/-- A registration takes the provider, unless it has one. -/
theorem setProvider (hstart : start.Bridge R p label) (h : Dealt start R p label a s)
    {r : RegistrationRef} (hr : R r) :
    ∃ s', Op.setProvider r p s = .ok (!a.made (start.registration r).deferred) s' ∧
      Dealt start R p label (a.make (start.registration r).deferred) s' := by
  obtain ⟨own, hfamily⟩ := h.family
  have hd := h.deferred_eq hstart hr
  have hgate := h.registers.gates r hr
  cases hmade : a.made (start.registration r).deferred with
  | true =>
      -- the gate has fired: the offer is refused, and the account stays what it was
      refine ⟨_, Op.setProvider_of_fired p (hgate.trans hmade), ?_⟩
      rw [Dealings.make_of_made hmade]
      exact h.of_same (.log _) rfl rfl (by simp [Store.uses, Store.log, Store.see, Event.isUse])
        (by simp [Store.shownRequests, Store.log, Store.see, Event.isRequest]) rfl
  | false =>
      have hknown := (hfamily.later.registrations r (hstart.known r hr)).1
      have hne := hstart.ne_deferred hr
      obtain ⟨own', s', hrun, htakes, hnext⟩ := hfamily.setProvider_run hknown
        (.inr ⟨r, hr, hd⟩) (.inl rfl) (hgate.trans hmade)
        (by rw [hd, h.registers.targets r hr, hmade]; rfl)
        (by rw [h.accepts.providerEnd?, hd]; exact fun heq => hne (Option.some.inj heq).symm)
      have hdelivers := Op.delivers_setProvider h.accepts (by rw [hd]; exact hne) hrun
      have hwired := wired_of_deeds h.wired
        (Op.deeds_install hfamily.sound hknown h.accepts.known false)
      rw [show (Op.install r p false).left s = s' from Op.left_of_ok hrun] at hwired
      exact ⟨s', hrun, h.takes hstart hr htakes hdelivers hwired ⟨own', hnext⟩⟩

/-- The provider in effect is the one over the SDK, if the registration has taken it. -/
theorem getProvider (hstart : start.Bridge R p label) (h : Dealt start R p label a s)
    {r : RegistrationRef} (hr : R r) (depth : Nat)
    (hidle : a.made (start.registration r).deferred = true ∨ s.NamesNone r) :
    ∃ s', Op.getProvider depth r s = .ok (.ok (if a.made (start.registration r).deferred then p
      else (start.registration r).deferred)) s' ∧ Dealt start R p label a s' := by
  obtain ⟨own, hfamily⟩ := h.family
  have hslot := h.registers.slots r hr
  cases hmade : a.made (start.registration r).deferred with
  | true =>
      rw [hmade] at hslot
      exact ⟨s, Op.getProvider_of_some depth hslot, h⟩
  | false =>
      rw [hmade] at hslot
      have hrun := Op.getProvider_of_namesNone depth hslot (hidle.resolve_left (by simp [hmade]))
      rw [h.deferred_eq hstart hr] at hrun
      have halike : Alike s { s with trace := s.lookedUp r } :=
        .of_eq (fun _ h => h.of_eq rfl rfl rfl rfl rfl rfl) (.of_eq rfl rfl rfl rfl rfl) rfl rfl rfl
      have hseen : ({ s with trace := s.lookedUp r } : Store).uses = s.uses ∧
          ({ s with trace := s.lookedUp r } : Store).shownRequests = s.shownRequests := by
        unfold Store.lookedUp
        cases (s.registration r).discovery.source <;>
          simp [Store.shownRequests, Store.uses, Event.isRequest, Event.isUse]
      exact ⟨_, hrun, h.of_same halike rfl rfl hseen.1 hseen.2 rfl⟩

theorem requestMeter (hstart : start.Bridge R p label) (h : Dealt start R p label a s)
    {q : ProviderRef} (hq : start.Fronts R p q) (scope : Scope) :
    ∃ m s', Op.requestMeter q scope s = .ok m s' ∧
      Dealt start R p label (a.addMeter m q scope) s' := by
  obtain ⟨own, hfamily⟩ := h.family
  obtain ⟨e, s', he, hshown, hrun, hsteady, hnext⟩ := hfamily.requestMeter_run hq scope
  have heq : e = if a.live p q then p else q := Option.some.inj (he.symm.trans (h.providerEnd? hq))
  have hend : e = p ∨ (s.provider e).isDeferred = true := by
    rw [heq]
    split
    · exact .inl rfl
    · rcases hq with rfl | ⟨r, hr, rfl⟩
      · exact .inl rfl
      · exact .inr (hstart.isDeferred_later hr hfamily.later)
  have hpath := (Op.delivers_requestMeter h.accepts he hend scope).path
  rw [Op.left_of_ok hrun] at hpath
  have hcalm := Calm.askMeter scope (hfamily.providers.known q hq) he
  have hwired := wired_of_deeds h.wired hcalm.deeds
  have hrow := hfamily.meter_requested hq he hshown
  have hissuer : (s'.meter s.meters.next).issuer = some q ∨
      a.made q = true ∧ (s'.meter s.meters.next).issuer = some p := by
    rw [hrow, heq]
    by_cases hqp : q = p
    · exact .inl (by simp [hqp])
    · cases hmade : a.made q <;> simp [Dealings.live, hqp, hmade]
  have hholds := (h.holds.later hsteady.later).addMeter hq hissuer
  rw [hrow] at hholds
  refine ⟨s.meters.next, s', hrun, h.of_delivers hsteady (.of_path hpath)
    (hwired.of_eq hshown.instruments hshown.meters) ⟨own.addMeter s.meters.next, ?_⟩ hholds rfl rfl
    rfl⟩
  rw [Dealings.kin_addMeter]
  exact hnext

theorem requestInstrument (hstart : start.Bridge R p label) (h : Dealt start R p label a s)
    {m : MeterRef} {q : ProviderRef} {scope : Scope} (hm : a.meters m q scope)
    (request : Request) :
    ∃ i s', Op.requestInstrument m request s = .ok i s' ∧
      Dealt start R p label (a.addInstrument i m request) s' := by
  obtain ⟨own, hfamily⟩ := h.family
  have hown := hfamily.meters.lines.own_of_held m ⟨q, scope, hm⟩
  obtain ⟨t, s', ht, hshown, hrun, hsteady, hnext⟩ := hfamily.requestInstrument_run hown request
  obtain ⟨t', ht', _, _, hissuer⟩ := h.meter_end hfamily hm
  obtain rfl : t = t' := Option.some.inj (ht.symm.trans ht')
  -- the chain of the meter ends at the SDK, or at a deferred meter that keeps the request to itself
  have hpath : ReflTransGen (Delivers p label) s s' := by
    rw [← Op.left_of_ok hrun]
    refine (Op.delivers_requestInstrument ht request fun c => ?_).path
    split at hissuer
    · exact Op.delivers_issueInstrument_of_sdk (s := s.note c) h.accepts hissuer
        (h.body_of_issuer hissuer) request
    · rename_i hlive
      obtain ⟨r, hr, rfl⟩ := (h.holds.meters m q scope hm).1.resolve_left
        fun hq => hlive (by simp [Dealings.live, hq])
      have hdeferred := hstart.isDeferred_later hr hfamily.later
      exact Op.delivers_issueInstrument_of_deferred (s := s.note c) (hstart.ne_deferred hr)
        hissuer ((hfamily.isDeferred_meter hissuer).trans hdeferred) request
  have hwired := wired_of_deeds h.wired (Calm.askInstrument request ht).deeds
  obtain ⟨hknown, hrow, hlead⟩ := hfamily.instrument_requested hown ht hshown hsteady.later
  have hholds := (h.holds.later hsteady.later).addInstrument (m := m) ⟨q, scope, hm⟩ hknown
    (by rw [hrow]; exact hlead)
  rw [hrow] at hholds
  refine ⟨s.instruments.next, s', hrun, h.of_delivers hsteady (.of_path hpath)
    (hwired.of_eq hshown.instruments hshown.meters) ⟨own.addInstrument s.instruments.next, ?_⟩
    hholds rfl rfl rfl⟩
  rw [Dealings.kin_addInstrument, ← Pending.nothing_meet t]
  exact hnext

theorem ended (h : Dealt start R p label a s) : s.Ended := fun i => by
  obtain ⟨e, he, _⟩ := Store.exists_end h.wired i
  exact ⟨e, he⟩

/-- What the SDK gets of a sample for an instrument. -/
theorem given (hstart : start.Bridge R p label) (h : Dealt start R p label a s)
    {i : InstrumentRef} {m : MeterRef} {request : Request} (hi : a.instruments i m request)
    {q : ProviderRef} {scope : Scope} (hm : a.meters m q scope) (sample : Sample)
    (attributes : AttributeSet) : s.given i sample attributes =
      if a.live p q then (s.instrumentEnd? i).toList.map fun j =>
        .sdkSample j request.descriptor.name sample attributes.toSdk else [] := by
  obtain ⟨j, hj, rfl, hdestination⟩ := h.destination hstart hi hm
  rw [Store.given, hj]
  cases hlive : a.live p q <;> simp [hlive, hdestination]

theorem record (hstart : start.Bridge R p label) (h : Dealt start R p label a s)
    {i : InstrumentRef} {m : MeterRef} {request : Request} (hi : a.instruments i m request)
    {q : ProviderRef} {scope : Scope} (hm : a.meters m q scope) (sample : Sample)
    (attributes : AttributeSet) :
    Dealt start R p label (a.use (if a.live p q then (s.instrumentEnd? i).toList.map fun j =>
      .sdkSample j request.descriptor.name sample attributes.toSdk else []) [])
      ((Op.record i sample attributes).left s) := by
  obtain ⟨s', hrun, hpasses⟩ := Op.passes_record h.ended i sample attributes
  have hpath := (Op.gives_record (s := s) i sample attributes).path
  rw [h.given hstart hi hm] at hpasses
  rw [Op.left_of_ok hrun] at hpath ⊢
  exact h.of_passes hpath hpasses

theorem observe_run (hstart : start.Bridge R p label) (h : Dealt start R p label a s)
    {i : InstrumentRef} {m : MeterRef} {request : Request} (hi : a.instruments i m request) :
    Op.observe i s = .ok [] (s.note (.observe i)) := by
  obtain ⟨⟨q, scope, hm⟩, _⟩ := h.holds.instruments i m request hi
  obtain ⟨j, hj, _, hdestination⟩ := h.destination hstart hi hm
  refine Op.observe_of_elsewhere hj (.inl ?_)
  rw [hdestination]
  split <;> nofun

theorem collect (h : Dealt start R p label a s) :
    Dealt start R p label
      (a.use (s.collected (s.provider p).kept) (s.polled (s.provider p).kept))
      ((Op.collect p).left s) := by
  obtain ⟨q, hq, _⟩ := h.accepts
  obtain ⟨s', hpasses, hleft, _⟩ := Op.passes_readFrom h.ended q.callbacks
  have hpath := (Op.gives_collect (s := s) p).path
  have hsame : (Op.collect p).left s = s' := by
    rw [← hleft, Op.left, Op.left, Op.collect_of_sdk hq]
  rw [hsame] at hpath ⊢
  rw [hq]
  exact h.of_passes hpath hpasses

end Dealt

/-- Whatever a program does, in whatever order. -/
theorem dealt_of_deals {start s : Store} {R : RegistrationRef → Prop} {p : ProviderRef}
    {label : String} {a : Dealings} (hstart : start.Bridge R p label) (h : Deals R p start a s) :
    Dealt start R p label a s := by
  induction h with
  | start => exact .initial hstart
  | setProvider _ hr hrun ih =>
      obtain ⟨s', hrun', hnext⟩ := ih.setProvider hstart hr
      cases hrun.symm.trans hrun'
      exact hnext
  | getProvider depth _ hr hidle hrun ih =>
      obtain ⟨s', hrun', hnext⟩ := ih.getProvider hstart hr depth hidle
      cases hrun.symm.trans hrun'
      exact hnext
  | requestMeter scope _ hq hrun ih =>
      obtain ⟨m, s', hrun', hnext⟩ := ih.requestMeter hstart hq scope
      cases hrun.symm.trans hrun'
      exact hnext
  | requestInstrument request _ hm hrun ih =>
      obtain ⟨i, s', hrun', hnext⟩ := ih.requestInstrument hstart hm request
      cases hrun.symm.trans hrun'
      exact hnext
  | record sample attributes _ hi hm ih => exact ih.record hstart hi hm sample attributes
  | @observe a s m request i _ hi ih =>
      rw [Op.left_of_ok (ih.observe_run hstart hi)]
      exact ih.of_same (.note (by simp)) rfl rfl rfl rfl rfl
  | @name a s id x _ ih =>
      have halike : Alike s (s.updateDirectory fun d =>
          { d with instruments := d.instruments.insert id x }) :=
        .of_eq (fun _ h => h.updateDirectory h.names.providers h.names.registrations)
          (.of_eq rfl rfl rfl rfl rfl) rfl rfl rfl
      exact ih.of_same halike rfl rfl rfl rfl rfl
  | collect _ ih => exact ih.collect

/-- To get a meter from a registration is to look for its provider and to ask that. -/
theorem Deals.getMeter {start s : Store} {R : RegistrationRef → Prop} {p : ProviderRef}
    {label : String} {a : Dealings} (hstart : start.Bridge R p label) (h : Deals R p start a s)
    {r : RegistrationRef} (hr : R r)
    (hidle : a.made (start.registration r).deferred = true ∨ s.NamesNone r) (depth : Nat)
    (scope : Scope) : ∃ m s', Op.getMeter depth r scope s = .ok (.ok m) s' ∧
      Deals R p start (a.addMeter m (if a.made (start.registration r).deferred then p
        else (start.registration r).deferred) scope) s' := by
  obtain ⟨s₁, hfound, hnext⟩ := (dealt_of_deals hstart h).getProvider hstart hr depth hidle
  have hfront : start.Fronts R p (if a.made (start.registration r).deferred then p
      else (start.registration r).deferred) := by
    split
    · exact .inl rfl
    · exact .inr ⟨r, hr, rfl⟩
  obtain ⟨m, s', hasked, _⟩ := hnext.requestMeter hstart hfront scope
  refine ⟨m, s', ?_, (h.getProvider depth hr hidle hfound).requestMeter scope hfront hasked⟩
  rw [Op.getMeter, Op.bind_of_ok hfound]
  simp only [Op.bind_of_ok hasked]
  rfl

end DeferredMetrics
