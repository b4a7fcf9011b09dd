import DeferredMetrics.Proofs.Aside
import DeferredMetrics.Proofs.MeterTrials

set_option autoImplicit false

/-! # Binding is trying

The operations that bind deferred objects do what the trials say: `bindProvider_run` and
`install_run` give the result of binding a provider, and of letting it take effect in a
registration, as explicit stores. Neither halts, whatever the backend refuses, unless the chain of
the target has no end. -/

namespace DeferredMetrics

namespace Shown

variable {s s' : Store}

theorem serves {e : ProviderRef} {t : MeterRef} (h : Shown s s') (hserves : s.Serves e t) :
    s'.Serves e t := by
  constructor
  case known =>
    rw [h.meters]
    exact hserves.known
  case issuer =>
    rw [h.meter]
    exact hserves.issuer
  case target =>
    rw [h.meter]
    exact hserves.target
  case fits =>
    rw [h.meter, h.provider]
    exact hserves.fits

end Shown

namespace Op

/-- A refusal is the only halt of an isolated operation that an answer can make, and it is caught.
-/
theorem isolated_of_ok {child : ChildKind} {name : String} {op : Op Unit} {s s' : Store}
    (h : op s = .ok () s') : isolated child name op s = .ok true s' := by
  simp [isolated, h]

theorem isolated_of_panic {child : ChildKind} {name : String} {op : Op Unit} {payload : Payload}
    {s s' : Store} (h : op s = .error (.panic payload) s') :
    isolated child name op s = .ok false (s'.log (.childFailed child name payload.reason)) := by
  simp [isolated, h]

/-- Other halts are not caught. -/
theorem isolated_of_error {child : ChildKind} {name : String} {op : Op Unit} {halt : Halt}
    {s s' : Store} (h : op s = .error halt s') (hhalt : ∀ payload, halt ≠ .panic payload) :
    isolated child name op s = .error halt s' := by
  cases halt with
  | panic payload => exact absurd rfl (hhalt payload)
  | _ => simp [isolated, h]

theorem countIsolated_cons {α : Type} {child : ChildKind} {name : α → Op String}
    {op : α → Op Unit} {x : α} {xs : List α} {s s₁ s₂ : Store} {n : String} {done : Bool}
    {rest : Nat} (hname : name x s = .ok n s) (hhead : isolated child n (op x) s = .ok done s₁)
    (htail : countIsolated child name op xs s₁ = .ok rest s₂) :
    countIsolated child name op (x :: xs) s = .ok (if done then rest + 1 else rest) s₂ := by
  rw [countIsolated, bind_of_ok hname, bind_of_ok hhead, bind_of_ok htail]
  rfl

theorem instrumentName_run (i : InstrumentRef) (s : Store) :
    instrumentName i s = .ok (s.instrument i).request.descriptor.name s := rfl

theorem meterName_run (m : MeterRef) (s : Store) :
    meterName m s = .ok (s.meter m).scope.name s := rfl

/-- Binding an instrument is trying it. -/
theorem isolated_bindInstrument {e : ProviderRef} {t : MeterRef} {s : Store} (i : InstrumentRef)
    (hserves : s.Serves e t) :
    ∃ s', ShownUnless (s.provider e).Quiet (s.tryInstrument t i) s' ∧
      isolated .instrument (s.instrument i).request.descriptor.name (bindInstrument t i) s =
        .ok (s.instrumentTrial t i).answer.isOk s' := by
  let request := (s.instrument i).request
  let s₁ := s.note (.bindInstrument i t)
  obtain ⟨s₂, h₂, hrun⟩ := requestInstrument_run (s := s₁) (m := t) request hserves.meterEnd?
    hserves.meterFits
  replace h₂ := h₂.mono hserves.quietMeter
  have hask : requestInstrument t (s₁.instrument i).request s₁ =
      answering (s.instrumentAnswer t request) s₂ := hrun
  unfold Store.tryInstrument
  simp only [Store.instrumentTrial]
  cases hanswer : s.instrumentAnswer t (s.instrument i).request with
  | ok j =>
      rw [show s.instrumentAnswer t request = .ok j from hanswer] at hask
      refine ⟨_, h₂.bindInstrument i j, isolated_of_ok ?_⟩
      rw [bindInstrument, bind_of_ok (note_run _ s), bind_of_ok (get_run s₁), bind_of_ok hask]
      rfl
  | error payload =>
      rw [show s.instrumentAnswer t request = .error payload from hanswer] at hask
      refine ⟨_, h₂.log _, isolated_of_panic ?_⟩
      rw [bindInstrument, bind_of_ok (note_run _ s), bind_of_ok (get_run s₁), bind_of_error hask]

theorem countIsolated_bindInstrument {quiet : Prop} {e : ProviderRef} {t : MeterRef} {s s₁ : Store}
    (is : List InstrumentRef) (hserves : s.Serves e t) (hquiet : quiet → (s.provider e).Quiet)
    (h : ShownUnless quiet s s₁) :
    ∃ s', ShownUnless quiet (s.tryInstruments t is) s' ∧
      countIsolated .instrument instrumentName (bindInstrument t) is s₁ =
        .ok ((s.instrumentTrials t is).countP fun x => x.answer.isOk) s' := by
  induction is generalizing s s₁ with
  | nil => exact ⟨s₁, h, rfl⟩
  | cons i is ih =>
      obtain ⟨s₂, h₂, hhead⟩ := isolated_bindInstrument i (h.shown.serves hserves)
      rw [h.shown.provider] at h₂
      obtain ⟨s₃, h₃, htail⟩ := ih (hserves.tryInstrument i)
        (fun hq => hserves.quiet_tryInstrument i (hquiet hq))
        ((h.tryInstrument t i).trans (h₂.mono hquiet))
      refine ⟨s₃, h₃, ?_⟩
      rw [countIsolated_cons (instrumentName_run i s₁) hhead htail, h.shown.instrumentTrial,
        Store.instrumentTrials, List.countP_cons]
      cases (s.instrumentTrial t i).answer.isOk <;> rfl

/-- Binding a meter that has no target is trying its instruments and then giving it the target. -/
theorem bindMeter_run {e : ProviderRef} {m t : MeterRef} {s : Store} (hserves : s.Serves e t)
    (hm : (s.meter m).target? = none) :
    ∃ s', ShownUnless (s.provider e).Quiet (s.bindMeter m t) s' ∧ bindMeter m t s = .ok () s' := by
  let s₁ := s.note (.bindMeter m t)
  have hserves₁ : s₁.Serves e t := ⟨hserves.known, hserves.issuer, hserves.target, hserves.fits⟩
  obtain ⟨s₂, h₂, hrun⟩ :=
    countIsolated_bindInstrument (s.meter m).instruments hserves₁ (fun hq => hq)
    (.refl s₁)
  refine ⟨_, (h₂.updateMeter m fun m => m.bind t).log _, ?_⟩
  rw [bindMeter, bind_of_ok (note_run _ s), bind_of_ok (get_run s₁)]
  rw [if_neg (by rw [show (s₁.meter m).target? = none from hm]; simp)]
  rw [bind_of_ok (show countIsolated .instrument instrumentName (bindInstrument t)
    (s₁.meter m).instruments s₁ = _ from hrun)]
  rfl

/-- Binding a meter to a new one of the provider `p` is trying it. -/
theorem isolated_rebindMeter {p e : ProviderRef} {m : MeterRef} {s : Store}
    (he : s.providerEnd? p = some e) (hknown : s.meters.Has m)
    (hm : (s.meter m).target? = none) :
    ∃ s', ShownUnless (s.provider e).Quiet (s.tryMeter p e m) s' ∧
      isolated .meter (s.meter m).scope.name (rebindMeter p m) s =
        .ok (s.meterTrial p e m).answer.isOk s' := by
  obtain ⟨s₁, h₁, hrun⟩ := requestMeter_run (s.meter m).scope he
  cases hanswer : s.meterAnswer e (s.meter m).scope with
  | error payload =>
      rw [hanswer] at hrun
      rw [Store.tryMeter_of_error hanswer, Store.meterTrial_of_error hanswer]
      refine ⟨_, h₁.log _, isolated_of_panic ?_⟩
      rw [rebindMeter, bind_of_ok (get_run s), bind_of_error hrun]
  | ok t =>
      rw [hanswer] at hrun
      have hserves := h₁.shown.serves (Store.serves_askMeter (p := p) hanswer)
      -- the request for a new meter gives the old one no target
      have htarget : (s₁.meter m).target? = none := by
        rw [h₁.shown.meter, Store.meter_askMeter hknown]
        exact hm
      obtain ⟨s₂, h₂, hrun₂⟩ := bindMeter_run hserves htarget
      rw [h₁.shown.provider] at h₂
      rw [Store.tryMeter_of_ok hanswer, Store.meterTrial_of_ok hanswer]
      refine ⟨s₂, (h₁.bindMeter m t).trans (h₂.mono Store.quiet_askMeter), isolated_of_ok ?_⟩
      rw [rebindMeter, bind_of_ok (get_run s), bind_of_ok hrun]
      exact hrun₂

end Op

namespace Store

/-- Chains of providers do not change unless a target does. -/
theorem providerEnd?_congr {s s' : Store} (hsize : s'.providers.size = s.providers.size)
    (htarget : ∀ q, (s'.provider q).target? = (s.provider q).target?) (p : ProviderRef) :
    s'.providerEnd? p = s.providerEnd? p := by
  rw [providerEnd?, providerEnd?, hsize, funext htarget]

theorem providerEnd?_tryMeter {s : Store} {p e : ProviderRef} {m : MeterRef}
    (hknown : s.meters.Has m) (q : ProviderRef) :
    (s.tryMeter p e m).providerEnd? q = s.providerEnd? q := by
  apply providerEnd?_congr
  · rw [providers_tryMeter hknown, Table.size_update]
  · exact providerTarget_tryMeter hknown

end Store

namespace Op

theorem countIsolated_rebindMeter {quiet : Prop} {p e : ProviderRef} {s s₁ : Store}
    {ms : List MeterRef} (he : s.providerEnd? p = some e) (hwait : s.AllWait ms)
    (hquiet : quiet → (s.provider e).Quiet) (h : ShownUnless quiet s s₁) :
    ∃ s', ShownUnless quiet (s.tryMeters p e ms) s' ∧
      countIsolated .meter meterName (rebindMeter p) ms s₁ =
        .ok ((s.meterTrials p e ms).countP fun x => x.answer.isOk) s' := by
  induction ms generalizing s s₁ with
  | nil => exact ⟨s₁, h, rfl⟩
  | cons m ms ih =>
      have hm := hwait.waits m List.mem_cons_self
      obtain ⟨s₂, h₂, hhead⟩ := isolated_rebindMeter (m := m) (h.shown.providerEnd? p ▸ he)
        (h.shown.meters ▸ hm.known) (h.shown.meter m ▸ hm.target?)
      rw [h.shown.provider] at h₂
      obtain ⟨s₃, h₃, htail⟩ := ih ((Store.providerEnd?_tryMeter hm.known p).trans he) hwait.tail
        (fun hq => Store.quiet_tryMeter hm.known (hquiet hq))
        ((h.tryMeter p e m).trans (h₂.mono hquiet))
      refine ⟨s₃, h₃, ?_⟩
      rw [countIsolated_cons (meterName_run m s₁) hhead htail, h.shown.meterTrial,
        Store.meterTrials, List.countP_cons]
      cases (s.meterTrial p e m).answer.isOk <;> rfl

end Op

namespace Store

/-- The provider waits for a target, and so does everything below it. -/
structure ProviderWaits (s : Store) (d : ProviderRef) : Prop where
  known : s.providers.Has d
  waiting : ∃ ms, s.provider d = .deferred ⟨none, ms⟩
  meters : s.AllWait (s.provider d).meters

theorem ProviderWaits.target? {s : Store} {d : ProviderRef} (h : s.ProviderWaits d) :
    (s.provider d).target? = none := by
  obtain ⟨ms, hms⟩ := h.waiting
  rw [hms]
  rfl

theorem AllWait.congr {s s' : Store} {ms : List MeterRef} (h : s.AllWait ms)
    (hmeters : s'.meters = s.meters) (hinstruments : s'.instruments = s.instruments) :
    s'.AllWait ms := by
  refine ⟨h.nodup, ?_⟩
  intro m hm
  have hwaits := h.waits m hm
  have hmeter : s'.meter m = s.meter m := congrArg (Table.get · m) hmeters
  have hinstrument : ∀ i, s'.instrument i = s.instrument i := fun i =>
    congrArg (Table.get · i) hinstruments
  constructor
  case known =>
    rw [hmeters]
    exact hwaits.known
  case waiting =>
    rw [hmeter]
    exact hwaits.waiting
  case nodup =>
    rw [hmeter]
    exact hwaits.nodup
  case instruments =>
    intro i hi
    rw [hmeter] at hi
    rw [hinstrument]
    exact ⟨(hwaits.instruments i hi).1.congr hinstruments, (hwaits.instruments i hi).2⟩

/-- A chain that does not end at `d` is not changed by binding `d`. -/
theorem providerEnd?_bind {s : Store} {d p e : ProviderRef} (hd : (s.provider d).target? = none)
    (he : s.providerEnd? p = some e) (hne : e ≠ d) (target : ProviderRef) :
    (s.updateProvider d fun q => q.bind target).providerEnd? p = some e := by
  have hsame : ∀ q, q ≠ d → (s.updateProvider d fun q => q.bind target).provider q = s.provider q :=
    fun q hq => by rw [provider_updateProvider, if_neg (fun h => hq h.1)]
  obtain ⟨hlead, hend⟩ := providerEnd?_eq_some.1 he
  refine providerEnd?_eq_some.2 ⟨?_, ?_⟩
  · apply Leads.mono ?_ hlead
    intro x y hxy
    -- the chain goes on from `x`, and not from `d`
    have hx : x ≠ d := by
      rintro rfl
      rw [hd] at hxy
      cases hxy
    rw [hsame x hx]
    exact hxy
  · show ((s.updateProvider d fun q => q.bind target).provider e).target? = none
    rw [hsame e hne]
    exact hend

end Store

namespace Op

/-- Binding a provider that waits: it gets its target, and then its meters are tried in turn. -/
theorem bindProvider_run {d p e : ProviderRef} {s : Store} (hwait : s.ProviderWaits d)
    (he : s.providerEnd? p = some e) (hne : e ≠ d) :
    ∃ s', ShownUnless (s.provider e).Quiet (s.bindProvider d p e) s' ∧
      bindProvider d p s = .ok () s' := by
  let s₁ := s.note (.bindProvider d p)
  let s₂ := s₁.updateProvider d fun q => q.bind p
  have he₂ : s₂.providerEnd? p = some e := Store.providerEnd?_bind (s := s₁) hwait.target? he hne p
  have hwait₂ : s₂.AllWait (s.provider d).meters := hwait.meters.congr rfl rfl
  have hsame : s₂.provider e = s.provider e := Table.get_update_of_ne _ _ (Ne.symm hne)
  obtain ⟨s₃, h₃, hrun⟩ := countIsolated_rebindMeter he₂ hwait₂ (fun hq => hq) (.refl s₂)
  rw [hsame] at h₃
  refine ⟨_, h₃.log _, ?_⟩
  rw [bindProvider, bind_of_ok (note_run _ s), bind_of_ok (get_run s₁)]
  rw [if_neg (by rw [show (s₁.provider d).target? = none from hwait.target?]; simp)]
  rw [bind_of_ok (modify_run _ s₁)]
  rw [bind_of_ok (show countIsolated .meter meterName (rebindMeter p) (s₁.provider d).meters s₂ = _
    from hrun)]
  rfl

/-- A provider that is offered in time takes effect: it is written down, the deferred provider of
the registration is bound to it, and the gate fires. -/
theorem install_run {r : RegistrationRef} {p e : ProviderRef} {s : Store} (discovered : Bool)
    (hgate : (s.gate r).fired = false) (hwait : s.ProviderWaits (s.registration r).deferred)
    (he : s.providerEnd? p = some e) (hne : e ≠ (s.registration r).deferred) :
    ∃ s', ShownUnless (s.provider e).Quiet
        ((s.writeProvider r p).bindProvider (s.registration r).deferred p e) s' ∧
      install r p discovered s =
        .ok true ((s'.log (.installed discovered)).withGate r .passed) := by
  have hdeferred :
      ((s.writeProvider r p).registration r).deferred = (s.registration r).deferred := by
    rw [Store.writeProvider, Store.registration_updateRegistration]
    split <;> rfl
  have hwait' : (s.writeProvider r p).ProviderWaits (s.registration r).deferred :=
    ⟨hwait.known, hwait.waiting, hwait.meters.congr rfl rfl⟩
  obtain ⟨s', h', hrun⟩ := bindProvider_run hwait' (p := p) (e := e) he hne
  refine ⟨s', h', ?_⟩
  have heffect : takeEffect r p discovered s = .ok () (s'.log (.installed discovered)) := by
    rw [takeEffect, bind_of_ok (modify_run _ s), bind_of_ok (get_run _), hdeferred, bind_of_ok hrun]
    rfl
  rw [install, bind_of_ok (Gate.callOnce_of_ok hgate heffect)]
  rfl

/-- A provider that a caller offers too late is refused with a warning, and nothing else happens. -/
theorem setProvider_of_fired {r : RegistrationRef} {s : Store} (p : ProviderRef)
    (hgate : (s.gate r).fired = true) : setProvider r p s = .ok false (s.log .refused) := by
  rw [setProvider, install, bind_of_ok (Gate.callOnce_of_fired hgate)]
  rfl

/-- A provider that discovery offers too late is dropped, and nothing happens. -/
theorem install_of_fired {r : RegistrationRef} {s : Store} (p : ProviderRef)
    (hgate : (s.gate r).fired = true) : install r p true s = .ok false s := by
  rw [install, bind_of_ok (Gate.callOnce_of_fired hgate)]
  rfl

end Op

end DeferredMetrics
