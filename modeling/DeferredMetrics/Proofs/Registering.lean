import DeferredMetrics.Proofs.Install
import DeferredMetrics.Proofs.Using

set_option autoImplicit false

/-! # Registering within a family

When a registration of a family takes a provider of the family, its deferred provider is told the
target, and then its meters are tried one by one, and their instruments. All of it keeps the
lineage, and leaves nothing pending (`Lineage.setProvider_run`). -/

namespace DeferredMetrics

/-- The registration `r` has taken the provider `p` and bound its deferred provider to it; other
registrations and the targets of other providers stay as they are. -/
structure Takes (r : RegistrationRef) (p : ProviderRef) (s s' : Store) : Prop where
  later : Later s s'
  environment : s'.environment = s.environment
  registration : ∀ r', s'.registration r' =
    if r' = r then { s.registration r with provider := some p, gate := .passed }
    else s.registration r'
  targets : ∀ q, (s'.provider q).target? =
    if q = (s.registration r).deferred then some p else (s.provider q).target?

theorem Steady.tryMeter {s : Store} {p e : ProviderRef} {m : MeterRef} (hwaits : s.MeterWaits m) :
    Steady s (s.tryMeter p e m) :=
  .of_aside (.tryMeter hwaits) (.tryMeter s p e m)
    (Store.providerTarget_tryMeter hwaits.known)

namespace Lineage

variable {Q : ProviderRef → Prop} {start s : Store} {held own : Kin} {p e : ProviderRef}

/-- The instruments of the open meter are bound one by one. -/
theorem tryInstruments {left : List MeterRef} {m t : MeterRef} {is : List InstrumentRef}
    (h : Lineage Q start held own ⟨left, some (m, t), is⟩ s)
    (htarget : (s.meter t).target? = none) :
    ∃ own', Lineage Q start held own' ⟨left, some (m, t), []⟩ (s.tryInstruments t is) := by
  induction is generalizing s own with
  | nil => exact ⟨own, h⟩
  | cons i is ih =>
      refine ih (h.tryInstrument htarget) ?_
      rw [Store.meter, Store.meters_tryInstrument, Table.get_update]
      split
      · exact (Meter.target?_take _ _ _).trans htarget
      · exact htarget

/-- The next meter is bound: it is opened, its instruments are bound, and it is closed. -/
theorem tryMeter {left : List MeterRef} {m : MeterRef} {d : ProviderRef}
    (h : Lineage Q start held own ⟨m :: left, none, []⟩ s) (hd : (s.meter m).issuer = some d)
    (hp : (s.provider d).target? = some p) (he : s.providerEnd? p = some e) :
    ∃ own', Lineage Q start held own' ⟨left, none, []⟩ (s.tryMeter p e m) := by
  have hm := (h.progress.left m List.mem_cons_self).1
  obtain ⟨_, q, hq, hissuer, _⟩ := h.meters.known m hm
  obtain rfl : q = d := Option.some.inj (hissuer.symm.trans hd)
  have hanswer := h.providers.meterAnswer (h.providers.end (h.providers.closed q p hq hp) he)
    (s.meter m).scope
  have hopen := h.openMeter hd hp he
  have hnew : ((s.askMeter p e (s.meter m).scope).meter s.meters.next).target? = none := by
    rw [Store.meter_askMeter_ite hanswer, if_pos rfl]
    exact Store.target?_freshBody _ _ _
  obtain ⟨own', htried⟩ := hopen.tryInstruments hnew
  refine ⟨own', ?_⟩
  rw [Store.tryMeter_of_ok hanswer, Store.bindMeter, Store.meter_askMeter (h.has_meter hm)]
  exact htried.closeMeter.alike (.log _)

/-- All meters of a provider that has been told its target are bound. -/
theorem tryMeters {d : ProviderRef} {ms : List MeterRef}
    (h : Lineage Q start held own ⟨ms, none, []⟩ s) (hwait : s.AllWait ms)
    (hd : ∀ m ∈ ms, (s.meter m).issuer = some d) (hp : (s.provider d).target? = some p)
    (he : s.providerEnd? p = some e) :
    ∃ own', Lineage Q start held own' .nothing (s.tryMeters p e ms) := by
  induction ms generalizing s own with
  | nil => exact ⟨own, h⟩
  | cons m ms ih =>
      have hm := hwait.waits m List.mem_cons_self
      obtain ⟨own', hnext⟩ := h.tryMeter (hd m List.mem_cons_self) hp he
      have hsteady : Steady s (s.tryMeter p e m) := .tryMeter hm
      refine ih hnext hwait.tail (fun k hk => ?_) ((hsteady.targets d).trans hp)
        ((Store.providerEnd?_tryMeter hm.known p).trans he)
      have hknown := (hwait.waits k (List.mem_cons_of_mem _ hk)).known
      exact (hsteady.later.meter hknown).issuer.trans (hd k (List.mem_cons_of_mem _ hk))

/-- A provider of the family takes effect in a registration whose deferred provider is of the family
and not at the end of its chain. -/
theorem setProvider_run (h : Lineage Q start held own .nothing s) {r : RegistrationRef}
    (hr : s.registrations.Has r) (hd : Q (s.registration r).deferred) (hp : Q p)
    (hgate : (s.gate r).fired = false)
    (htarget : (s.provider (s.registration r).deferred).target? = none)
    (hacyclic : s.providerEnd? p ≠ some (s.registration r).deferred) :
    ∃ own' s', Op.setProvider r p s = .ok true s' ∧ Takes r p s s' ∧
      Lineage Q start held own' .nothing s' := by
  have hsound : Sound s := h.sound
  have hdeferred : (s.provider (s.registration r).deferred).isDeferred = true :=
    hsound.owners.deferred r hr
  have hdknown := hsound.owners.known r hr
  have hpknown := h.providers.known p hp
  have hwait := hsound.providerWaits hdknown hdeferred htarget
  obtain ⟨e, he⟩ := h.providers.ends p hp
  have hne : e ≠ (s.registration r).deferred := fun heq => hacyclic (heq ▸ he)
  obtain ⟨s', hs', hrun⟩ := Op.install_run false hgate hwait he hne
  -- the provider is written down, and the deferred provider is told
  have htold : Lineage Q start held own ⟨(s.provider (s.registration r).deferred).issued, none, []⟩
      (s.assign r p) :=
    ((h.alike (.writeProvider r hpknown)).alike (.note (by simp))).bindTarget hd hp hdeferred
      htarget hacyclic
  rw [← SoundBut.meters_eq_issued hdeferred] at htold
  obtain ⟨hready, hend⟩ := Store.ready_assign hwait he hne
  have hbound : ((s.assign r p).provider (s.registration r).deferred).target? = some p := by
    rw [Store.target?_assign hdknown hdeferred, if_pos rfl]
  obtain ⟨own', htried⟩ := htold.tryMeters hready
    (fun m hm => (hsound.issued_of_mem_meters hdeferred hm).2) hbound hend
  obtain ⟨message, _, heq⟩ := Store.bindProvider_eq_tryMeters s r p e
  have hfinal : Lineage Q start held own' .nothing s' := by
    refine Lineage.alike ?_ (.of_shown hs'.shown)
    rw [heq]
    exact htried.alike (.log _)
  -- the meters and instruments that are tried change neither registrations nor targets
  have hlater : Later s s' :=
    (Store.sound_bindProvider hsound hr hpknown hwait he hne).2.trans (.of_shown hs'.shown)
  have hrow : s'.registrations = (s.writeProvider r p).registrations :=
    hs'.shown.registrations.trans (Store.registrations_bindProvider s r p e)
  refine ⟨own', s'.finish r false, hrun, ⟨hlater.trans (Store.later_finish _ r false), ?_, ?_, ?_⟩,
    (hfinal.alike (.log _)).alike (.pass _ r)⟩
  · exact hs'.shown.environment.trans (Aside.bindProvider (s.writeProvider r p) _ p e).environment
  · exact fun r' => Store.registration_finish r' hr hrow false
  · intro q
    rw [← Store.target?_bindProvider hsound hr hwait he hne]
    exact congrArg Provider.target? (hs'.shown.provider q)

end Lineage

end DeferredMetrics
