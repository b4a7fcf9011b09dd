import DeferredMetrics.Proofs.Giving

set_option autoImplicit false

/-! # What a request that is answered leaves

The rows of the tables after a request for a meter (`Store.provider_askMeter_of_ok`,
`Store.meter_askMeter_ite`) or for an instrument that was answered. A new instrument may have been
made for a deferred one, which is bound to it then; `Store.Issued` covers both. -/

namespace DeferredMetrics

namespace Provider

theorem isDeferred_serve (p : Provider) (x : Exchange) : (p.serve x).isDeferred = p.isDeferred :=
  isDeferred_of_freshBody (freshBody_serve p x)

/-- A deferred provider refuses nothing itself. -/
theorem refusal_of_isDeferred {p : Provider} (h : p.isDeferred = true) (n : Nat) (ask : Ask) :
    p.refusal n ask = none := by
  cases p with
  | deferred q => cases ask <;> rfl
  | _ => cases h

theorem issued_probed (p : Provider) : p.probed.issued = p.issued := (like_probed p).issued

/-- A deferred provider keeps the meter that it has answered with. -/
theorem issued_serve_meter (p : Provider) (scope : Scope) (t : MeterRef) :
    (p.serve (.meter scope (.ok t))).issued =
      if p.isDeferred then p.issued ++ [t] else p.issued := by
  show (p.probed.hold t).issued = _
  cases p with
  | recording q => cases hq : q.probe <;> simp [probed, hq, countCall, hold, issued, isDeferred]
  | _ => rfl

theorem issued_serve_instrument (p : Provider) (request : Request)
    (answer : Except Payload InstrumentRef) :
    (p.serve (.instrument request answer)).issued = p.issued := by
  cases answer with
  | error payload => exact issued_probed p
  | ok j => exact ((like_keepRequest p.probed request j).issued).trans (issued_probed p)

end Provider

namespace Store

variable {s : Store} {q e : ProviderRef} {scope : Scope} {t : MeterRef}

theorem provider_askMeter_ite (q : ProviderRef) (scope : Scope) (hknown : s.providers.Has e)
    (x : ProviderRef) :
    (s.askMeter q e scope).provider x =
      if x = e then (s.provider x).serve (.meter scope (s.meterAnswer e scope))
      else s.provider x := by
  rw [provider, providers_askMeter, Table.get_update_ite _ _ hknown]
  rfl

theorem provider_askMeter_of_ok (hknown : s.providers.Has e) (h : s.meterAnswer e scope = .ok t)
    (x : ProviderRef) : (s.askMeter q e scope).provider x =
      if x = e then (s.provider x).serve (.meter scope (.ok t)) else s.provider x := by
  rw [provider_askMeter_ite q scope hknown, h]

theorem meter_askMeter_ite (h : s.meterAnswer e scope = .ok t) (m : MeterRef) :
    (s.askMeter q e scope).meter m =
      if m = t then ⟨scope, some e, (s.provider e).freshBody⟩ else s.meter m := by
  rw [meter, meters_askMeter_of_ok s q h, Table.get_add, meterAnswer_eq_next s h]
  rfl

theorem has_askMeter (h : s.meterAnswer e scope = .ok t) (m : MeterRef) :
    (s.askMeter q e scope).meters.Has m ↔ s.meters.Has m ∨ m = t := by
  rw [meters_askMeter_of_ok s q h, Table.has_add, meterAnswer_eq_next s h]

theorem has_of_meterIssuer {m : MeterRef} (h : (s.meter m).issuer = some e) : s.meters.Has m := by
  apply Table.has_of_ne_default
  intro heq
  rw [meter, heq] at h
  cases h

theorem target?_freshBody (scope : Scope) (issuer : Option ProviderRef) (p : Provider) :
    Meter.target? ⟨scope, issuer, p.freshBody⟩ = none := by
  cases p <;> rfl

theorem instruments_freshBody (scope : Scope) (issuer : Option ProviderRef) (p : Provider) :
    Meter.instruments ⟨scope, issuer, p.freshBody⟩ = [] := by
  cases p <;> rfl

end Store

/-! ## Instruments -/

namespace Store

/-- The meter `t` was asked for an instrument and has given one, and the instrument in `i?`, if
there is one, was bound to that. -/
structure Issued (s s' : Store) (t : MeterRef) (request : Request) (i? : Option InstrumentRef) :
    Prop where
  provider : ∃ e answer, s'.providers =
    s.providers.update e fun p => p.serve (.instrument request answer)
  meters : s'.meters = s.meters.update t fun m => m.keepRequest request s.instruments.next
  instruments : s'.instruments =
    i?.elim (s.instruments.add ⟨request, t, (s.meter t).freshDestination⟩) fun i =>
      (s.instruments.add ⟨request, t, (s.meter t).freshDestination⟩).update i fun x =>
        x.bind s.instruments.next
  known : ∀ i, i? = some i → s.instruments.Has i

variable {s s' : Store} {t : MeterRef} {request : Request}

theorem issued_askInstrument {e : ProviderRef} {j : InstrumentRef} (m : MeterRef)
    (hissuer : (s.meter t).issuer = some e) (hanswer : s.instrumentAnswer t request = .ok j) :
    s.Issued (s.askInstrument m t request) t request none where
  provider := ⟨e, _, providers_askInstrument s m request hissuer⟩
  meters := by
    rw [meters_askInstrument, hanswer, instrumentAnswer_eq_next s hanswer]
    rfl
  instruments := instruments_askInstrument_of_ok s m hanswer
  known i hi := by cases hi

theorem issued_tryInstrument {e : ProviderRef} {i j : InstrumentRef} (hwaits : s.InstrumentWaits i)
    (hissuer : (s.meter t).issuer = some e)
    (hanswer : s.instrumentAnswer t (s.instrument i).request = .ok j) :
    s.Issued (s.tryInstrument t i) t (s.instrument i).request (some i) where
  provider := ⟨e, _, providers_tryInstrument s t i hissuer⟩
  meters := by
    rw [meters_tryInstrument, instrumentTrial, hanswer, instrumentAnswer_eq_next s hanswer]
    rfl
  instruments := by
    rw [instruments_tryInstrument s t hwaits, hanswer, instrumentAnswer_eq_next s hanswer]
    rfl
  known k hk := Option.some.inj hk ▸ hwaits.known

namespace Issued

variable {i? : Option InstrumentRef}

section Providers

variable (h : s.Issued s' t request i?) (q : ProviderRef)
include h

theorem has_provider : s'.providers.Has q ↔ s.providers.Has q := by
  obtain ⟨e, answer, hproviders⟩ := h.provider
  rw [hproviders, Table.has_update]

theorem size_providers : s'.providers.size = s.providers.size := by
  obtain ⟨e, answer, hproviders⟩ := h.provider
  rw [hproviders, Table.size_update]

/-- A provider has answered a request for an instrument, or nothing has happened to it. -/
theorem provider_eq : s'.provider q = s.provider q ∨
    ∃ answer, s'.provider q = (s.provider q).serve (.instrument request answer) := by
  obtain ⟨e, answer, hproviders⟩ := h.provider
  rw [Store.provider, hproviders, Table.get_update]
  split
  · exact .inr ⟨answer, rfl⟩
  · exact .inl rfl

theorem target?_provider : (s'.provider q).target? = (s.provider q).target? := by
  rcases h.provider_eq q with hq | ⟨answer, hq⟩ <;> rw [hq]
  exact Provider.target?_serve _ _

theorem isDeferred_provider : (s'.provider q).isDeferred = (s.provider q).isDeferred := by
  rcases h.provider_eq q with hq | ⟨answer, hq⟩ <;> rw [hq]
  exact Provider.isDeferred_serve _ _

theorem issued_provider : (s'.provider q).issued = (s.provider q).issued := by
  rcases h.provider_eq q with hq | ⟨answer, hq⟩ <;> rw [hq]
  exact Provider.issued_serve_instrument _ _ _

theorem willing (hwilling : ∀ n ask, (s.provider q).refusal n ask = none) (n : Nat) (ask : Ask) :
    (s'.provider q).refusal n ask = none := by
  rcases h.provider_eq q with hq | ⟨answer, hq⟩ <;> rw [hq]
  · exact hwilling n ask
  · rw [Provider.refusal_serve]
    exact hwilling _ ask

end Providers

section Meters

variable (h : s.Issued s' t request i?) (m : MeterRef)
include h

theorem has_meter : s'.meters.Has m ↔ s.meters.Has m := by rw [h.meters, Table.has_update]

theorem meter_eq : s'.meter m = s.meter m ∨
    m = t ∧ s'.meter m = (s.meter m).keepRequest request s.instruments.next := by
  rw [Store.meter, h.meters, Table.get_update]
  split
  · rename_i hm
    exact .inr ⟨hm.1, rfl⟩
  · exact .inl rfl

theorem like_meter : (s.meter m).Like (s'.meter m) := by
  rcases h.meter_eq m with hm | ⟨_, hm⟩ <;> rw [hm]
  · exact .refl _
  · exact Meter.like_keepRequest _ _ _

theorem freshDestination_meter :
    (s'.meter m).freshDestination = (s.meter m).freshDestination :=
  Meter.freshDestination_of_like (h.like_meter m)

/-- A meter has the instruments that it had, and the meter that was asked has the new one too if it
is deferred. -/
theorem mem_instruments (hknown : s.meters.Has t) (i : InstrumentRef) :
    i ∈ (s'.meter m).instruments ↔ i ∈ (s.meter m).instruments ∨
      m = t ∧ (s.meter t).body.isDeferred = true ∧ i = s.instruments.next := by
  rw [Store.meter, h.meters, Table.get_update_ite _ _ hknown]
  by_cases hm : m = t
  · subst hm
    rw [if_pos rfl]
    show i ∈ ((s.meter m).keepRequest request s.instruments.next).instruments ↔
      i ∈ (s.meter m).instruments ∨ _
    cases hbody : (s.meter m).body <;>
      simp [Meter.keepRequest, hbody, Meter.noteCreated, Meter.hold, Meter.instruments,
        MeterBody.isDeferred]
  · rw [if_neg hm]
    simp [hm, Store.meter]

end Meters

section Instruments

variable (h : s.Issued s' t request i?)
include h

theorem has_instrument (i : InstrumentRef) :
    s'.instruments.Has i ↔ s.instruments.Has i ∨ i = s.instruments.next := by
  rw [h.instruments]
  cases i? with
  | none => exact Table.has_add _ _ _
  | some k => exact (Table.has_update _ _ _ _).trans (Table.has_add _ _ _)

theorem instrument_next :
    s'.instrument s.instruments.next = ⟨request, t, (s.meter t).freshDestination⟩ := by
  rw [Store.instrument, h.instruments]
  cases hi : i? with
  | none => exact Table.get_add_next _ _
  | some i =>
      have hne : i ≠ s.instruments.next := Table.ne_next_of_has (h.known i hi)
      exact (Table.get_update_of_ne _ _ hne).trans (Table.get_add_next _ _)

theorem instrument_of_ne {k : InstrumentRef} (hk : s.instruments.Has k) (hne : i? ≠ some k) :
    s'.instrument k = s.instrument k := by
  rw [Store.instrument, h.instruments]
  cases hi : i? with
  | none => exact Table.get_add_of_has _ _ hk
  | some i =>
      have hik : i ≠ k := fun heq => hne (hi.trans (congrArg some heq))
      exact (Table.get_update_of_ne _ _ hik).trans (Table.get_add_of_has _ _ hk)

theorem instrument_bound {i : InstrumentRef} (hi : i? = some i) :
    s'.instrument i = (s.instrument i).bind s.instruments.next := by
  have hknown := h.known i hi
  rw [Store.instrument, h.instruments, hi]
  refine (Table.get_update_self _ _ ((Table.has_add _ _ _).2 (.inl hknown))).trans ?_
  rw [Table.get_add_of_has _ _ hknown]
  rfl

/-- An instrument that was there keeps what it was asked for by and who issued it. -/
theorem instrument_kept {k : InstrumentRef} (hk : s.instruments.Has k) :
    (s'.instrument k).request = (s.instrument k).request ∧
      (s'.instrument k).issuer = (s.instrument k).issuer := by
  by_cases hi : i? = some k
  · rw [h.instrument_bound hi]
    unfold Instrument.bind
    split <;> exact ⟨rfl, rfl⟩
  · rw [h.instrument_of_ne hk hi]
    exact ⟨rfl, rfl⟩

end Instruments

end Issued

end Store

theorem Provider.isDeferred_of_target {p : Provider} {t : ProviderRef} (h : p.target? = some t) :
    p.isDeferred = true := by
  cases p <;> simp_all [target?, isDeferred]

/-- A provider that is not deferred has no target, and has issued nothing that waits for one. -/
theorem Provider.alone_of_isDeferred {p : Provider} (h : p.isDeferred = false) :
    p.target? = none ∧ p.issued = [] := by
  cases p <;> simp_all [target?, issued, isDeferred]

theorem Meter.isDeferred_of_target {m : Meter} {t : MeterRef} (h : m.target? = some t) :
    m.body.isDeferred = true := by
  unfold target? at h
  cases hm : m.body <;> simp_all [MeterBody.isDeferred]

theorem Provider.isDeferred_of_issued {p : Provider} {m : MeterRef} (h : m ∈ p.issued) :
    p.isDeferred = true := by
  cases p <;> simp_all [issued, isDeferred]

theorem Meter.isDeferred_of_instruments {m : Meter} {i : InstrumentRef} (h : i ∈ m.instruments) :
    m.body.isDeferred = true := by
  unfold instruments at h
  cases hm : m.body <;> simp_all [MeterBody.isDeferred]

/-- A deferred instrument that waits leads where a deferred meter lets new ones lead. -/
theorem Instrument.destination_eq_fresh {i : Instrument} {m : Meter}
    (hi : i.destination.isDeferred = true) (hnone : i.target? = none)
    (hm : m.body.isDeferred = true) : i.destination = m.freshDestination := by
  unfold target? at hnone
  unfold Meter.freshDestination
  cases hdestination : i.destination <;> cases hbody : m.body <;>
    simp_all [Destination.isDeferred, MeterBody.isDeferred]

theorem Instrument.target?_bind {i : Instrument} (h : i.destination.isDeferred = true)
    (j : InstrumentRef) : (i.bind j).target? = some j := by
  unfold bind
  cases hi : i.destination <;> simp_all [Destination.isDeferred, target?]

end DeferredMetrics
