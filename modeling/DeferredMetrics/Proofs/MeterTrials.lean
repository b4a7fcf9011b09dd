import DeferredMetrics.Proofs.InstrumentTrials

set_option autoImplicit false

/-! # What trying the meters of a provider leaves

As for the instruments of one meter: the calls, the answers of the provider, and what becomes of
meters and instruments. A meter waits (`MeterWaits`) if it and everything below it is unbound;
trying one meter leaves the others waiting, because no instrument stands under two meters. -/

namespace DeferredMetrics

namespace MeterTrial

/-- What the provider was asked. -/
def exchanges (x : MeterTrial) : List Exchange :=
  .meter x.scope x.answer :: x.instruments.map InstrumentTrial.exchange

/-- The calls of the trial, if `p` is the target. -/
def calls (p : ProviderRef) (x : MeterTrial) : List Call :=
  .meter p x.scope ::
    match x.answer with
    | .ok t =>
        .meterReturned t :: .bindMeter x.meter t :: x.instruments.flatMap (InstrumentTrial.calls t)
    | .error _ => []

/-- The instruments that were tried. -/
def tried (x : MeterTrial) : List InstrumentRef := x.instruments.map InstrumentTrial.instrument

end MeterTrial

namespace Store

/-- The meter waits for a target, and so do its instruments, which stand under no other meter. -/
structure MeterWaits (s : Store) (m : MeterRef) : Prop where
  known : s.meters.Has m
  waiting : ∃ is, (s.meter m).body = .deferred ⟨none, is⟩
  nodup : (s.meter m).instruments.Nodup
  instruments : ∀ i ∈ (s.meter m).instruments, s.InstrumentWaits i ∧ (s.instrument i).issuer = m

theorem MeterWaits.target? {s : Store} {m : MeterRef} (h : s.MeterWaits m) :
    (s.meter m).target? = none := by
  obtain ⟨is, his⟩ := h.waiting
  rw [Meter.target?, his]

theorem MeterWaits.target?_bind {s : Store} {m : MeterRef} (h : s.MeterWaits m) (t : MeterRef) :
    ((s.meter m).bind t).target? = some t := by
  obtain ⟨is, his⟩ := h.waiting
  simp [Meter.bind, Meter.target?, his]

/-! ## One meter -/

section TryMeter

variable {s : Store} {p e : ProviderRef} {m t : MeterRef}

theorem meter_askMeter_of_ok {scope : Scope} (h : s.meterAnswer e scope = .ok t) :
    (s.askMeter p e scope).meter t = ⟨scope, some e, (s.provider e).freshBody⟩ := by
  rw [meter, meters_askMeter_of_ok s p h, meterAnswer_eq_next s h]
  exact Table.get_add_next _ _

theorem providerTarget_askMeter (scope : Scope) (q : ProviderRef) :
    ((s.askMeter p e scope).provider q).target? = (s.provider q).target? := by
  rw [provider, providers_askMeter]
  exact Table.apply_get_update Provider.target? _ (fun x => x.target?_serve _) _ _

theorem quiet_askMeter {scope : Scope} (h : (s.provider e).Quiet) :
    ((s.askMeter p e scope).provider e).Quiet := by
  rw [provider, providers_askMeter, Table.get_update]
  split
  · exact Provider.quiet_serve _ h
  · exact h

/-- A new meter serves the provider that issued it. -/
theorem serves_askMeter {scope : Scope} (h : s.meterAnswer e scope = .ok t) :
    (s.askMeter p e scope).Serves e t := by
  have hmeters := meters_askMeter_of_ok s p h
  have hrow := meter_askMeter_of_ok (p := p) h
  have hprovider : (s.askMeter p e scope).provider e = if e = e ∧ s.providers.Has e then
      (s.provider e).serve (.meter scope (s.meterAnswer e scope)) else s.provider e := by
    rw [provider, providers_askMeter]
    exact Table.get_update _ _ e e
  constructor
  case known =>
    rw [hmeters, meterAnswer_eq_next s h]
    exact Table.has_next_add _ _
  case issuer => rw [hrow]
  case target =>
    rw [hrow, Meter.target?]
    cases s.provider e <;> rfl
  case fits =>
    rw [hrow, hprovider]
    split
    · exact Provider.fits_serve _ (Provider.fits_freshBody _)
    · exact Provider.fits_freshBody _

theorem meter_askMeter (hknown : s.meters.Has m) (scope : Scope) :
    (s.askMeter p e scope).meter m = s.meter m := by
  cases h : s.meterAnswer e scope with
  | error payload => exact congrArg (Table.get · m) (meters_askMeter_of_error s p h)
  | ok t =>
      rw [meter, meters_askMeter_of_ok s p h]
      exact Table.get_add_of_has _ _ hknown

theorem tryMeter_of_error {payload : Payload}
    (h : s.meterAnswer e (s.meter m).scope = .error payload) :
    s.tryMeter p e m =
      (s.askMeter p e (s.meter m).scope).log
        (.childFailed .meter (s.meter m).scope.name payload.reason) := by
  simp only [tryMeter, h]

theorem tryMeter_of_ok (h : s.meterAnswer e (s.meter m).scope = .ok t) :
    s.tryMeter p e m = (s.askMeter p e (s.meter m).scope).bindMeter m t := by
  simp only [tryMeter, h]

theorem meterTrial_of_error {payload : Payload}
    (h : s.meterAnswer e (s.meter m).scope = .error payload) :
    s.meterTrial p e m = ⟨m, (s.meter m).scope, .error payload, []⟩ := by
  simp only [meterTrial, h]

theorem meterTrial_of_ok (h : s.meterAnswer e (s.meter m).scope = .ok t) :
    s.meterTrial p e m = ⟨m, (s.meter m).scope, .ok t,
      instrumentTrials t ((s.askMeter p e (s.meter m).scope).note (.bindMeter m t))
        (s.meter m).instruments⟩ := by
  simp only [meterTrial, h]

theorem providers_tryMeter (hknown : s.meters.Has m) :
    (s.tryMeter p e m).providers = s.providers.update e fun q =>
      (s.meterTrial p e m).exchanges.foldl Provider.serve q := by
  cases h : s.meterAnswer e (s.meter m).scope with
  | error payload =>
      rw [tryMeter_of_error h, meterTrial_of_error h]
      exact (providers_askMeter s p e _).trans (by rw [h]; rfl)
  | ok t =>
      have hserves : ((s.askMeter p e (s.meter m).scope).note (.bindMeter m t)).Serves e t := by
        have hask := serves_askMeter (p := p) h
        exact ⟨hask.known, hask.issuer, hask.target, hask.fits⟩
      rw [tryMeter_of_ok h, meterTrial_of_ok h]
      show (tryInstruments t _ _).providers = _
      rw [providers_tryInstruments hserves, meter_askMeter hknown]
      show (Table.update (s.askMeter p e (s.meter m).scope).providers e _) = _
      rw [providers_askMeter, Table.update_update, h]
      rfl

theorem providerTarget_tryMeter (hknown : s.meters.Has m) (q : ProviderRef) :
    ((s.tryMeter p e m).provider q).target? = (s.provider q).target? := by
  rw [provider, providers_tryMeter hknown]
  exact Table.apply_get_update Provider.target? _ (fun x => x.target?_foldl_serve _) _ _

theorem quiet_tryMeter (hknown : s.meters.Has m) (h : (s.provider e).Quiet) :
    ((s.tryMeter p e m).provider e).Quiet := by
  rw [provider, providers_tryMeter hknown, Table.get_update]
  split
  · exact Provider.quiet_foldl_serve _ h
  · exact h

theorem calls_tryMeter (hknown : s.meters.Has m) :
    (s.tryMeter p e m).calls.toList = s.calls.toList ++ (s.meterTrial p e m).calls p := by
  cases h : s.meterAnswer e (s.meter m).scope with
  | error payload =>
      rw [tryMeter_of_error h, meterTrial_of_error h]
      show (s.askMeter p e (s.meter m).scope).calls.toList = _
      rw [calls_askMeter, h]
      rfl
  | ok t =>
      rw [tryMeter_of_ok h, meterTrial_of_ok h]
      show (tryInstruments t _ _).calls.toList = _
      rw [calls_tryInstruments, meter_askMeter hknown]
      show ((s.askMeter p e _).calls.push _).toList ++ _ = _
      rw [Array.toList_push, calls_askMeter, h]
      simp [returns, MeterTrial.calls]

theorem meters_tryMeter_of_ok (hknown : s.meters.Has m)
    (h : s.meterAnswer e (s.meter m).scope = .ok t) :
    (s.tryMeter p e m).meters =
      ((s.meters.add ⟨(s.meter m).scope, some e, (s.provider e).freshBody⟩).update t fun x =>
        (s.meterTrial p e m).instruments.foldl (fun x y => x.take y.request y.answer) x).update m
          fun x => x.bind t := by
  rw [tryMeter_of_ok h, meterTrial_of_ok h]
  show (tryInstruments t _ _).meters.update m _ = _
  rw [meters_tryInstruments, meter_askMeter hknown]
  show (Table.update (s.askMeter p e (s.meter m).scope).meters t _).update m _ = _
  rw [meters_askMeter_of_ok s p h]

end TryMeter

end Store

/-! ## All meters -/

/-- What the trials `xs` make of meters and instruments, if `e` answers them with meters with the
body `body`: each meter and each instrument that was not refused is bound to a new one, and nothing
else changes. -/
structure MetersTried (e : ProviderRef) (body : MeterBody) (xs : List MeterTrial) (s s' : Store) :
    Prop where
  knownMeters : ∀ m, s.meters.Has m → s'.meters.Has m
  knownInstruments : ∀ i, s.instruments.Has i → s'.instruments.Has i
  otherMeters : ∀ m, s.meters.Has m → m ∉ xs.map MeterTrial.meter → s'.meter m = s.meter m
  otherInstruments : ∀ i, s.instruments.Has i → (∀ x ∈ xs, i ∉ x.tried) →
    s'.instrument i = s.instrument i
  refused : ∀ x ∈ xs, ∀ payload, x.answer = .error payload →
    s'.meter x.meter = s.meter x.meter ∧ x.instruments = []
  bound : ∀ x ∈ xs, ∀ t, x.answer = .ok t → s'.meter x.meter = (s.meter x.meter).bind t
  issued : ∀ x ∈ xs, ∀ t, x.answer = .ok t →
    ¬ s.meters.Has t ∧ s'.meters.Has t ∧ s'.meter t =
      x.instruments.foldl (fun m y => m.take y.request y.answer) ⟨x.scope, some e, body⟩
  instruments : ∀ x ∈ xs, ∀ t, x.answer = .ok t →
    InstrumentsSettled t (Meter.freshDestination ⟨x.scope, some e, body⟩) x.instruments
      s.instruments s'.instruments

namespace MetersTried

variable {e : ProviderRef} {body : MeterBody} {s s₁ s' : Store}

theorem nil (s : Store) : MetersTried e body [] s s where
  knownMeters _ h := h
  knownInstruments _ h := h
  otherMeters _ _ _ := rfl
  otherInstruments _ _ _ := rfl
  refused := by simp
  bound := by simp
  issued := by simp
  instruments := by simp

/-- One trial that was refused: nothing changes. -/
theorem of_refused {x : MeterTrial} {payload : Payload} (hanswer : x.answer = .error payload)
    (hnone : x.instruments = []) (hmeters : s'.meters = s.meters)
    (hinstruments : s'.instruments = s.instruments) : MetersTried e body [x] s s' := by
  have hmeter : ∀ k, s'.meter k = s.meter k := fun k => congrArg (Table.get · k) hmeters
  have hrefused : ∀ y ∈ [x], ∀ t, y.answer ≠ .ok t := by simp [hanswer]
  constructor
  case knownMeters => exact fun k hk => by rwa [hmeters]
  case knownInstruments => exact fun k hk => by rwa [hinstruments]
  case otherMeters => exact fun k _ _ => hmeter k
  case otherInstruments => exact fun k _ _ => congrArg (Table.get · k) hinstruments
  case refused =>
    intro y hy _ _
    rw [List.mem_singleton.1 hy]
    exact ⟨hmeter _, hnone⟩
  case bound => exact fun y hy t ht => absurd ht (hrefused y hy t)
  case issued => exact fun y hy t ht => absurd ht (hrefused y hy t)
  case instruments => exact fun y hy t ht => absurd ht (hrefused y hy t)

/-- One trial that was answered with a new meter: the meter is bound to it, and its instruments were
tried with it. -/
theorem of_answered {x : MeterTrial} {t : MeterRef} (hanswer : x.answer = .ok t)
    (hknown : s.meters.Has x.meter) (hnew : ¬ s.meters.Has t)
    (hhas : ∀ k, s'.meters.Has k ↔ s.meters.Has k ∨ k = t)
    (hrow : ∀ k, s'.meter k =
      if k = x.meter then (s.meter x.meter).bind t
      else if k = t then
        x.instruments.foldl (fun m y => m.take y.request y.answer) ⟨x.scope, some e, body⟩
      else s.meter k)
    (hinstruments : InstrumentsTried t (Meter.freshDestination ⟨x.scope, some e, body⟩)
      x.instruments s.instruments s'.instruments) : MetersTried e body [x] s s' := by
  have hne : ∀ k, s.meters.Has k → k ≠ t := fun k hk heq => hnew (heq ▸ hk)
  have hsame : ∀ y ∈ [x], ∀ k, y.answer = .ok k → y = x ∧ k = t := by
    intro y hy k hk
    rw [List.mem_singleton.1 hy, hanswer] at hk
    exact ⟨List.mem_singleton.1 hy, (Except.ok.inj hk).symm⟩
  constructor
  case knownMeters => exact fun k hk => (hhas k).2 (.inl hk)
  case knownInstruments => exact hinstruments.known
  case otherMeters =>
    intro k hk hmem
    have hkx : k ≠ x.meter := by simpa using hmem
    rw [hrow, if_neg hkx, if_neg (hne k hk)]
  case otherInstruments =>
    exact fun i hi hnot => hinstruments.others i hi (hnot x List.mem_cons_self)
  case refused =>
    intro y hy payload hpayload
    rw [List.mem_singleton.1 hy, hanswer] at hpayload
    cases hpayload
  case bound =>
    intro y hy k hk
    obtain ⟨rfl, rfl⟩ := hsame y hy k hk
    exact (hrow y.meter).trans (if_pos rfl)
  case issued =>
    intro y hy k hk
    obtain ⟨rfl, rfl⟩ := hsame y hy k hk
    refine ⟨hnew, (hhas k).2 (.inr rfl), ?_⟩
    rw [hrow, if_neg (hne _ hknown).symm, if_pos rfl]
  case instruments =>
    intro y hy k hk
    obtain ⟨rfl, rfl⟩ := hsame y hy k hk
    exact hinstruments.settled

/-- One trial after another, of meters that differ and do not share instruments. -/
theorem cons {x : MeterTrial} {xs : List MeterTrial} (h : MetersTried e body [x] s s₁)
    (h' : MetersTried e body xs s₁ s') (hmeters : ∀ y ∈ x :: xs, s.meters.Has y.meter)
    (hinstruments : ∀ y ∈ x :: xs, ∀ i ∈ y.tried, s.instruments.Has i)
    (hdistinct : x.meter ∉ xs.map MeterTrial.meter)
    (hdisjoint : ∀ y ∈ xs, ∀ i ∈ y.tried, i ∉ x.tried) : MetersTried e body (x :: xs) s s' := by
  have hfirst : s'.meter x.meter = s₁.meter x.meter :=
    h'.otherMeters _ (h.knownMeters _ (hmeters x List.mem_cons_self)) hdistinct
  have hlater : ∀ y ∈ xs, s₁.meter y.meter = s.meter y.meter := by
    intro y hy
    apply h.otherMeters _ (hmeters y (List.mem_cons_of_mem _ hy))
    intro hmem
    have heq : y.meter = x.meter := by simpa using hmem
    exact hdistinct (List.mem_map.2 ⟨y, hy, heq⟩)
  -- what is new after the first trial is touched by no later one
  have hnewMeter : ∀ t, ¬ s.meters.Has t → s₁.meters.Has t → s'.meter t = s₁.meter t := by
    intro t hold ht
    apply h'.otherMeters t ht
    intro hmem
    obtain ⟨y, hy, rfl⟩ := List.mem_map.1 hmem
    exact hold (hmeters y (List.mem_cons_of_mem _ hy))
  have hnewInstrument : ∀ j, ¬ s.instruments.Has j → s₁.instruments.Has j →
      s'.instrument j = s₁.instrument j := by
    intro j hold hj
    apply h'.otherInstruments j hj
    intro y hy hmem
    exact hold (hinstruments y (List.mem_cons_of_mem _ hy) j hmem)
  have hsameFirst : ∀ y ∈ x.instruments,
      s'.instrument y.instrument = s₁.instrument y.instrument := by
    intro y hy
    have hmem : y.instrument ∈ x.tried := List.mem_map.2 ⟨y, hy, rfl⟩
    apply h'.otherInstruments _ (h.knownInstruments _ (hinstruments x List.mem_cons_self _ hmem))
    exact fun z hz hmem' => hdisjoint z hz _ hmem' hmem
  have hsameLater : ∀ y ∈ xs, ∀ z ∈ y.instruments,
      s₁.instrument z.instrument = s.instrument z.instrument := by
    intro y hy z hz
    have hmem : z.instrument ∈ y.tried := List.mem_map.2 ⟨z, hz, rfl⟩
    apply h.otherInstruments _ (hinstruments y (List.mem_cons_of_mem _ hy) _ hmem)
    intro w hw
    rw [List.mem_singleton.1 hw]
    exact hdisjoint y hy _ hmem
  constructor
  case knownMeters => exact fun m hm => h'.knownMeters m (h.knownMeters m hm)
  case knownInstruments => exact fun i hi => h'.knownInstruments i (h.knownInstruments i hi)
  case otherMeters =>
    intro m hm hmem
    rw [List.map_cons, List.mem_cons, not_or] at hmem
    rw [h'.otherMeters m (h.knownMeters m hm) hmem.2, h.otherMeters m hm (by simpa using hmem.1)]
  case otherInstruments =>
    intro i hi hnot
    rw [h'.otherInstruments i (h.knownInstruments i hi)
        fun y hy => hnot y (List.mem_cons_of_mem _ hy),
      h.otherInstruments i hi (by simpa using hnot x List.mem_cons_self)]
  case refused =>
    intro y hy payload hanswer
    rcases List.mem_cons.1 hy with rfl | hy
    · rw [hfirst]
      exact h.refused y List.mem_cons_self payload hanswer
    · rw [← hlater y hy]
      exact h'.refused y hy payload hanswer
  case bound =>
    intro y hy t hanswer
    rcases List.mem_cons.1 hy with rfl | hy
    · rw [hfirst]
      exact h.bound y List.mem_cons_self t hanswer
    · rw [← hlater y hy]
      exact h'.bound y hy t hanswer
  case issued =>
    intro y hy t hanswer
    rcases List.mem_cons.1 hy with rfl | hy
    · obtain ⟨hold, ht, hrow⟩ := h.issued y List.mem_cons_self t hanswer
      exact ⟨hold, h'.knownMeters t ht, (hnewMeter t hold ht).trans hrow⟩
    · obtain ⟨hnew, ht, hrow⟩ := h'.issued y hy t hanswer
      exact ⟨fun hold => hnew (h.knownMeters t hold), ht, hrow⟩
  case instruments =>
    intro y hy t hanswer
    rcases List.mem_cons.1 hy with rfl | hy
    · refine (h.instruments y List.mem_cons_self t hanswer).trans hsameFirst ?_
      exact fun j hold hj => ⟨h'.knownInstruments j hj, hnewInstrument j hold hj⟩
    · exact (h'.instruments y hy t hanswer).of_later (hsameLater y hy) h.knownInstruments

end MetersTried

namespace Store

section TryMeters

variable {s : Store} {p e : ProviderRef} {m : MeterRef}

/-- The instruments of a meter are tried unless the meter is refused, and then none is. -/
theorem tried_meterTrial (m : MeterRef) :
    (s.meterTrial p e m).tried = (s.meter m).instruments ∨ (s.meterTrial p e m).tried = [] := by
  cases h : s.meterAnswer e (s.meter m).scope with
  | error payload =>
      rw [meterTrial_of_error h]
      exact .inr rfl
  | ok t =>
      rw [meterTrial_of_ok h]
      exact .inl (map_instrument_instrumentTrials _)

theorem mem_instruments_of_mem_tried {i : InstrumentRef}
    (h : i ∈ (s.meterTrial p e m).tried) : i ∈ (s.meter m).instruments := by
  rcases tried_meterTrial (s := s) (p := p) (e := e) m with htried | htried
  · exact htried ▸ h
  · rw [htried] at h
    exact absurd h List.not_mem_nil

theorem has_meters_tryMeter_of_ok {t : MeterRef} (hknown : s.meters.Has m)
    (h : s.meterAnswer e (s.meter m).scope = .ok t) (k : MeterRef) :
    (s.tryMeter p e m).meters.Has k ↔ s.meters.Has k ∨ k = t := by
  rw [meters_tryMeter_of_ok hknown h, Table.has_update, Table.has_update, Table.has_add,
    meterAnswer_eq_next s h]

/-- Of the meters only the one that is tried changes, and there is one more, which has served it. -/
theorem meter_tryMeter_of_ok {t : MeterRef} (hknown : s.meters.Has m)
    (h : s.meterAnswer e (s.meter m).scope = .ok t) (k : MeterRef) :
    (s.tryMeter p e m).meter k =
      if k = m then (s.meter m).bind t
      else if k = t then
        (s.meterTrial p e m).instruments.foldl (fun x y => x.take y.request y.answer)
          ⟨(s.meter m).scope, some e, (s.provider e).freshBody⟩
      else s.meter k := by
  have hnext := meterAnswer_eq_next s h
  have hne : m ≠ t := hnext ▸ Table.ne_next_of_has hknown
  rw [meter, meters_tryMeter_of_ok hknown h]
  by_cases hk : k = m
  · subst hk
    rw [Table.get_update_self _ _ ?_, Table.get_update_of_ne _ _ (Ne.symm hne),
      Table.get_add_of_has _ _ hknown, if_pos rfl]
    · rfl
    · rw [Table.has_update, Table.has_add]
      exact .inl hknown
  · rw [Table.get_update_of_ne _ _ (Ne.symm hk), if_neg hk]
    by_cases hkt : k = t
    · subst hkt
      rw [Table.get_update_self _ _ ((Table.has_add _ _ _).2 (.inr hnext)), if_pos rfl,
        Table.get_add, if_pos hnext]
    · rw [Table.get_update_of_ne _ _ (Ne.symm hkt), Table.get_add, if_neg (hnext ▸ hkt),
        if_neg hkt]
      rfl

/-- The instruments of a meter are tried with the new one. -/
theorem instrumentsTried_tryMeter_of_ok {t : MeterRef} (hwaits : s.MeterWaits m)
    (h : s.meterAnswer e (s.meter m).scope = .ok t) :
    InstrumentsTried t
      (Meter.freshDestination ⟨(s.meter m).scope, some e, (s.provider e).freshBody⟩)
      (s.meterTrial p e m).instruments s.instruments (s.tryMeter p e m).instruments := by
  have hsame : ((s.askMeter p e (s.meter m).scope).note (.bindMeter m t)).instruments =
      s.instruments := instruments_askMeter s p e _
  have htried := instrumentsTried_tryInstruments
    (s := (s.askMeter p e (s.meter m).scope).note (.bindMeter m t)) (t := t) hwaits.nodup
    fun i hi => (hwaits.instruments i hi).1.congr hsame
  rw [hsame, show ((s.askMeter p e (s.meter m).scope).note (.bindMeter m t)).meter t = _
    from meter_askMeter_of_ok h] at htried
  rw [tryMeter_of_ok h, meterTrial_of_ok h]
  show InstrumentsTried _ _ _ _ (tryInstruments t _ _).instruments
  rw [meter_askMeter hwaits.known]
  exact htried

theorem metersTried_tryMeter (hwaits : s.MeterWaits m) :
    MetersTried e (s.provider e).freshBody [s.meterTrial p e m] s (s.tryMeter p e m) := by
  cases h : s.meterAnswer e (s.meter m).scope with
  | error payload =>
      have htrial := meterTrial_of_error (p := p) h
      refine .of_refused (congrArg MeterTrial.answer htrial)
        (congrArg MeterTrial.instruments htrial) ?_ ?_
      · rw [tryMeter_of_error h]
        exact meters_askMeter_of_error s p h
      · rw [tryMeter_of_error h]
        exact instruments_askMeter s p e _
  | ok t =>
      have hnew : ¬ s.meters.Has t := fun hold =>
        Table.ne_next_of_has hold (meterAnswer_eq_next s h)
      exact .of_answered (congrArg MeterTrial.answer (meterTrial_of_ok h)) hwaits.known hnew
        (has_meters_tryMeter_of_ok hwaits.known h) (meter_tryMeter_of_ok hwaits.known h)
        (instrumentsTried_tryMeter_of_ok hwaits h)

/-- Trying a meter leaves the others waiting. -/
theorem MeterWaits.tryMeter {k : MeterRef} (hm : s.MeterWaits m) (hk : s.MeterWaits k)
    (hne : k ≠ m) : (s.tryMeter p e m).MeterWaits k := by
  have htried := metersTried_tryMeter (p := p) (e := e) hm
  have hmeter : (s.tryMeter p e m).meter k = s.meter k :=
    htried.otherMeters k hk.known (by simpa [meterTrial] using hne)
  have hinstrument : ∀ i ∈ (s.meter k).instruments,
      (s.tryMeter p e m).instrument i = s.instrument i := by
    intro i hi
    obtain ⟨hwaits, hissuer⟩ := hk.instruments i hi
    apply htried.otherInstruments i hwaits.known
    intro x hx hmem
    rw [List.mem_singleton.1 hx] at hmem
    -- the instrument would stand under both meters
    have hissuer' := (hm.instruments i (mem_instruments_of_mem_tried hmem)).2
    exact hne (hissuer.symm.trans hissuer')
  constructor
  case known => exact htried.knownMeters k hk.known
  case waiting =>
    rw [hmeter]
    exact hk.waiting
  case nodup =>
    rw [hmeter]
    exact hk.nodup
  case instruments =>
    intro i hi
    rw [hmeter] at hi
    obtain ⟨hwaits, hissuer⟩ := hk.instruments i hi
    refine ⟨⟨htried.knownInstruments i hwaits.known, ?_⟩, ?_⟩
    · rw [hinstrument i hi]
      exact hwaits.waiting
    · rw [hinstrument i hi]
      exact hissuer

theorem provider_tryMeter (hknown : s.meters.Has m) (he : s.providers.Has e) :
    (s.tryMeter p e m).provider e =
      (s.meterTrial p e m).exchanges.foldl Provider.serve (s.provider e) := by
  rw [provider, providers_tryMeter hknown]
  exact Table.get_update_self _ _ he

theorem known_tryMeter (hknown : s.meters.Has m) (q : ProviderRef) :
    (s.tryMeter p e m).providers.Has q ↔ s.providers.Has q := by
  rw [providers_tryMeter hknown, Table.has_update]

/-- The meters wait, and no two of them are the same. -/
structure AllWait (s : Store) (ms : List MeterRef) : Prop where
  nodup : ms.Nodup
  waits : ∀ m ∈ ms, s.MeterWaits m

theorem AllWait.tail {ms : List MeterRef} (h : s.AllWait (m :: ms)) :
    (s.tryMeter p e m).AllWait ms := by
  obtain ⟨hm, hnodup⟩ := List.nodup_cons.1 h.nodup
  refine ⟨hnodup, ?_⟩
  intro k hk
  have hhead := h.waits m List.mem_cons_self
  exact hhead.tryMeter (h.waits k (List.mem_cons_of_mem _ hk)) fun hkm => hm (hkm ▸ hk)

theorem map_meter_meterTrials (ms : List MeterRef) :
    (meterTrials p e s ms).map MeterTrial.meter = ms := by
  induction ms generalizing s with
  | nil => rfl
  | cons m ms ih =>
      rw [meterTrials, List.map_cons, ih]
      rfl

theorem providers_tryMeters {ms : List MeterRef} (hwait : s.AllWait ms) :
    (tryMeters p e s ms).providers = s.providers.update e fun q =>
      ((meterTrials p e s ms).flatMap MeterTrial.exchanges).foldl Provider.serve q := by
  induction ms generalizing s with
  | nil => exact (Table.update_eq_self s.providers _ e rfl).symm
  | cons m ms ih =>
      show (tryMeters p e (s.tryMeter p e m) ms).providers = _
      rw [ih hwait.tail, providers_tryMeter (hwait.waits m List.mem_cons_self).known,
        Table.update_update]
      simp only [meterTrials, List.flatMap_cons, List.foldl_append]

theorem providerTarget_tryMeters {ms : List MeterRef} (hwait : s.AllWait ms) (q : ProviderRef) :
    ((tryMeters p e s ms).provider q).target? = (s.provider q).target? := by
  rw [provider, providers_tryMeters hwait]
  exact Table.apply_get_update Provider.target? _ (fun x => x.target?_foldl_serve _) _ _

theorem calls_tryMeters {ms : List MeterRef} (hwait : s.AllWait ms) :
    (tryMeters p e s ms).calls.toList =
      s.calls.toList ++ (meterTrials p e s ms).flatMap (MeterTrial.calls p) := by
  induction ms generalizing s with
  | nil => simp [tryMeters, meterTrials]
  | cons m ms ih =>
      show (tryMeters p e (s.tryMeter p e m) ms).calls.toList = _
      rw [ih hwait.tail, calls_tryMeter (hwait.waits m List.mem_cons_self).known,
        meterTrials, List.flatMap_cons, List.append_assoc]

theorem refusals_meterTrial (he : s.providers.Has e) {k : Nat} {x : Exchange}
    (hx : (s.meterTrial p e m).exchanges[k]? = some x) :
    x.refusal? = (s.provider e).refusal k x.ask := by
  cases k with
  | zero =>
      have hhead : x = .meter (s.meter m).scope (s.meterAnswer e (s.meter m).scope) := by
        simpa [MeterTrial.exchanges, meterTrial] using hx.symm
      rw [hhead]
      simp only [Exchange.ask, meterAnswer]
      cases hrefusal : (s.provider e).refusal 0 (.meter (s.meter m).scope) <;> rfl
  | succ k =>
      cases h : s.meterAnswer e (s.meter m).scope with
      | error payload => simp [meterTrial_of_error h, MeterTrial.exchanges] at hx
      | ok t =>
          have hserves := serves_askMeter (p := p) h
          have hproviders := providers_askMeter s p e (s.meter m).scope
          have hknown : (s.askMeter p e (s.meter m).scope).providers.Has e := by
            rwa [hproviders, Table.has_update]
          have hprovider : (s.askMeter p e (s.meter m).scope).provider e =
              (s.provider e).serve (.meter (s.meter m).scope (.ok t)) := by
            rw [provider, hproviders, h]
            exact Table.get_update_self _ _ he
          have hnoted : ((s.askMeter p e (s.meter m).scope).note (.bindMeter m t)).Serves e t :=
            ⟨hserves.known, hserves.issuer, hserves.target, hserves.fits⟩
          have htail := refusals_instrumentTrials hnoted hknown (s.meter m).instruments (k := k)
            (x := x) (by simpa [meterTrial_of_ok h, MeterTrial.exchanges] using hx)
          rwa [show ((s.askMeter p e (s.meter m).scope).note (.bindMeter m t)).provider e = _ from
            hprovider, Provider.refusal_serve] at htail

/-- The answers in the trials are those that the provider gives to its calls in turn. -/
theorem refusals_meterTrials {ms : List MeterRef} (hwait : s.AllWait ms) (he : s.providers.Has e)
    {k : Nat} {x : Exchange}
    (hx : ((meterTrials p e s ms).flatMap MeterTrial.exchanges)[k]? = some x) :
    x.refusal? = (s.provider e).refusal k x.ask := by
  induction ms generalizing s k with
  | nil => simp [meterTrials] at hx
  | cons m ms ih =>
      have hknown := (hwait.waits m List.mem_cons_self).known
      rw [meterTrials, List.flatMap_cons, List.getElem?_append] at hx
      split at hx
      · exact refusals_meterTrial he hx
      · rename_i hlength
        have htail := ih hwait.tail ((known_tryMeter hknown e).2 he) hx
        rw [provider_tryMeter hknown he, Provider.refusal_foldl_serve] at htail
        rwa [Nat.sub_add_cancel (Nat.le_of_not_lt hlength)] at htail

theorem freshBody_tryMeter (hknown : s.meters.Has m) (q : ProviderRef) :
    ((s.tryMeter p e m).provider q).freshBody = (s.provider q).freshBody := by
  rw [provider, providers_tryMeter hknown]
  exact Table.apply_get_update Provider.freshBody _ (fun x => x.freshBody_foldl_serve _) _ _

theorem meter_tryMeter {k : MeterRef} (hm : s.MeterWaits m) (hk : s.meters.Has k) (hne : k ≠ m) :
    (s.tryMeter p e m).meter k = s.meter k :=
  (metersTried_tryMeter hm).otherMeters k hk (by simpa [meterTrial] using hne)

theorem mem_of_mem_meterTrials {ms : List MeterRef} {y : MeterTrial}
    (hy : y ∈ meterTrials p e s ms) : y.meter ∈ ms := by
  have hmem : y.meter ∈ (meterTrials p e s ms).map MeterTrial.meter :=
    List.mem_map.2 ⟨y, hy, rfl⟩
  rwa [map_meter_meterTrials] at hmem

/-- Trials are of instruments that stood under the meter from the start. -/
theorem mem_instruments_of_mem_meterTrials {ms : List MeterRef} (hwait : s.AllWait ms)
    {y : MeterTrial} (hy : y ∈ meterTrials p e s ms) {i : InstrumentRef} (hi : i ∈ y.tried) :
    i ∈ (s.meter y.meter).instruments := by
  induction ms generalizing s with
  | nil => exact absurd hy List.not_mem_nil
  | cons m ms ih =>
      rcases List.mem_cons.1 hy with rfl | hy
      · exact mem_instruments_of_mem_tried hi
      · have hmem := mem_of_mem_meterTrials hy
        have hne : y.meter ≠ m := fun h => (List.nodup_cons.1 hwait.nodup).1 (h ▸ hmem)
        have hknown := (hwait.waits y.meter (List.mem_cons_of_mem _ hmem)).known
        rw [← meter_tryMeter (p := p) (e := e) (hwait.waits m List.mem_cons_self) hknown hne]
        exact ih hwait.tail hy

theorem metersTried_tryMeters {ms : List MeterRef} (hwait : s.AllWait ms) :
    MetersTried e (s.provider e).freshBody (meterTrials p e s ms) s (tryMeters p e s ms) := by
  induction ms generalizing s with
  | nil => exact MetersTried.nil s
  | cons m ms ih =>
      have hm := hwait.waits m List.mem_cons_self
      have hrest := ih (hwait.tail (p := p) (e := e))
      rw [freshBody_tryMeter hm.known] at hrest
      refine (metersTried_tryMeter hm).cons hrest ?_ ?_ ?_ ?_
      · exact fun y hy => (hwait.waits _ (mem_of_mem_meterTrials hy)).known
      · intro y hy i hi
        have hmem := mem_instruments_of_mem_meterTrials hwait hy hi
        exact ((hwait.waits _ (mem_of_mem_meterTrials hy)).instruments i hmem).1.known
      · rw [map_meter_meterTrials]
        exact (List.nodup_cons.1 hwait.nodup).1
      · intro y hy i hi hmem
        have hy' : y ∈ meterTrials p e s (m :: ms) := List.mem_cons_of_mem _ hy
        have hy_mem := mem_of_mem_meterTrials hy
        -- an instrument of both meters would have both as its issuer
        have hissuer := ((hwait.waits _ (List.mem_cons_of_mem _ hy_mem)).instruments i
          (mem_instruments_of_mem_meterTrials hwait hy' hi)).2
        have hissuer' := (hm.instruments i (mem_instruments_of_mem_tried hmem)).2
        exact (List.nodup_cons.1 hwait.nodup).1 (hissuer'.symm.trans hissuer ▸ hy_mem)

end TryMeters

end Store

end DeferredMetrics
