import DeferredMetrics.Proofs.Exchanges

set_option autoImplicit false

/-! # What trying the instruments of a meter leaves

The calls that are made, how the provider behind the meter answers them, and what becomes of the
instruments: `InstrumentsTried` has one clause for each way in which a trial can end and one for
all that was not tried. -/

namespace DeferredMetrics

namespace InstrumentTrial

/-- What the provider behind the meter was asked. -/
def exchange (x : InstrumentTrial) : Exchange := .instrument x.request x.answer

/-- The calls of the trial, if `t` is the meter. -/
def calls (t : MeterRef) (x : InstrumentTrial) : List Call :=
  .bindInstrument x.instrument t :: .instrument t x.request ::
    match x.answer with
    | .ok j => [.instrumentReturned j]
    | .error _ => []

end InstrumentTrial

/-- A new instrument hands nothing on. -/
theorem Meter.target?_freshDestination (m : Meter) (request : Request) (t : MeterRef) :
    Instrument.target? ⟨request, t, m.freshDestination⟩ = none := by
  unfold freshDestination
  cases m.body <;> rfl

namespace Store

/-- `t` is a meter of `e` that answers for itself. -/
structure Serves (s : Store) (e : ProviderRef) (t : MeterRef) : Prop where
  known : s.meters.Has t
  issuer : (s.meter t).issuer = some e
  target : (s.meter t).target? = none
  fits : (s.provider e).Fits (s.meter t).body

theorem Serves.meterFits {s : Store} {e : ProviderRef} {t : MeterRef} (h : s.Serves e t) :
    s.MeterFits t := by
  intro e' he'
  rw [h.issuer, Option.some.injEq] at he'
  exact he' ▸ h.fits

theorem Serves.quietMeter {s : Store} {e : ProviderRef} {t : MeterRef} (h : s.Serves e t)
    (hquiet : (s.provider e).Quiet) : s.QuietMeter t := by
  intro e' he'
  rw [h.issuer, Option.some.injEq] at he'
  exact he' ▸ hquiet

theorem Serves.meterEnd? {s : Store} {e : ProviderRef} {t : MeterRef} (h : s.Serves e t) :
    s.meterEnd? t = some t :=
  meterEnd?_eq_some.2 (endsAt_self h.target)

/-- The instrument waits for a target. -/
structure InstrumentWaits (s : Store) (i : InstrumentRef) : Prop where
  known : s.instruments.Has i
  waiting : (s.instrument i).destination = .deferred none

theorem InstrumentWaits.target? {s : Store} {i : InstrumentRef} (h : s.InstrumentWaits i) :
    (s.instrument i).target? = none := by
  rw [Instrument.target?, h.waiting]

theorem InstrumentWaits.target?_bind {s : Store} {i : InstrumentRef} (h : s.InstrumentWaits i)
    (j : InstrumentRef) : ((s.instrument i).bind j).target? = some j := by
  simp [Instrument.bind, Instrument.target?, h.waiting]

theorem InstrumentWaits.congr {s s' : Store} {i : InstrumentRef} (h : s.InstrumentWaits i)
    (hsame : s'.instruments = s.instruments) : s'.InstrumentWaits i := by
  constructor
  · rw [hsame]
    exact h.known
  · rw [instrument, hsame]
    exact h.waiting

theorem providers_bindInstrument (s : Store) (i j : InstrumentRef) :
    (s.bindInstrument i j).providers = s.providers := by
  unfold bindInstrument
  split <;> rfl

theorem meters_bindInstrument (s : Store) (i j : InstrumentRef) :
    (s.bindInstrument i j).meters = s.meters := by
  unfold bindInstrument
  split <;> rfl

theorem calls_bindInstrument (s : Store) (i j : InstrumentRef) :
    (s.bindInstrument i j).calls = s.calls := by
  unfold bindInstrument
  split <;> rfl

/-! ## One instrument -/

section TryInstrument

variable (s : Store) (t : MeterRef) (i : InstrumentRef)

theorem providers_tryInstrument {e : ProviderRef} (hissuer : (s.meter t).issuer = some e) :
    (s.tryInstrument t i).providers =
      s.providers.update e fun p => p.serve (s.instrumentTrial t i).exchange := by
  have hask :
      ((s.note (.bindInstrument i t)).askInstrument t t (s.instrument i).request).providers =
      s.providers.update e fun p => p.serve (s.instrumentTrial t i).exchange :=
    providers_askInstrument (s.note (.bindInstrument i t)) t _ hissuer
  unfold tryInstrument
  simp only
  split
  · rw [providers_bindInstrument]
    exact hask
  · exact hask

theorem providerTarget_tryInstrument {e : ProviderRef} (hissuer : (s.meter t).issuer = some e)
    (q : ProviderRef) :
    ((s.tryInstrument t i).provider q).target? = (s.provider q).target? := by
  rw [provider, providers_tryInstrument s t i hissuer]
  exact Table.apply_get_update Provider.target? _ (fun p => p.target?_serve _) _ _

theorem meters_tryInstrument :
    (s.tryInstrument t i).meters =
      s.meters.update t fun m =>
        m.take (s.instrumentTrial t i).request (s.instrumentTrial t i).answer := by
  have hask := meters_askInstrument (s.note (.bindInstrument i t)) t t (s.instrument i).request
  unfold tryInstrument
  simp only
  split
  · rw [meters_bindInstrument]
    exact hask
  · exact hask

theorem calls_tryInstrument :
    (s.tryInstrument t i).calls.toList =
      s.calls.toList ++ (s.instrumentTrial t i).calls t := by
  have hask : ((s.note (.bindInstrument i t)).askInstrument t t
      (s.instrument i).request).calls.toList =
      s.calls.toList ++ (s.instrumentTrial t i).calls t := by
    rw [calls_askInstrument]
    show (s.calls.push _).toList ++ .instrument t _ :: returns
      (s.instrumentAnswer t (s.instrument i).request) .instrumentReturned = _
    simp only [InstrumentTrial.calls, instrumentTrial, Array.toList_push, List.append_assoc]
    cases s.instrumentAnswer t (s.instrument i).request <;> rfl
  unfold tryInstrument
  simp only
  split
  · rw [calls_bindInstrument]
    exact hask
  · exact hask

theorem instruments_tryInstrument {i : InstrumentRef} (hwaits : s.InstrumentWaits i) :
    (s.tryInstrument t i).instruments =
      match s.instrumentAnswer t (s.instrument i).request with
      | .ok j =>
          (s.instruments.add ⟨(s.instrument i).request, t, (s.meter t).freshDestination⟩).update i
            fun x => x.bind j
      | .error _ => s.instruments := by
  unfold tryInstrument
  simp only
  cases hanswer : s.instrumentAnswer t (s.instrument i).request with
  | error payload =>
      exact instruments_askInstrument_of_error (s.note (.bindInstrument i t)) t hanswer
  | ok j =>
      have hask := instruments_askInstrument_of_ok (s.note (.bindInstrument i t)) t hanswer
      have hsame : ((s.note (.bindInstrument i t)).askInstrument t t
          (s.instrument i).request).instrument i = s.instrument i := by
        rw [instrument, hask]
        exact Table.get_add_of_has s.instruments _ hwaits.known
      simp only
      rw [bindInstrument, hsame, hwaits.target?]
      show (Table.update _ i _) = _
      rw [hask]
      rfl

end TryInstrument

/-- A new instrument has no target. -/
theorem target?_askInstrument {s : Store} (m t : MeterRef) (request : Request) {k l : InstrumentRef}
    (h : ((s.askInstrument m t request).instrument k).target? = some l) :
    (s.instrument k).target? = some l := by
  cases hanswer : s.instrumentAnswer t request with
  | error payload =>
      rwa [instrument, instruments_askInstrument_of_error s m hanswer] at h
  | ok j =>
      rw [instrument_askInstrument_ite s m hanswer] at h
      split at h
      · rw [Meter.target?_freshDestination] at h
        cases h
      · exact h

/-- Where an instrument has got a target in a trial, it is the one that was tried, and the target is
one of the meter that it was tried with. -/
theorem target?_tryInstrument {s : Store} (t : MeterRef) {i k l : InstrumentRef}
    (hwaits : s.InstrumentWaits i)
    (h : ((s.tryInstrument t i).instrument k).target? = some l) :
    (s.instrument k).target? = some l ∨ k = i ∧ (s.tryInstrument t i).instruments.Has l ∧
      ((s.tryInstrument t i).instrument l).issuer = t := by
  have htable := instruments_tryInstrument s t hwaits
  cases hanswer : s.instrumentAnswer t (s.instrument i).request with
  | error payload =>
      rw [hanswer] at htable
      rw [instrument, htable] at h
      exact .inl h
  | ok j =>
      obtain rfl := instrumentAnswer_eq_next s hanswer
      rw [hanswer] at htable
      have hne : s.instruments.next ≠ i := (Table.ne_next_of_has hwaits.known).symm
      have hrow : ∀ x, (s.tryInstrument t i).instrument x =
          if x = i then (s.instrument i).bind s.instruments.next
          else if x = s.instruments.next then
            ⟨(s.instrument i).request, t, (s.meter t).freshDestination⟩
          else s.instrument x := by
        intro x
        have hhas := (Table.has_add s.instruments
          ⟨(s.instrument i).request, t, (s.meter t).freshDestination⟩ i).2 (.inl hwaits.known)
        rw [instrument, htable, Table.get_update_ite _ _ hhas, Table.get_add]
        by_cases hx : x = i
        · subst hx
          rw [if_pos rfl, if_neg hne.symm, if_pos rfl]
          rfl
        · rw [if_neg hx, if_neg hx]
          rfl
      rw [hrow] at h
      split at h
      · rename_i hki
        obtain rfl := Option.some.inj ((hwaits.target?_bind _).symm.trans h)
        rw [hrow, if_neg hne, if_pos rfl, htable, Table.has_update]
        exact .inr ⟨hki, Table.has_next_add _ _, rfl⟩
      · split at h
        · rw [Meter.target?_freshDestination] at h
          cases h
        · exact .inl h

/-- What is returned for an instrument becomes its target. -/
theorem target?_tryInstrument_of_ok {s : Store} (t : MeterRef) {i j : InstrumentRef}
    (hwaits : s.InstrumentWaits i) (hok : (s.instrumentTrial t i).answer = .ok j) :
    ((s.tryInstrument t i).instrument i).target? = some j := by
  have hanswer : s.instrumentAnswer t (s.instrument i).request = .ok j := hok
  have hknown := (Table.has_add s.instruments
    ⟨(s.instrument i).request, t, (s.meter t).freshDestination⟩ i).2 (.inl hwaits.known)
  rw [instrument, instruments_tryInstrument s t hwaits, hanswer]
  simp only
  rw [Table.get_update_self _ _ hknown, Table.get_add_of_has _ _ hwaits.known]
  exact hwaits.target?_bind j

/-! ## All instruments of a meter -/

section TryInstruments

variable {s : Store} {e : ProviderRef} {t : MeterRef}

theorem Serves.tryInstrument (h : s.Serves e t) (i : InstrumentRef) :
    (s.tryInstrument t i).Serves e t := by
  have hmeter : (s.tryInstrument t i).meter t =
      (s.meter t).take (s.instrumentTrial t i).request (s.instrumentTrial t i).answer := by
    rw [meter, meters_tryInstrument]
    exact Table.get_update_self _ _ h.known
  have hprovider : (s.tryInstrument t i).provider e = if e = e ∧ s.providers.Has e then
      (s.provider e).serve (s.instrumentTrial t i).exchange else s.provider e := by
    rw [provider, providers_tryInstrument s t i h.issuer]
    exact Table.get_update _ _ e e
  constructor
  case known =>
    rw [meters_tryInstrument, Table.has_update]
    exact h.known
  case issuer =>
    rw [hmeter, Meter.issuer_take]
    exact h.issuer
  case target =>
    rw [hmeter, Meter.target?_take]
    exact h.target
  case fits =>
    rw [hmeter, hprovider]
    apply Meter.fits_take
    split
    · exact Provider.fits_serve _ h.fits
    · exact h.fits

theorem Serves.quiet_tryInstrument (h : s.Serves e t) (i : InstrumentRef)
    (hquiet : (s.provider e).Quiet) : ((s.tryInstrument t i).provider e).Quiet := by
  rw [provider, providers_tryInstrument s t i h.issuer, Table.get_update]
  split
  · exact Provider.quiet_serve _ hquiet
  · exact hquiet

theorem providers_tryInstruments (h : s.Serves e t) (is : List InstrumentRef) :
    (s.tryInstruments t is).providers =
      s.providers.update e fun p =>
        ((instrumentTrials t s is).map InstrumentTrial.exchange).foldl Provider.serve p := by
  induction is generalizing s with
  | nil => exact (Table.update_eq_self s.providers _ e rfl).symm
  | cons i is ih =>
      show (tryInstruments t (s.tryInstrument t i) is).providers = _
      rw [ih (h.tryInstrument i), providers_tryInstrument s t i h.issuer, Table.update_update]
      rfl

theorem meters_tryInstruments (s : Store) (t : MeterRef) (is : List InstrumentRef) :
    (s.tryInstruments t is).meters =
      s.meters.update t fun m =>
        (instrumentTrials t s is).foldl (fun m x => m.take x.request x.answer) m := by
  induction is generalizing s with
  | nil => exact (Table.update_eq_self s.meters _ t rfl).symm
  | cons i is ih =>
      show (tryInstruments t (s.tryInstrument t i) is).meters = _
      rw [ih, meters_tryInstrument, Table.update_update]
      rfl

theorem calls_tryInstruments (s : Store) (t : MeterRef) (is : List InstrumentRef) :
    (s.tryInstruments t is).calls.toList =
      s.calls.toList ++ (instrumentTrials t s is).flatMap (InstrumentTrial.calls t) := by
  induction is generalizing s with
  | nil => simp [tryInstruments, instrumentTrials]
  | cons i is ih =>
      show (tryInstruments t (s.tryInstrument t i) is).calls.toList = _
      rw [ih, calls_tryInstrument, instrumentTrials, List.flatMap_cons, List.append_assoc]

/-- The answers in the trials are those that the provider gives to its calls in turn. -/
theorem refusals_instrumentTrials (h : s.Serves e t) (hknown : s.providers.Has e)
    (is : List InstrumentRef) {k : Nat} {x : Exchange}
    (hx : ((instrumentTrials t s is).map InstrumentTrial.exchange)[k]? = some x) :
    x.refusal? = (s.provider e).refusal k x.ask := by
  induction is generalizing s k with
  | nil => simp [instrumentTrials] at hx
  | cons i is ih =>
      cases k with
      | zero =>
          have hhead : x = (s.instrumentTrial t i).exchange := by
            simpa [instrumentTrials] using hx.symm
          rw [hhead]
          simp only [instrumentTrial, InstrumentTrial.exchange, Exchange.ask, instrumentAnswer,
            instrumentRefusal, h.issuer, Option.bind_some]
          cases hrefusal : (s.provider e).refusal 0 (.instrument (s.instrument i).request) <;> rfl
      | succ k =>
          have hproviders := providers_tryInstrument s t i h.issuer
          have hknown' : (s.tryInstrument t i).providers.Has e := by
            rw [hproviders, Table.has_update]
            exact hknown
          have hprovider : (s.tryInstrument t i).provider e =
              (s.provider e).serve (s.instrumentTrial t i).exchange := by
            rw [provider, hproviders]
            exact Table.get_update_self _ _ hknown
          have htail := ih (h.tryInstrument i) hknown' (by simpa [instrumentTrials] using hx)
          rwa [hprovider, Provider.refusal_serve] at htail

end TryInstruments

end Store

/-- What has become of the instruments that were tried, from one table to another: each that was not
refused is bound to a new instrument of the meter `t`, which leads where `destination` says. -/
structure InstrumentsSettled (t : MeterRef) (destination : Destination) (xs : List InstrumentTrial)
    (table table' : Table .instrument Instrument) : Prop where
  refused : ∀ x ∈ xs, ∀ payload, x.answer = .error payload →
    table'.get x.instrument = table.get x.instrument
  bound : ∀ x ∈ xs, ∀ j, x.answer = .ok j →
    table'.get x.instrument = (table.get x.instrument).bind j
  issued : ∀ x ∈ xs, ∀ j, x.answer = .ok j →
    ¬ table.Has j ∧ table'.Has j ∧ table'.get j = ⟨x.request, t, destination⟩

namespace InstrumentsSettled

variable {t : MeterRef} {destination : Destination} {xs : List InstrumentTrial}
  {table table₁ table' : Table .instrument Instrument}

/-- Nothing of it is lost when other instruments are tried. -/
theorem trans (h : InstrumentsSettled t destination xs table table₁)
    (hsame : ∀ x ∈ xs, table'.get x.instrument = table₁.get x.instrument)
    (hnew : ∀ j, ¬ table.Has j → table₁.Has j → table'.Has j ∧ table'.get j = table₁.get j) :
    InstrumentsSettled t destination xs table table' where
  refused x hx payload hanswer := (hsame x hx).trans (h.refused x hx payload hanswer)
  bound x hx j hanswer := (hsame x hx).trans (h.bound x hx j hanswer)
  issued x hx j hanswer := by
    obtain ⟨hold, hj, hrow⟩ := h.issued x hx j hanswer
    obtain ⟨hj', hrow'⟩ := hnew j hold hj
    exact ⟨hold, hj', hrow'.trans hrow⟩

/-- Nothing of it hangs on what was tried before. -/
theorem of_later (h : InstrumentsSettled t destination xs table₁ table')
    (hsame : ∀ x ∈ xs, table₁.get x.instrument = table.get x.instrument)
    (hknown : ∀ i, table.Has i → table₁.Has i) :
    InstrumentsSettled t destination xs table table' where
  refused x hx payload hanswer := (h.refused x hx payload hanswer).trans (hsame x hx)
  bound x hx j hanswer := by rw [h.bound x hx j hanswer, hsame x hx]
  issued x hx j hanswer := by
    obtain ⟨hnew, hj, hrow⟩ := h.issued x hx j hanswer
    exact ⟨fun hold => hnew (hknown j hold), hj, hrow⟩

end InstrumentsSettled

/-- What the trials `xs` make of a table of instruments; nothing changes but what they settle. -/
structure InstrumentsTried (t : MeterRef) (destination : Destination) (xs : List InstrumentTrial)
    (table table' : Table .instrument Instrument) : Prop where
  known : ∀ i, table.Has i → table'.Has i
  others : ∀ i, table.Has i → i ∉ xs.map InstrumentTrial.instrument → table'.get i = table.get i
  settled : InstrumentsSettled t destination xs table table'

namespace InstrumentsTried

variable {t : MeterRef} {destination : Destination}
  {table table₁ table' : Table .instrument Instrument}

theorem nil (table : Table .instrument Instrument) :
    InstrumentsTried t destination [] table table where
  known _ h := h
  others _ _ _ := rfl
  settled := ⟨by simp, by simp, by simp⟩

/-- One trial that was refused: nothing changes. -/
theorem of_refused {x : InstrumentTrial} {payload : Payload} (hanswer : x.answer = .error payload)
    (htable : table' = table) : InstrumentsTried t destination [x] table table' := by
  subst htable
  have hrefused : ∀ y ∈ [x], ∀ j, y.answer ≠ .ok j := by simp [hanswer]
  refine ⟨fun k hk => hk, fun k _ _ => rfl, fun _ _ _ _ => rfl, ?_, ?_⟩
  · exact fun y hy j hj => absurd hj (hrefused y hy j)
  · exact fun y hy j hj => absurd hj (hrefused y hy j)

/-- One trial that was answered with a new instrument: the one that was tried is bound to it. -/
theorem of_answered {x : InstrumentTrial} (hanswer : x.answer = .ok table.next)
    (hknown : table.Has x.instrument)
    (htable : table' = (table.add ⟨x.request, t, destination⟩).update x.instrument
      fun i => i.bind table.next) : InstrumentsTried t destination [x] table table' := by
  have hne : x.instrument ≠ table.next := Table.ne_next_of_has hknown
  have hrow : ∀ k, table'.get k =
      if k = x.instrument then (table.get x.instrument).bind table.next
      else if k = table.next then ⟨x.request, t, destination⟩ else table.get k := by
    intro k
    have hhas := (Table.has_add table ⟨x.request, t, destination⟩ x.instrument).2 (.inl hknown)
    rw [htable, Table.get_update_ite _ _ hhas, Table.get_add]
    by_cases hk : k = x.instrument
    · subst hk
      rw [if_pos rfl, if_neg hne, if_pos rfl]
    · rw [if_neg hk, if_neg hk]
  have hhas : ∀ k, table'.Has k ↔ table.Has k ∨ k = table.next := by
    intro k
    rw [htable, Table.has_update, Table.has_add]
  have hsame : ∀ y ∈ [x], ∀ j, y.answer = .ok j → y = x ∧ j = table.next := by
    intro y hy j hj
    rw [List.mem_singleton.1 hy, hanswer] at hj
    exact ⟨List.mem_singleton.1 hy, (Except.ok.inj hj).symm⟩
  refine ⟨fun k hk => (hhas k).2 (.inl hk), ?_, ?_, ?_, ?_⟩
  · intro k hk hmem
    have hkx : k ≠ x.instrument := by simpa using hmem
    rw [hrow, if_neg hkx, if_neg (Table.ne_next_of_has hk)]
  · intro y hy payload hpayload
    rw [List.mem_singleton.1 hy, hanswer] at hpayload
    cases hpayload
  · intro y hy j hj
    obtain ⟨rfl, rfl⟩ := hsame y hy j hj
    exact (hrow y.instrument).trans (if_pos rfl)
  · intro y hy j hj
    obtain ⟨rfl, rfl⟩ := hsame y hy j hj
    refine ⟨fun hold => Table.ne_next_of_has hold rfl, (hhas _).2 (.inr rfl), ?_⟩
    rw [hrow, if_neg hne.symm, if_pos rfl]

/-- One trial after another, of instruments that differ. -/
theorem cons {x : InstrumentTrial} {xs : List InstrumentTrial}
    (h : InstrumentsTried t destination [x] table table₁)
    (h' : InstrumentsTried t destination xs table₁ table')
    (hknown : ∀ y ∈ x :: xs, table.Has y.instrument)
    (hdistinct : x.instrument ∉ xs.map InstrumentTrial.instrument) :
    InstrumentsTried t destination (x :: xs) table table' := by
  have hfirst : table'.get x.instrument = table₁.get x.instrument :=
    h'.others _ (h.known _ (hknown x List.mem_cons_self)) hdistinct
  have hlater : ∀ y ∈ xs, table₁.get y.instrument = table.get y.instrument := by
    intro y hy
    apply h.others _ (hknown y (List.mem_cons_of_mem _ hy))
    intro hmem
    have heq : y.instrument = x.instrument := by simpa using hmem
    exact hdistinct (List.mem_map.2 ⟨y, hy, heq⟩)
  have hhead : InstrumentsSettled t destination [x] table table' := by
    refine h.settled.trans (by simpa using hfirst) ?_
    intro j hold hj
    refine ⟨h'.known j hj, h'.others j hj ?_⟩
    -- a new instrument is none of those that are tried later, for they were there before
    intro hmem
    obtain ⟨y, hy, rfl⟩ := List.mem_map.1 hmem
    exact hold (hknown y (List.mem_cons_of_mem _ hy))
  have htail := h'.settled.of_later hlater h.known
  refine ⟨fun i hi => h'.known i (h.known i hi), ?_, ?_, ?_, ?_⟩
  · intro i hi hmem
    rw [List.map_cons, List.mem_cons, not_or] at hmem
    rw [h'.others i (h.known i hi) hmem.2, h.others i hi (by simpa using hmem.1)]
  · intro y hy payload hanswer
    rcases List.mem_cons.1 hy with rfl | hy
    · exact hhead.refused y List.mem_cons_self payload hanswer
    · exact htail.refused y hy payload hanswer
  · intro y hy j hanswer
    rcases List.mem_cons.1 hy with rfl | hy
    · exact hhead.bound y List.mem_cons_self j hanswer
    · exact htail.bound y hy j hanswer
  · intro y hy j hanswer
    rcases List.mem_cons.1 hy with rfl | hy
    · exact hhead.issued y List.mem_cons_self j hanswer
    · exact htail.issued y hy j hanswer

end InstrumentsTried

namespace Store

section TryInstruments

variable {s : Store} {e : ProviderRef} {t : MeterRef}

theorem instrumentsTried_tryInstrument {i : InstrumentRef} (hwaits : s.InstrumentWaits i) :
    InstrumentsTried t (s.meter t).freshDestination [s.instrumentTrial t i] s.instruments
      (s.tryInstrument t i).instruments := by
  have htable := instruments_tryInstrument s t hwaits
  cases hanswer : s.instrumentAnswer t (s.instrument i).request with
  | error payload =>
      rw [hanswer] at htable
      exact .of_refused hanswer htable
  | ok j =>
      rw [hanswer, instrumentAnswer_eq_next s hanswer] at htable
      have hnext : (s.instrumentTrial t i).answer = .ok s.instruments.next := by
        rw [← instrumentAnswer_eq_next s hanswer]
        exact hanswer
      exact .of_answered hnext hwaits.known htable

theorem freshDestination_tryInstrument (t' : MeterRef) (i : InstrumentRef) :
    ((s.tryInstrument t i).meter t').freshDestination = (s.meter t').freshDestination := by
  rw [meter, meters_tryInstrument, Table.get_update]
  split
  · unfold Meter.take
    split
    · unfold Meter.keepRequest Meter.noteCreated Meter.hold
      cases hbody : (s.meters.get t').body <;> simp [Meter.freshDestination, meter, hbody]
    · rfl
  · rfl

/-- Trying an instrument leaves the others waiting. -/
theorem InstrumentWaits.tryInstrument {i k : InstrumentRef} (hi : s.InstrumentWaits i)
    (hk : s.InstrumentWaits k) (hne : k ≠ i) : (s.tryInstrument t i).InstrumentWaits k := by
  have htried := instrumentsTried_tryInstrument (t := t) hi
  refine ⟨htried.known k hk.known, ?_⟩
  rw [instrument, htried.others k hk.known (by simpa [instrumentTrial] using hne)]
  exact hk.waiting

theorem map_instrument_instrumentTrials (is : List InstrumentRef) :
    (instrumentTrials t s is).map InstrumentTrial.instrument = is := by
  induction is generalizing s with
  | nil => rfl
  | cons i is ih =>
      rw [instrumentTrials, List.map_cons, ih]
      rfl

theorem instrumentsTried_tryInstruments {is : List InstrumentRef} (hnodup : is.Nodup)
    (hwaits : ∀ i ∈ is, s.InstrumentWaits i) :
    InstrumentsTried t (s.meter t).freshDestination (instrumentTrials t s is) s.instruments
      (s.tryInstruments t is).instruments := by
  induction is generalizing s with
  | nil => exact InstrumentsTried.nil s.instruments
  | cons i is ih =>
      obtain ⟨hi, hnodup⟩ := List.nodup_cons.1 hnodup
      have hhead := hwaits i List.mem_cons_self
      have htail : ∀ k ∈ is, (s.tryInstrument t i).InstrumentWaits k := by
        intro k hk
        exact hhead.tryInstrument (hwaits k (List.mem_cons_of_mem _ hk)) fun h => hi (h ▸ hk)
      have hrest := ih hnodup htail
      rw [freshDestination_tryInstrument] at hrest
      refine (instrumentsTried_tryInstrument hhead).cons hrest ?_ ?_
      · intro y hy
        have hmem :
            y.instrument ∈ (instrumentTrials t s (i :: is)).map InstrumentTrial.instrument :=
          List.mem_map.2 ⟨y, hy, rfl⟩
        rw [map_instrument_instrumentTrials] at hmem
        exact (hwaits _ hmem).known
      · rw [map_instrument_instrumentTrials]
        exact hi

end TryInstruments

end Store

end DeferredMetrics
