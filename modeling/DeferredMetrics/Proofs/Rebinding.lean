import DeferredMetrics.Proofs.Performing

set_option autoImplicit false

/-! # What an installation does

When a provider takes effect, everything that was issued before is bound to it in one pass over the
tree of deferred nodes. `Rebinding` says what the pass is, from the trials of the meters: which
calls are made and in which order, which of them are refused, what is bound to what, and that
nothing else changes. The backend may refuse any of its calls. The main statement is
`setProvider_rebinding`. -/

namespace DeferredMetrics

namespace Call

/-- The call carries a sample or asks for one. -/
def carriesSample : Call → Bool
  | .sample .. => true
  | .observe .. => true
  | .poll .. => true
  | _ => false

end Call

namespace MeterTrial

/-- The trial is of what was recorded in `s`: the meter was asked for with its own scope, and
unless the request was refused, each of its instruments in turn with its own kind, descriptor and
callback. -/
structure Faithful (s : Store) (x : MeterTrial) : Prop where
  scope : x.scope = (s.meter x.meter).scope
  tried : ∀ t, x.answer = .ok t → x.tried = (s.meter x.meter).instruments
  untried : ∀ payload, x.answer = .error payload → x.instruments = []
  requests : ∀ y ∈ x.instruments, y.request = (s.instrument y.instrument).request

/-- The calls of a trial, one by one. -/
theorem cases_of_mem_calls {p : ProviderRef} {x : MeterTrial} {c : Call} (h : c ∈ x.calls p) :
    c = .meter p x.scope ∨ ∃ t, x.answer = .ok t ∧
      (c = .meterReturned t ∨ c = .bindMeter x.meter t ∨ ∃ y ∈ x.instruments,
        c = .bindInstrument y.instrument t ∨ c = .instrument t y.request ∨
          ∃ j, c = .instrumentReturned j) := by
  rcases List.mem_cons.1 h with rfl | h
  · exact .inl rfl
  · cases hanswer : x.answer with
    | error payload =>
        rw [hanswer] at h
        cases h
    | ok t =>
        simp only [hanswer, List.mem_cons, List.mem_flatMap] at h
        refine .inr ⟨t, rfl, h.imp_right fun h => h.imp_right ?_⟩
        rintro ⟨y, hy, hc⟩
        refine ⟨y, hy, ?_⟩
        rcases List.mem_cons.1 hc with rfl | hc
        · exact .inl rfl
        rcases List.mem_cons.1 hc with rfl | hc
        · exact .inr (.inl rfl)
        cases hy_answer : y.answer with
        | error payload =>
            rw [hy_answer] at hc
            cases hc
        | ok j =>
            rw [hy_answer] at hc
            exact .inr (.inr ⟨j, List.mem_singleton.1 hc⟩)

/-- No trial carries a sample. -/
theorem not_carriesSample {p : ProviderRef} {x : MeterTrial} {c : Call} (h : c ∈ x.calls p) :
    c.carriesSample = false := by
  rcases cases_of_mem_calls h with rfl | ⟨t, _, rfl | rfl | ⟨y, _, rfl | rfl | ⟨j, rfl⟩⟩⟩ <;> rfl

/-- No trial tells a provider its target. -/
theorem bindProvider_not_mem_calls {p d q : ProviderRef} {x : MeterTrial} :
    Call.bindProvider d q ∉ x.calls p := by
  intro h
  rcases cases_of_mem_calls h with h | ⟨t, _, h | h | ⟨y, _, h | h | ⟨j, h⟩⟩⟩ <;> cases h

/-- A trial tells no meter its target but the one that is tried, and that what was returned for it.
-/
theorem of_bindMeter_mem_calls {p : ProviderRef} {m t : MeterRef} {x : MeterTrial}
    (h : Call.bindMeter m t ∈ x.calls p) : m = x.meter ∧ x.answer = .ok t := by
  rcases cases_of_mem_calls h with h | ⟨t', hanswer, h | h | ⟨y, _, h | h | ⟨j, h⟩⟩⟩ <;> cases h
  exact ⟨rfl, hanswer⟩

end MeterTrial

namespace Store

section Faithful

variable {s : Store} {p e : ProviderRef} {t : MeterRef}

theorem request_of_mem_instrumentTrials {is : List InstrumentRef} (hnodup : is.Nodup)
    (hwaits : ∀ i ∈ is, s.InstrumentWaits i) {y : InstrumentTrial}
    (hy : y ∈ instrumentTrials t s is) : y.request = (s.instrument y.instrument).request := by
  induction is generalizing s with
  | nil => exact absurd hy List.not_mem_nil
  | cons i is ih =>
      obtain ⟨hi, hnodup⟩ := List.nodup_cons.1 hnodup
      have hhead := hwaits i List.mem_cons_self
      rcases List.mem_cons.1 hy with rfl | hy
      · rfl
      · have hmem : y.instrument ∈ is := by
          rw [← map_instrument_instrumentTrials (s := s.tryInstrument t i) (t := t) is]
          exact List.mem_map.2 ⟨y, hy, rfl⟩
        have hne : y.instrument ≠ i := fun h => hi (h ▸ hmem)
        have hwaiting := hwaits y.instrument (List.mem_cons_of_mem _ hmem)
        have hsame := (instrumentsTried_tryInstrument (t := t) hhead).others y.instrument
          hwaiting.known (by simpa [instrumentTrial] using hne)
        have hrest := ih hnodup (fun k hk => hhead.tryInstrument
          (hwaits k (List.mem_cons_of_mem _ hk)) fun h => hi (h ▸ hk)) hy
        rw [hrest]
        exact congrArg Instrument.request hsame

/-- Trying a meter is trying what was recorded. -/
theorem faithful_meterTrial {m : MeterRef} (hwaits : s.MeterWaits m) :
    (s.meterTrial p e m).Faithful s := by
  cases h : s.meterAnswer e (s.meter m).scope with
  | error payload =>
      rw [meterTrial_of_error h]
      exact ⟨rfl, by simp, fun _ _ => rfl, by simp⟩
  | ok t =>
      have hsame : ((s.askMeter p e (s.meter m).scope).note (.bindMeter m t)).instruments =
          s.instruments := instruments_askMeter s p e _
      rw [meterTrial_of_ok h]
      refine ⟨rfl, fun _ _ => map_instrument_instrumentTrials _, by simp, fun y hy => ?_⟩
      rw [request_of_mem_instrumentTrials hwaits.nodup
        (fun i hi => (hwaits.instruments i hi).1.congr hsame) hy]
      exact congrArg (fun table => (Table.get table y.instrument).request) hsame

/-- What is tried after another meter is what was recorded before it. -/
theorem faithful_of_tryMeter {m : MeterRef} (hm : s.MeterWaits m) {x : MeterTrial}
    (hx : s.MeterWaits x.meter) (hne : x.meter ≠ m) (h : x.Faithful (s.tryMeter p e m)) :
    x.Faithful s := by
  have htried := metersTried_tryMeter (p := p) (e := e) hm
  have hmeter := meter_tryMeter (p := p) (e := e) hm hx.known hne
  obtain ⟨hscope, htrieds, huntried, hrequests⟩ := h
  rw [hmeter] at hscope htrieds
  refine ⟨hscope, htrieds, huntried, fun y hy => ?_⟩
  have hmem : y.instrument ∈ (s.meter x.meter).instruments := by
    cases hanswer : x.answer with
    | error payload =>
        rw [huntried payload hanswer] at hy
        cases hy
    | ok t =>
        rw [← htrieds t hanswer]
        exact List.mem_map.2 ⟨y, hy, rfl⟩
  obtain ⟨hwaiting, hissuer⟩ := hx.instruments _ hmem
  rw [hrequests y hy]
  refine congrArg Instrument.request (htried.otherInstruments _ hwaiting.known fun z hz hmem' => ?_)
  rw [List.mem_singleton.1 hz] at hmem'
  -- the instrument would stand under both meters
  have hissuer' := (hm.instruments _ (mem_instruments_of_mem_tried hmem')).2
  exact hne (hissuer.symm.trans hissuer')

theorem faithful_meterTrials {ms : List MeterRef} (hwait : s.AllWait ms) {x : MeterTrial}
    (hx : x ∈ meterTrials p e s ms) : x.Faithful s := by
  induction ms generalizing s with
  | nil => exact absurd hx List.not_mem_nil
  | cons m ms ih =>
      have hm := hwait.waits m List.mem_cons_self
      rcases List.mem_cons.1 hx with rfl | hx
      · exact faithful_meterTrial hm
      · have hmem := mem_of_mem_meterTrials hx
        have hne : x.meter ≠ m := fun h => (List.nodup_cons.1 hwait.nodup).1 (h ▸ hmem)
        exact faithful_of_tryMeter hm (hwait.waits _ (List.mem_cons_of_mem _ hmem)) hne
          (ih hwait.tail hx)

end Faithful

/-! What has become of the meters and instruments that were tried. -/

section Outcomes

variable {s : Store} {p e : ProviderRef} {ms : List MeterRef} {x : MeterTrial}

theorem meterTarget_of_mem_meterTrials (hwait : s.AllWait ms) (hx : x ∈ meterTrials p e s ms) :
    ((s.tryMeters p e ms).meter x.meter).target? = x.answer.toOption := by
  have htried := metersTried_tryMeters (p := p) (e := e) hwait
  have hwaits := hwait.waits _ (mem_of_mem_meterTrials hx)
  cases hanswer : x.answer with
  | error payload =>
      rw [(htried.refused x hx payload hanswer).1]
      exact hwaits.target?
  | ok t =>
      rw [htried.bound x hx t hanswer]
      exact hwaits.target?_bind t

theorem instrumentTarget_of_mem_meterTrials (hwait : s.AllWait ms)
    (hx : x ∈ meterTrials p e s ms) {y : InstrumentTrial} (hy : y ∈ x.instruments) :
    ((s.tryMeters p e ms).instrument y.instrument).target? = y.answer.toOption := by
  have htried := metersTried_tryMeters (p := p) (e := e) hwait
  have hmem := mem_instruments_of_mem_meterTrials hwait hx (List.mem_map.2 ⟨y, hy, rfl⟩)
  have hwaits := ((hwait.waits _ (mem_of_mem_meterTrials hx)).instruments _ hmem).1
  cases hx_answer : x.answer with
  | error payload =>
      rw [(htried.refused x hx payload hx_answer).2] at hy
      cases hy
  | ok t =>
      have hsettled := htried.instruments x hx t hx_answer
      cases hanswer : y.answer with
      | error payload =>
          rw [instrument, hsettled.refused y hy payload hanswer]
          exact hwaits.target?
      | ok j =>
          rw [instrument, hsettled.bound y hy j hanswer]
          exact hwaits.target?_bind j

/-- The instruments of a meter that was refused are not tried. -/
theorem instrumentTarget_of_refused (hwait : s.AllWait ms) (hx : x ∈ meterTrials p e s ms)
    {payload : Payload} (hanswer : x.answer = .error payload) {i : InstrumentRef}
    (hi : i ∈ (s.meter x.meter).instruments) :
    ((s.tryMeters p e ms).instrument i).target? = none := by
  have htried := metersTried_tryMeters (p := p) (e := e) hwait
  obtain ⟨hwaits, hissuer⟩ := (hwait.waits _ (mem_of_mem_meterTrials hx)).instruments i hi
  rw [htried.otherInstruments i hwaits.known fun z hz hmem => ?_]
  · exact hwaits.target?
  · -- the instrument would be tried with its own meter, which was refused
    have hissuer' := ((hwait.waits _ (mem_of_mem_meterTrials hz)).instruments i
      (mem_instruments_of_mem_meterTrials hwait hz hmem)).2
    have hnodup : ((meterTrials p e s ms).map MeterTrial.meter).Nodup := by
      rw [map_meter_meterTrials]
      exact hwait.nodup
    have heq : z = x := List.inj_on_of_nodup_map hnodup hz hx (hissuer'.symm.trans hissuer)
    rw [heq, MeterTrial.tried, (htried.refused x hx payload hanswer).2] at hmem
    cases hmem

theorem issued_of_mem_meterTrials (hwait : s.AllWait ms) (hx : x ∈ meterTrials p e s ms)
    {t : MeterRef} (hanswer : x.answer = .ok t) :
    ¬ s.meters.Has t ∧ ((s.tryMeters p e ms).meter t).scope = x.scope ∧
      ((s.tryMeters p e ms).meter t).issuer = some e := by
  obtain ⟨hnew, _, hrow⟩ := (metersTried_tryMeters hwait).issued x hx t hanswer
  rw [hrow, Meter.scope_foldl_take, Meter.issuer_foldl_take]
  exact ⟨hnew, rfl, rfl⟩

theorem issuedInstrument_of_mem_meterTrials (hwait : s.AllWait ms)
    (hx : x ∈ meterTrials p e s ms) {t : MeterRef} (hanswer : x.answer = .ok t)
    {y : InstrumentTrial} (hy : y ∈ x.instruments) {j : InstrumentRef}
    (hy_answer : y.answer = .ok j) :
    ¬ s.instruments.Has j ∧ ((s.tryMeters p e ms).instrument j).request = y.request ∧
      ((s.tryMeters p e ms).instrument j).issuer = t := by
  have hsettled := (metersTried_tryMeters hwait).instruments x hx t hanswer
  obtain ⟨hnew, _, hrow⟩ := hsettled.issued y hy j hy_answer
  rw [instrument, hrow]
  exact ⟨hnew, rfl, rfl⟩

end Outcomes

end Store

/-- The installation of `p`, whose chain ends at `e`, in the registration `r` has led from `s` to
`s'`, and `xs` are the trials of the meters of the deferred provider. -/
structure Rebinding (s : Store) (r : RegistrationRef) (p e : ProviderRef) (xs : List MeterTrial)
    (s' : Store) : Prop where
  /-- Each meter is tried once, in the order of creation. -/
  meters : xs.map MeterTrial.meter = (s.provider (s.registration r).deferred).meters
  nodup : (xs.map MeterTrial.meter).Nodup
  /-- Each is tried as it was recorded, and unless it is refused, each of its instruments, in
  order. -/
  faithful : ∀ x ∈ xs, x.Faithful s
  /-- No call is made but those of the trials. -/
  calls : s'.calls.toList = s.calls.toList ++
    .bindProvider (s.registration r).deferred p :: xs.flatMap (MeterTrial.calls p)
  silent : ∀ c ∈ xs.flatMap (MeterTrial.calls p), c.carriesSample = false
  /-- The backend refuses what it refuses, by the number of calls before. -/
  refusals : ∀ k x, (xs.flatMap MeterTrial.exchanges)[k]? = some x →
    x.refusal? = (s.provider e).refusal k x.ask
  /-- The registration has the provider, and its gate has fired. -/
  registration : s'.registration r = { s.registration r with provider := some p, gate := .passed }
  target : (s'.provider (s.registration r).deferred).target? = some p
  /-- A meter is bound to what was returned for it, if something was. -/
  meterTarget : ∀ x ∈ xs, (s'.meter x.meter).target? = x.answer.toOption
  /-- An instrument is bound to what was returned for it, if something was. -/
  instrumentTarget : ∀ x ∈ xs, ∀ y ∈ x.instruments,
    (s'.instrument y.instrument).target? = y.answer.toOption
  /-- The instruments of a meter that was refused stay unbound. -/
  skipped : ∀ x ∈ xs, ∀ payload, x.answer = .error payload →
    ∀ i ∈ (s.meter x.meter).instruments, (s'.instrument i).target? = none
  issuedMeter : ∀ x ∈ xs, ∀ t, x.answer = .ok t →
    ¬ s.meters.Has t ∧ (s'.meter t).scope = x.scope ∧ (s'.meter t).issuer = some e
  issuedInstrument : ∀ x ∈ xs, ∀ t, x.answer = .ok t → ∀ y ∈ x.instruments, ∀ j, y.answer = .ok j →
    ¬ s.instruments.Has j ∧ (s'.instrument j).request = y.request ∧ (s'.instrument j).issuer = t
  otherProvider : ∀ q, q ≠ (s.registration r).deferred → q ≠ e → s'.provider q = s.provider q
  otherMeter : ∀ m, s.meters.Has m → m ∉ xs.map MeterTrial.meter → s'.meter m = s.meter m
  otherInstrument : ∀ i, s.instruments.Has i → (∀ x ∈ xs, i ∉ x.tried) →
    s'.instrument i = s.instrument i
  callbacks : s'.callbacks = s.callbacks

namespace Rebinding

variable {s : Store} {r : RegistrationRef} {p e : ProviderRef}

/-- Trying the meters of a provider that has just got its target, and finishing. -/
theorem of_tryMeters (h : Sound s) (hr : s.registrations.Has r) (hp : s.providers.Has p)
    (hwait : s.ProviderWaits (s.registration r).deferred) (he : s.providerEnd? p = some e)
    (hne : e ≠ (s.registration r).deferred) {m : Message} {s' : Store}
    (hshown : Shown (((s.assign r p).tryMeters p e
      (s.provider (s.registration r).deferred).meters).log m) s') (discovered : Bool) :
    Rebinding s r p e (Store.meterTrials p e (s.assign r p)
      (s.provider (s.registration r).deferred).meters) (s'.finish r discovered) := by
  obtain ⟨hready, _⟩ := Store.ready_assign hwait he hne
  let ms := (s.provider (s.registration r).deferred).meters
  have htried := Store.metersTried_tryMeters (p := p) (e := e) hready
  have hmap : (Store.meterTrials p e (s.assign r p) ms).map MeterTrial.meter = ms :=
    Store.map_meter_meterTrials ms
  have haside := Aside.tryMeters (s.assign r p) p e ms
  have hproviders := Store.providers_tryMeters (p := p) (e := e) hready
  -- what is finished has the objects of the store in which the meters were tried
  have hmeter : ∀ k, (s'.finish r discovered).meter k =
      ((s.assign r p).tryMeters p e ms).meter k := fun k => hshown.meter k
  have hinstrument : ∀ i, (s'.finish r discovered).instrument i =
      ((s.assign r p).tryMeters p e ms).instrument i := fun i => hshown.instrument i
  have hprovider : ∀ q, (s'.finish r discovered).provider q =
      ((s.assign r p).tryMeters p e ms).provider q := fun q => hshown.provider q
  have hsame : ∀ q, q ≠ (s.registration r).deferred → (s.assign r p).provider q = s.provider q :=
    fun q hq => Table.get_update_of_ne _ _ (Ne.symm hq)
  constructor
  case meters => exact hmap
  case nodup =>
    rw [hmap]
    exact hwait.meters.nodup
  case faithful =>
    intro x hx
    have hfaithful := Store.faithful_meterTrials hready hx
    exact ⟨hfaithful.scope, hfaithful.tried, hfaithful.untried, hfaithful.requests⟩
  case calls =>
    show s'.calls.toList = _
    rw [hshown.calls]
    show ((s.assign r p).tryMeters p e _).calls.toList = _
    rw [Store.calls_tryMeters hready]
    show (s.calls.push _).toList ++ _ = _
    rw [Array.toList_push, List.append_assoc]
    rfl
  case silent =>
    intro c hc
    obtain ⟨x, _, hx⟩ := List.mem_flatMap.1 hc
    exact MeterTrial.not_carriesSample hx
  case refusals =>
    intro k x hx
    have hknown : (s.assign r p).providers.Has e :=
      (Table.has_update _ _ _ _).2 (h.bindings.has_end hp he)
    rw [Store.refusals_meterTrials hready hknown hx, hsame e hne]
  case registration =>
    have hregistrations : s'.registrations = (s.writeProvider r p).registrations :=
      hshown.registrations.trans haside.registrations
    exact (Store.registration_finish r hr hregistrations discovered).trans (if_pos rfl)
  case target =>
    rw [hprovider]
    show (Table.get (Store.tryMeters _ _ _ _).providers _).target? = _
    rw [hproviders, Table.get_update, if_neg (fun h => hne h.1.symm)]
    exact (Store.target?_assign (h.owners.known r hr) (h.owners.deferred r hr) _).trans (if_pos rfl)
  case meterTarget =>
    intro x hx
    rw [hmeter]
    exact Store.meterTarget_of_mem_meterTrials hready hx
  case instrumentTarget =>
    intro x hx y hy
    rw [hinstrument]
    exact Store.instrumentTarget_of_mem_meterTrials hready hx hy
  case skipped =>
    intro x hx payload hanswer i hi
    rw [hinstrument]
    exact Store.instrumentTarget_of_refused hready hx hanswer hi
  case issuedMeter =>
    intro x hx t hanswer
    rw [hmeter]
    exact Store.issued_of_mem_meterTrials hready hx hanswer
  case issuedInstrument =>
    intro x hx t hanswer y hy j hy_answer
    rw [hinstrument]
    exact Store.issuedInstrument_of_mem_meterTrials hready hx hanswer hy hy_answer
  case otherProvider =>
    intro q hq hqe
    rw [hprovider]
    show Table.get (Store.tryMeters _ _ _ _).providers q = _
    rw [hproviders, Table.get_update_of_ne _ _ (Ne.symm hqe)]
    exact hsame q hq
  case otherMeter =>
    intro k hk hnot
    rw [hmeter]
    exact htried.otherMeters k hk hnot
  case otherInstrument =>
    intro i hi hnot
    rw [hinstrument]
    exact htried.otherInstruments i hi hnot
  case callbacks => exact hshown.callbacks.trans haside.callbacks

/-- The installation of a provider whose chain ends elsewhere. -/
theorem of_bindProvider (h : Sound s) (hr : s.registrations.Has r) (hp : s.providers.Has p)
    (hwait : s.ProviderWaits (s.registration r).deferred) (he : s.providerEnd? p = some e)
    (hne : e ≠ (s.registration r).deferred) {s' : Store}
    (hshown : Shown ((s.writeProvider r p).bindProvider (s.registration r).deferred p e) s')
    (discovered : Bool) : ∃ xs, Rebinding s r p e xs (s'.finish r discovered) := by
  obtain ⟨m, _, heq⟩ := Store.bindProvider_eq_tryMeters s r p e
  rw [heq] at hshown
  exact ⟨_, of_tryMeters h hr hp hwait he hne hshown discovered⟩

end Rebinding

/-- Offering a provider to a registration that has none, in any store that can be reached, takes
effect, however the backend behind the provider panics, and does exactly what `Rebinding` says. -/
theorem setProvider_rebinding {s : Store} {r : RegistrationRef} {p e : ProviderRef}
    (h : Reachable s) (hr : s.registrations.Has r) (hp : s.providers.Has p)
    (hgate : (s.gate r).fired = false)
    (htarget : (s.provider (s.registration r).deferred).target? = none)
    (he : s.providerEnd? p = some e) (hne : e ≠ (s.registration r).deferred) :
    ∃ xs s', Op.setProvider r p s = .ok true s' ∧ Rebinding s r p e xs s' := by
  have hsound := reachable_sound h
  have hwait :=
    hsound.providerWaits (hsound.owners.known r hr) (hsound.owners.deferred r hr) htarget
  obtain ⟨s', hs', hrun⟩ := Op.install_run false hgate hwait he hne
  obtain ⟨xs, hrebinding⟩ := Rebinding.of_bindProvider hsound hr hp hwait he hne hs'.shown false
  exact ⟨xs, _, hrun, hrebinding⟩

/-- A registration with two meters, and a backend that refuses one of them and an instrument of the
other. -/
def Store.poisoned : Store :=
  Scenario.after 1 none (.initial .empty)
    [.registration "r" none (.settings []) none,
      .getMeter "r" "m" (.named "kept"),
      .getMeter "r" "n" (.named "refused"),
      .create "m" "i" .counter (.named "hits") none,
      .create "m" "j" .histogram (.named "load") none,
      .provider "p" (.probe [("refused", .text "down")] [("hits", .text "full")] none)]

theorem reachable_poisoned : Reachable .poisoned := .after _ _ (.initial _) (by decide)

/-- A backend that refuses every other call, whatever is asked for. -/
def fickle : Provider :=
  let refuses (n : Nat) : Option Payload := if n % 2 = 1 then some (.text "busy") else none
  .freshRecording (some ⟨"q", none, fun n _ => refuses n, fun n _ => refuses n⟩)

/-- A registration with two meters of one scope and two counters of one name, and that backend. -/
def Store.twins : Store :=
  (Op.makeNamed "q" fickle).left <| Scenario.after 1 none (.initial .empty)
    [.registration "r" none (.settings []) none,
      .getMeter "r" "m" (.named "same"),
      .create "m" "i" .counter (.named "hits") none,
      .create "m" "j" .counter (.named "hits") none,
      .getMeter "r" "n" (.named "same")]

theorem reachable_twins : Reachable .twins :=
  .backend "q" (.after _ _ (.initial _) (by decide)) rfl rfl

theorem setProvider_rebinding_twins :
    ∃ xs s', Op.setProvider ⟨0⟩ ⟨1⟩ .twins = .ok true s' ∧ Rebinding .twins ⟨0⟩ ⟨1⟩ ⟨1⟩ xs s' :=
  setProvider_rebinding reachable_twins (by decide +kernel) (by decide +kernel)
    (by decide +kernel) (by decide +kernel) (by decide +kernel) (by decide +kernel)

end DeferredMetrics
