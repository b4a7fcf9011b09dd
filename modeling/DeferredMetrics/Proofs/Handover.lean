import DeferredMetrics.Proofs.Live
import DeferredMetrics.Proofs.Rebinding
import DeferredMetrics.Proofs.Waiting

set_option autoImplicit false

/-! # A waiting program goes live

When the awaited provider takes effect, every meter of the deferred provider is replaced by one
that has been asked for the same instruments in the same order, and the meters are replaced in
order (`replaced_tryMeters`). So the ledger that told what the deferred provider had been asked for
tells what the new one keeps: it is not changed by the installation (`Waiting.setProvider`). -/

namespace DeferredMetrics

/-! ## What a plain provider has served -/

/-- The meter that was returned, if one was. -/
def Exchange.returned? : Exchange → Option MeterRef
  | .meter _ (.ok t) => some t
  | _ => none

namespace Provider

variable {p : Provider}

theorem Plain.serve (h : p.Plain) (x : Exchange) :
    (p.serve x).Plain ∧ (p.serve x).meters = p.meters ++ x.returned?.toList := by
  have hsame : p.Plain ∧ p.meters = p.meters ++ [] := ⟨h, (List.append_nil _).symm⟩
  cases x with
  | meter scope answer =>
      cases answer with
      | ok t =>
          rw [h.serve_meter scope t]
          exact ⟨h.hold t, h.meters_hold t⟩
      | error payload =>
          have hprobed : p.serve (.meter scope (.error payload)) = p.probed := rfl
          rw [hprobed, h.probed]
          exact hsame
  | instrument request answer =>
      cases answer with
      | ok i =>
          rw [h.serve_instrument request i]
          exact hsame
      | error payload =>
          have hprobed : p.serve (.instrument request (.error payload)) = p.probed := rfl
          rw [hprobed, h.probed]
          exact hsame

theorem Plain.foldl_serve (h : p.Plain) (xs : List Exchange) :
    (xs.foldl Provider.serve p).Plain ∧
      (xs.foldl Provider.serve p).meters = p.meters ++ xs.filterMap Exchange.returned? := by
  induction xs generalizing p with
  | nil => exact ⟨h, (List.append_nil _).symm⟩
  | cons x xs ih =>
      obtain ⟨hplain, hmeters⟩ := h.serve x
      obtain ⟨hplain', hmeters'⟩ := ih hplain
      refine ⟨hplain', ?_⟩
      rw [List.foldl_cons, hmeters', hmeters, List.append_assoc]
      cases hx : x.returned? <;> simp [hx]

end Provider

/-! ## Trials of a plain provider -/

/-- A list whose members give related things corresponds to what they give. -/
theorem Places.map_filterMap {α β γ : Type} {R : α → β → Prop} {xs : List γ} {f : γ → α}
    {g : γ → Option β} (h : ∀ x ∈ xs, ∃ y, g x = some y ∧ R (f x) y) :
    Places R (xs.map f) (xs.filterMap g) := by
  induction xs with
  | nil => exact fun _ => .none
  | cons x xs ih =>
      obtain ⟨y, hy, hxy⟩ := h x List.mem_cons_self
      rw [List.map_cons, List.filterMap_cons_some hy]
      intro k
      cases k with
      | zero => exact .some hxy
      | succ k => exact ih (fun z hz => h z (List.mem_cons_of_mem x hz)) k

/-- Of the exchanges of a trial only the first returns a meter. -/
theorem MeterTrial.returned?_exchanges (x : MeterTrial) :
    x.exchanges.filterMap Exchange.returned? = x.answer.toOption.toList := by
  have hinstruments :
      (x.instruments.map InstrumentTrial.exchange).filterMap Exchange.returned? = [] := by
    rw [List.filterMap_eq_nil_iff]
    intro y hy
    obtain ⟨i, _, rfl⟩ := List.mem_map.1 hy
    rfl
  unfold exchanges
  rw [List.filterMap_cons, hinstruments]
  cases x.answer <;> rfl

/-- Instruments that were returned are what a recording meter has been asked for. -/
theorem Meter.foldl_take_recording {scope : Scope} {issuer : Option ProviderRef}
    (created : List (Kind × Descriptor)) {events : Array Recorded} {xs : List InstrumentTrial}
    (h : ∀ x ∈ xs, ∃ j, x.answer = .ok j) :
    xs.foldl (fun m x => m.take x.request x.answer)
        (⟨scope, issuer, .recording ⟨created, events⟩⟩ : Meter) =
      ⟨scope, issuer, .recording
        ⟨created ++ xs.map fun x => (x.request.kind, x.request.descriptor), events⟩⟩ := by
  induction xs generalizing created with
  | nil => simp
  | cons x xs ih =>
      obtain ⟨j, hj⟩ := h x List.mem_cons_self
      have hrest := ih (created ++ [(x.request.kind, x.request.descriptor)]) fun y hy =>
        h y (List.mem_cons_of_mem x hy)
      rw [List.foldl_cons, hj, List.map_cons]
      rw [List.append_assoc, List.singleton_append] at hrest
      exact hrest

namespace Store

/-- The meter `t` of the provider `p` in `s'` is what the meter `m` was asked for in `s`, and the
instruments of `m` have been bound to its instruments. -/
structure Replaced (p : ProviderRef) (s s' : Store) (m t : MeterRef) : Prop where
  known : s'.meters.Has t
  target : (s'.meter m).target? = some t
  row : s'.meter t = ⟨(s.meter m).scope, some p, .recording ⟨(s.meter m).instruments.map fun i =>
    ((s.instrument i).request.kind, (s.instrument i).request.descriptor), #[]⟩⟩
  instruments : ∀ i ∈ (s.meter m).instruments, ∃ j, s'.instruments.Has j ∧
    (s'.instrument i).target? = some j ∧ s'.instrument j = ⟨(s.instrument i).request, t, .log⟩

section TryMeters

variable {s : Store} {p e : ProviderRef} {ms : List MeterRef}

/-- A plain provider refuses nothing. -/
theorem answers_of_plain (hwait : s.AllWait ms) (he : s.providers.Has e)
    (hplain : (s.provider e).Plain)
    {x : MeterTrial} (hx : x ∈ meterTrials p e s ms) :
    (∃ t, x.answer = .ok t) ∧ ∀ y ∈ x.instruments, ∃ j, y.answer = .ok j := by
  have haccepts : ∀ y ∈ x.exchanges, y.refusal? = none := by
    intro y hy
    have hmem : y ∈ (meterTrials p e s ms).flatMap MeterTrial.exchanges :=
      List.mem_flatMap.2 ⟨x, hx, hy⟩
    obtain ⟨k, hk⟩ := List.mem_iff_getElem?.1 hmem
    rw [refusals_meterTrials hwait he hk]
    exact hplain.refusal k y.ask
  refine ⟨?_, fun y hy => ?_⟩
  · have hmeter := haccepts _ List.mem_cons_self
    cases hanswer : x.answer with
    | ok t => exact ⟨t, rfl⟩
    | error payload =>
        rw [hanswer] at hmeter
        cases hmeter
  · have hinstrument := haccepts y.exchange (List.mem_cons_of_mem _ (List.mem_map.2 ⟨y, hy, rfl⟩))
    unfold InstrumentTrial.exchange at hinstrument
    cases hanswer : y.answer with
    | ok j => exact ⟨j, rfl⟩
    | error payload =>
        rw [hanswer] at hinstrument
        cases hinstrument

/-- No meter is returned twice. -/
theorem nodup_answers (hwait : s.AllWait ms) :
    ((meterTrials p e s ms).filterMap fun x => x.answer.toOption).Nodup := by
  induction ms generalizing s with
  | nil => exact .nil
  | cons m ms ih =>
      have hm := hwait.waits m List.mem_cons_self
      have hrest := ih (hwait.tail (p := p) (e := e))
      rw [meterTrials]
      cases hanswer : (s.meterTrial p e m).answer with
      | error payload => rwa [List.filterMap_cons_none (by rw [hanswer]; rfl)]
      | ok t =>
          rw [List.filterMap_cons_some (by rw [hanswer]; rfl)]
          refine List.nodup_cons.2 ⟨fun hmem => ?_, hrest⟩
          obtain ⟨x, hx, hreturned⟩ := List.mem_filterMap.1 hmem
          have hknown := ((metersTried_tryMeter (p := p) (e := e) hm).issued _
            List.mem_cons_self t hanswer).2.1
          cases hx_answer : x.answer with
          | error payload =>
              rw [hx_answer] at hreturned
              cases hreturned
          | ok t' =>
              rw [hx_answer] at hreturned
              cases hreturned
              exact ((metersTried_tryMeters hwait.tail).issued x hx t hx_answer).1 hknown

/-- A recording provider of which nobody has asked anything replaces the meter of each trial. -/
theorem replaced_of_mem_meterTrials (hwait : s.AllWait ms) (he : s.providers.Has e)
    (hfresh : s.provider e = .freshRecording none) {x : MeterTrial}
    (hx : x ∈ meterTrials p e s ms) :
    ∃ t, x.answer.toOption = some t ∧ s.Replaced e (s.tryMeters p e ms) x.meter t := by
  have hplain : (s.provider e).Plain := by
    rw [hfresh]
    rfl
  have htried := metersTried_tryMeters (p := p) (e := e) hwait
  obtain ⟨⟨t, hanswer⟩, hinstruments⟩ := answers_of_plain hwait he hplain hx
  obtain ⟨hscope, htries, _, hrequests⟩ := faithful_meterTrials hwait hx
  replace htries := htries t hanswer
  obtain ⟨_, hknown, hrow⟩ := htried.issued x hx t hanswer
  have hwaits := hwait.waits x.meter (mem_of_mem_meterTrials hx)
  refine ⟨t, by rw [hanswer]; rfl, hknown, ?_, ?_, ?_⟩
  · rw [htried.bound x hx t hanswer]
    exact hwaits.target?_bind t
  · have hcreated : x.instruments.map (fun y => (y.request.kind, y.request.descriptor)) =
        (s.meter x.meter).instruments.map fun i =>
          ((s.instrument i).request.kind, (s.instrument i).request.descriptor) := by
      rw [← htries, MeterTrial.tried, List.map_map]
      refine List.map_congr_left fun y hy => ?_
      rw [hrequests y hy]
      rfl
    rw [hrow, hfresh, ← hscope, ← hcreated]
    exact Meter.foldl_take_recording [] hinstruments
  · intro i hi
    have hmem : i ∈ x.tried := htries ▸ hi
    obtain ⟨y, hy, rfl⟩ := List.mem_map.1 hmem
    obtain ⟨j, hj⟩ := hinstruments y hy
    have hsettled := htried.instruments x hx t hanswer
    obtain ⟨_, hhas, hnew⟩ := hsettled.issued y hy j hj
    refine ⟨j, hhas, ?_, ?_⟩
    · rw [instrument, hsettled.bound y hy j hj]
      exact (hwaits.instruments _ hi).1.target?_bind j
    · rw [instrument, hnew, hrequests y hy, hfresh]
      rfl

/-- It replaces the meters that are tried in order, and has no others then. -/
theorem replaced_tryMeters (hwait : s.AllWait ms) (he : s.providers.Has e)
    (hfresh : s.provider e = .freshRecording none) :
    ((s.tryMeters p e ms).provider e).Plain ∧ ((s.tryMeters p e ms).provider e).meters.Nodup ∧
      Places (s.Replaced e (s.tryMeters p e ms)) ms ((s.tryMeters p e ms).provider e).meters := by
  have hplain : (s.provider e).Plain := by
    rw [hfresh]
    rfl
  have hprovider : (s.tryMeters p e ms).provider e =
      ((meterTrials p e s ms).flatMap MeterTrial.exchanges).foldl Provider.serve
        (s.provider e) := by
    rw [provider, providers_tryMeters hwait]
    exact Table.get_update_self _ _ he
  obtain ⟨hserved, hmeters⟩ := hplain.foldl_serve
    ((meterTrials p e s ms).flatMap MeterTrial.exchanges)
  have hlist : ((s.tryMeters p e ms).provider e).meters =
      (meterTrials p e s ms).filterMap fun x => x.answer.toOption := by
    rw [hprovider, hmeters, hfresh, List.filterMap_flatMap]
    simp only [MeterTrial.returned?_exchanges]
    exact (List.filterMap_eq_flatMap_toList _ _).symm
  have hplaces : Places (s.Replaced e (s.tryMeters p e ms))
      ((meterTrials p e s ms).map MeterTrial.meter)
      ((meterTrials p e s ms).filterMap fun x => x.answer.toOption) :=
    .map_filterMap fun x hx => replaced_of_mem_meterTrials hwait he hfresh hx
  rw [map_meter_meterTrials] at hplaces
  refine ⟨?_, ?_, ?_⟩
  · rw [hprovider]
    exact hserved
  · rw [hlist]
    exact nodup_answers hwait
  · rw [hlist]
    exact hplaces

end TryMeters

end Store

/-! ## The ledger stays -/

variable {names : Directory} {r : RegistrationRef} {d p : ProviderRef} {s s' : Store} {a : Ledger}

theorem Kept.replaced {m t : MeterRef} {l : MeterLog} (h : Kept d s.instruments (s.meter m) l)
    (hwaits : (s.meter m).body.isDeferred = true) (hreplaced : s.Replaced p s' m t) :
    Kept p s'.instruments (s'.meter t) l := by
  have hrow := hreplaced.row
  generalize s.meter m = row at h hwaits hrow
  cases h with
  | recording => cases hwaits
  | deferred scope is _ =>
      rw [hrow]
      exact .recording ⟨scope, _, []⟩

/-- What led to a meter leads to the one that has replaced it. -/
theorem Store.Replaced.meterEnd? {m m₀ t : MeterRef} (h : s.Replaced p s' m₀ t)
    (hlater : Later s s')
    (hm : s.meterEnd? m = some m₀) : s'.meterEnd? m = some t := by
  have hlead : Leads (fun m => (s'.meter m).target?) m m₀ :=
    (meterEnd?_eq_some.1 hm).1.mono fun x y hxy =>
      (hlater.meter (has_of_meterTarget hxy)).target y hxy
  have hlast : (s'.meter t).target? = none := by
    rw [h.row]
    rfl
  exact meterEnd?_eq_some.2 ⟨hlead.tail h.target, hlast⟩

/-- An instrument of a meter that was replaced stands where it stood. -/
theorem Store.Replaced.stands {i j : InstrumentRef} {x : Booked} {m t : MeterRef}
    (h : s.Replaced p s' m t) (hlater : Later s s') (hwaits : (s.meter m).body.isDeferred = true)
    (ht : (s'.provider p).meters[x.meter]? = some t) (hi : s.Stands d i x m j) :
    ∃ j', s'.Stands p i x t j' := by
  obtain ⟨j', hknown, htarget, hrow⟩ := h.instruments j (hi.listed hwaits)
  have hlead : Leads (fun i => (s'.instrument i).target?) i j :=
    (instrumentEnd?_eq_some.1 hi.ends).1.mono fun x y hxy =>
      (hlater.instrument (has_of_instrumentTarget hxy)).target y hxy
  have hlast : (s'.instrument j').target? = none := by
    rw [hrow]
    rfl
  refine ⟨j', ht, ⟨(hlater.instruments i hi.known.1).1, hknown⟩, ?_, ?_, ?_, ?_⟩
  · exact instrumentEnd?_eq_some.2 ⟨hlead.tail htarget, hlast⟩
  · exact (hlater.instrument hi.known.1).request.trans hi.request
  · rw [hrow, hi.row, h.row]
    rfl
  · rw [h.row]
    exact nofun

/-- A provider that has replaced the meters of a deferred one takes its ledger over. -/
theorem Depicts.replaced (h : Depicts d s a) (hd : (s.provider d).isDeferred = true)
    (hsound : Sound s')
    (hlater : Later s s') (hknown : s'.providers.Has p) (hplain : (s'.provider p).Plain)
    (hnodup : (s'.provider p).meters.Nodup)
    (hplaces : Places (s.Replaced p s') (s.provider d).meters (s'.provider p).meters)
    (hcallbacks : s'.callbacks = s.callbacks) (hdirectory : s'.directory = s.directory) :
    Depicts p s' a := by
  have hwaits :
      ∀ (k : Nat) m, (s.provider d).meters[k]? = some m → (s.meter m).body.isDeferred = true := by
    intro k m hm
    obtain ⟨l, _, hkept⟩ := h.exists_kept hm
    exact (Provider.isDeferred_of_fits (h.sound.tree.fits m d hkept.issuer).2).trans hd
  constructor
  case sound => exact hsound
  case known => exact hknown
  case plain => exact hplain
  case nodup => exact hnodup
  case meters =>
    refine hplaces.through h.meters fun k m t l hm hreplaced hkept => ?_
    exact ⟨hreplaced.known, hkept.2.replaced (hwaits k m hm) hreplaced⟩
  case meterNames =>
    intro name
    rw [hdirectory]
    refine rel_mono (h.meterNames name) fun m k _ _ hm => ?_
    obtain ⟨m₀, hm₀, hend⟩ := hm
    obtain ⟨t, ht, hreplaced⟩ := exists_of_rel_left (hplaces k) hm₀
    exact ⟨t, ht, hreplaced.meterEnd? hlater hend⟩
  case instrumentNames =>
    intro name
    rw [hdirectory]
    refine rel_mono (h.instrumentNames name) fun i x _ _ hi => ?_
    obtain ⟨m₀, j₀, hi⟩ := hi
    obtain ⟨t, ht, hreplaced⟩ := exists_of_rel_left (hplaces x.meter) hi.meter
    exact ⟨t, hreplaced.stands hlater (hwaits _ _ hi.meter) ht hi⟩
  case callbacks => exact h.callbacks.trans hcallbacks.symm
  case callbackNames =>
    rw [hdirectory]
    exact h.callbackNames

namespace Waiting

/-- The awaited provider takes effect when it is offered, and the ledger stays what it is. -/
theorem setProvider (h : Waiting names r d p s a) :
    ∃ s', Op.setProvider r p s = .ok true s' ∧ Live names r d p s' a := by
  have hsound := h.sound
  have hr := h.awaits.registration
  have hp := h.awaits.provider
  have howner := h.owner
  have hne := h.ne
  subst howner
  have hplain : (s.provider p).Plain := by
    rw [h.awaits.fresh]
    rfl
  have hwait := hsound.providerWaits h.known h.deferred h.plain.target?
  have hself := Store.providerEnd?_of_plain hplain
  obtain ⟨s₁, hs₁, hrun⟩ := Op.install_run false h.awaits.gate hwait hself hne.symm
  have hinstalled := Op.sound_install hsound hr hp false
  rw [Op.left_of_ok hrun] at hinstalled
  obtain ⟨hsound', hlater⟩ := hinstalled
  -- what a provider without a probe leaves is exactly what the trials leave
  obtain ⟨message, _, heq⟩ := Store.bindProvider_eq_tryMeters s r p p
  have htarget :=
    Store.target?_bindProvider hsound hr hwait hself hne.symm (s.registration r).deferred
  have hsame := hs₁.same hplain.quiet
  rw [if_pos rfl, heq] at htarget
  rw [heq] at hsame
  subst hsame
  obtain ⟨hready, _⟩ := Store.ready_assign hwait hself hne.symm
  have hassigned : (s.assign r p).provider p = s.provider p := Table.get_update_of_ne _ _ hne
  have haside := Aside.tryMeters (s.assign r p) p p (s.provider (s.registration r).deferred).meters
  have hdirectory := Store.directory_tryMeters (s.assign r p) p p
    (s.provider (s.registration r).deferred).meters
  obtain ⟨hplain', hnodup, hplaces⟩ := Store.replaced_tryMeters (p := p) hready
    ((Table.has_update _ _ _ _).2 hp) (hassigned.trans h.awaits.fresh)
  -- how the trials have got there does not matter any more
  generalize (s.assign r p).tryMeters p p (s.provider (s.registration r).deferred).meters = s₁
    at hrun hsound' hlater htarget haside hdirectory hplain' hnodup hplaces
  have hdepicts := h.toDepicts.replaced h.deferred hsound' hlater (hlater.providers p hp).1 hplain'
    hnodup (fun k => rel_mono (hplaces k) fun m t _ _ hreplaced =>
      ⟨hreplaced.known, hreplaced.target, hreplaced.row, hreplaced.instruments⟩)
    haside.callbacks hdirectory
  refine ⟨_, hrun, ?_⟩
  constructor
  case toDepicts => exact hdepicts
  case recording =>
    rw [Provider.isDeferred_of_freshBody (hlater.provider hp).freshBody, h.awaits.fresh]
    rfl
  case slot =>
    have hrow := Store.registration_finish r hr haside.registrations false
    rw [if_pos rfl] at hrow
    exact congrArg Registration.provider hrow
  case ends => exact Store.providerEnd?_eq_some.2 ((endsAt_self hplain'.target?).head htarget)
  case registrations => exact (congrArg Directory.registrations hdirectory).trans h.registrations
  case providers => exact (congrArg Directory.providers hdirectory).trans h.providers

end Waiting

end DeferredMetrics
