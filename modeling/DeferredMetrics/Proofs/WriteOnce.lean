import DeferredMetrics.Proofs.Rebinding
import DeferredMetrics.Proofs.Tallies

set_option autoImplicit false

/-! # Write-once targets, lists that only grow, and then not at all

A deferred node has no target, or one that stays. As long as it has none it answers every request
with a new child of its own, the last one on its list; once it has one, its list is what it was, and
what it is asked for is what its target answers (`Store.Delegates`). So what a run does to the lists
can be read off the calls that were made (`Frozen`), and so can all that was ever put on them
(`Store.Filed`). The main statement is `frozen_of_reachable`. -/

namespace DeferredMetrics

/-! ## Asking a node and asking its target -/

/-- The same answer, and the same objects left. -/
inductive SameAnswer {α : Type} :
    EStateM.Result Halt Store α → EStateM.Result Halt Store α → Prop where
  | ok (a : α) {s s' : Store} (hproviders : s'.providers = s.providers)
      (hmeters : s'.meters = s.meters) (hinstruments : s'.instruments = s.instruments) :
      SameAnswer (.ok a s) (.ok a s')
  | error (halt : Halt) {s s' : Store} (hproviders : s'.providers = s.providers)
      (hmeters : s'.meters = s.meters) (hinstruments : s'.instruments = s.instruments) :
      SameAnswer (.error halt s) (.error halt s')

/-- A node with a target hands requests on to it, and one without a target answers them itself. -/
structure Store.Delegates (s : Store) : Prop where
  meter : ∀ d t, (s.provider d).target? = some t → ∀ scope,
    SameAnswer (Op.requestMeter d scope s) (Op.requestMeter t scope s)
  otherMeter : ∀ d t, (s.provider d).target? = some t → ∀ scope m s',
    Op.requestMeter d scope s = .ok m s' → (s'.meter m).issuer ≠ some d ∧
      (s'.provider d).issued = (s.provider d).issued
  ownMeter : ∀ d, s.providers.Has d → (s.provider d).isDeferred = true →
    (s.provider d).target? = none → ∀ scope, ∃ m s', Op.requestMeter d scope s = .ok m s' ∧
      ¬ s.meters.Has m ∧ (s'.meter m).scope = scope ∧ (s'.meter m).issuer = some d ∧
      (s'.provider d).issued = (s.provider d).issued ++ [m]
  instrument : ∀ m t, (s.meter m).target? = some t → ∀ request,
    SameAnswer (Op.requestInstrument m request s) (Op.requestInstrument t request s)
  otherInstrument : ∀ m t, (s.meter m).target? = some t → ∀ request i s',
    Op.requestInstrument m request s = .ok i s' → (s'.instrument i).issuer ≠ m ∧
      (s'.meter m).instruments = (s.meter m).instruments
  ownInstrument : ∀ m, s.meters.Has m → (s.meter m).body.isDeferred = true →
    (s.meter m).target? = none → ∀ request, ∃ i s', Op.requestInstrument m request s = .ok i s' ∧
      ¬ s.instruments.Has i ∧ (s'.instrument i).request = request ∧ (s'.instrument i).issuer = m ∧
      (s'.meter m).instruments = (s.meter m).instruments ++ [i]

theorem SameAnswer.answering {α : Type} (answer : Except Payload α) {s s' : Store}
    (hproviders : s'.providers = s.providers) (hmeters : s'.meters = s.meters)
    (hinstruments : s'.instruments = s.instruments) :
    SameAnswer (Op.answering answer s) (Op.answering answer s') := by
  cases answer with
  | ok a => exact .ok a hproviders hmeters hinstruments
  | error payload => exact .error _ hproviders hmeters hinstruments

namespace Op

variable {s : Store} {α : Type}

/-- The answer was given if the request returned. -/
theorem of_answering_eq_ok {answer : Except Payload α} {s₁ s₂ : Store} {a : α}
    (h : answering answer s₁ = .ok a s₂) : answer = .ok a ∧ s₁ = s₂ := by
  cases answer with
  | ok b =>
      obtain ⟨rfl, rfl⟩ : b = a ∧ s₁ = s₂ := by simpa [answering] using h
      exact ⟨rfl, rfl⟩
  | error payload => cases h

/-- A provider's request is one of its target. -/
theorem sameAnswer_requestMeter {d t : ProviderRef} (htarget : (s.provider d).target? = some t)
    (scope : Scope) : SameAnswer (requestMeter d scope s) (requestMeter t scope s) := by
  have hends := Store.providerEnd?_of_target htarget
  cases he : s.providerEnd? d with
  | none =>
      rw [requestMeter_of_none scope he, requestMeter_of_none scope (hends.symm.trans he)]
      exact .error .waiting rfl rfl rfl
  | some e =>
      obtain ⟨s₁, hs₁, hrun₁⟩ := requestMeter_run scope he
      obtain ⟨s₂, hs₂, hrun₂⟩ := requestMeter_run scope (hends.symm.trans he)
      rw [hrun₁, hrun₂]
      refine .answering _ ?_ ?_ ?_
      · rw [hs₁.shown.providers, hs₂.shown.providers, Store.providers_askMeter,
          Store.providers_askMeter]
      · rw [hs₁.shown.meters, hs₂.shown.meters, Store.meters_askMeter, Store.meters_askMeter]
      · rw [hs₁.shown.instruments, hs₂.shown.instruments, Store.instruments_askMeter,
          Store.instruments_askMeter]

theorem sameAnswer_requestInstrument (h : Sound s) {m t : MeterRef}
    (htarget : (s.meter m).target? = some t) (request : Request) :
    SameAnswer (requestInstrument m request s) (requestInstrument t request s) := by
  have hends := Store.meterEnd?_of_target htarget
  cases he : s.meterEnd? m with
  | none =>
      rw [requestInstrument_of_none request he,
        requestInstrument_of_none request (hends.symm.trans he)]
      exact .error .waiting rfl rfl rfl
  | some e =>
      have hfits : s.MeterFits e := fun x hx => (h.tree.fits e x hx).2
      obtain ⟨s₁, hs₁, hrun₁⟩ := requestInstrument_run request he hfits
      obtain ⟨s₂, hs₂, hrun₂⟩ := requestInstrument_run request (hends.symm.trans he) hfits
      rw [hrun₁, hrun₂]
      refine .answering _ ?_ ?_ ?_
      · rw [hs₁.shown.providers, hs₂.shown.providers]
        exact Store.providers_askInstrument_congr s t m e request
      · rw [hs₁.shown.meters, hs₂.shown.meters, Store.meters_askInstrument,
          Store.meters_askInstrument]
      · rw [hs₁.shown.instruments, hs₂.shown.instruments, Store.instruments_askInstrument,
          Store.instruments_askInstrument]

/-- A request on a provider with a target is none on the provider itself. -/
theorem requestMeter_of_bound {d t : ProviderRef} (htarget : (s.provider d).target? = some t)
    {scope : Scope} {m : MeterRef} {s' : Store} (hrun : requestMeter d scope s = .ok m s') :
    (s'.meter m).issuer ≠ some d ∧ (s'.provider d).issued = (s.provider d).issued := by
  cases he : s.providerEnd? d with
  | none =>
      rw [requestMeter_of_none scope he] at hrun
      cases hrun
  | some e =>
      have hne : d ≠ e := by
        rintro rfl
        exact absurd (htarget.symm.trans (Store.providerEnd?_eq_some.1 he).2) (by simp)
      obtain ⟨s₁, hs₁, hrun₁⟩ := requestMeter_run scope he
      obtain ⟨hanswer, rfl⟩ := of_answering_eq_ok (hrun₁.symm.trans hrun)
      rw [hs₁.shown.meter, hs₁.shown.provider, Store.meter_askMeter_of_ok hanswer]
      refine ⟨fun heq => hne (Option.some.inj heq).symm, ?_⟩
      rw [Store.provider, Store.providers_askMeter, Table.get_update_of_ne _ _ (Ne.symm hne)]
      rfl

/-- A deferred provider without a target issues a meter of its own. -/
theorem requestMeter_of_unbound {d : ProviderRef} (hknown : s.providers.Has d)
    (hdeferred : (s.provider d).isDeferred = true) (htarget : (s.provider d).target? = none)
    (scope : Scope) : ∃ m s', requestMeter d scope s = .ok m s' ∧ ¬ s.meters.Has m ∧
      (s'.meter m).scope = scope ∧ (s'.meter m).issuer = some d ∧
      (s'.provider d).issued = (s.provider d).issued ++ [m] := by
  have he : s.providerEnd? d = some d := Store.providerEnd?_eq_some.2 (endsAt_self htarget)
  have hanswer := Store.meterAnswer_of_isDeferred hdeferred scope
  obtain ⟨s₁, hs₁, hrun₁⟩ := requestMeter_run scope he
  rw [hanswer] at hrun₁
  refine ⟨_, s₁, hrun₁, Nat.lt_irrefl s.meters.size, ?_, ?_, ?_⟩
  · rw [hs₁.shown.meter, Store.meter_askMeter_of_ok hanswer]
  · rw [hs₁.shown.meter, Store.meter_askMeter_of_ok hanswer]
  · rw [hs₁.shown.provider, Store.provider_askMeter_of_ok hknown hanswer, if_pos rfl,
      Provider.issued_serve_meter, if_pos hdeferred]

/-- A request on a meter with a target is none on the meter itself. -/
theorem requestInstrument_of_bound (h : Sound s) {m t : MeterRef}
    (htarget : (s.meter m).target? = some t) {request : Request} {i : InstrumentRef} {s' : Store}
    (hrun : requestInstrument m request s = .ok i s') :
    (s'.instrument i).issuer ≠ m ∧ (s'.meter m).instruments = (s.meter m).instruments := by
  cases he : s.meterEnd? m with
  | none =>
      rw [requestInstrument_of_none request he] at hrun
      cases hrun
  | some e =>
      have hne : m ≠ e := by
        rintro rfl
        exact absurd (htarget.symm.trans (Store.meterEnd?_eq_some.1 he).2) (by simp)
      obtain ⟨s₁, hs₁, hrun₁⟩ :=
        requestInstrument_run request he fun x hx => (h.tree.fits e x hx).2
      obtain ⟨hanswer, rfl⟩ := of_answering_eq_ok (hrun₁.symm.trans hrun)
      obtain rfl := Store.instrumentAnswer_eq_next s hanswer
      rw [hs₁.shown.meter, hs₁.shown.instrument, Store.instrument,
        Store.instruments_askInstrument_of_ok s m hanswer, Table.get_add_next]
      refine ⟨Ne.symm hne, ?_⟩
      rw [Store.meter, Store.meters_askInstrument, Table.get_update_of_ne _ _ (Ne.symm hne)]
      rfl

/-- A deferred meter without a target issues an instrument of its own. -/
theorem requestInstrument_of_unbound (h : Sound s) {m : MeterRef} (hknown : s.meters.Has m)
    (hdeferred : (s.meter m).body.isDeferred = true) (htarget : (s.meter m).target? = none)
    (request : Request) : ∃ i s', requestInstrument m request s = .ok i s' ∧
      ¬ s.instruments.Has i ∧ (s'.instrument i).request = request ∧ (s'.instrument i).issuer = m ∧
      (s'.meter m).instruments = (s.meter m).instruments ++ [i] := by
  have he : s.meterEnd? m = some m := Store.meterEnd?_eq_some.2 (endsAt_self htarget)
  have hfits : s.MeterFits m := fun x hx => (h.tree.fits m x hx).2
  have hanswer := Store.instrumentAnswer_of_isDeferred hfits hdeferred request
  obtain ⟨s₁, hs₁, hrun₁⟩ := requestInstrument_run request he hfits
  rw [hanswer] at hrun₁
  have hrow : s₁.instrument s.instruments.next = ⟨request, m, (s.meter m).freshDestination⟩ := by
    rw [hs₁.shown.instrument, Store.instrument_askInstrument_ite s m hanswer, if_pos rfl]
  refine ⟨_, s₁, hrun₁, Nat.lt_irrefl s.instruments.size, ?_, ?_, ?_⟩
  · rw [hrow]
  · rw [hrow]
  · rw [hs₁.shown.meter, Store.meter, Store.meters_askInstrument,
      Table.get_update_self _ _ hknown, hanswer]
    exact Meter.instruments_keepRequest_of_isDeferred hdeferred request _

end Op

theorem Store.delegates (s : Store) (h : Sound s) : s.Delegates where
  meter _ _ htarget scope := Op.sameAnswer_requestMeter htarget scope
  otherMeter _ _ htarget _ _ _ hrun := Op.requestMeter_of_bound htarget hrun
  ownMeter _ hknown hdeferred htarget scope :=
    Op.requestMeter_of_unbound hknown hdeferred htarget scope
  instrument _ _ htarget request := Op.sameAnswer_requestInstrument h htarget request
  otherInstrument _ _ htarget _ _ _ hrun := Op.requestInstrument_of_bound h htarget hrun
  ownInstrument _ hknown hdeferred htarget request :=
    Op.requestInstrument_of_unbound h hknown hdeferred htarget request

/-! ## What a run leaves -/

/-- What a run from `s` to `s'` in which the calls `new` were made does to targets and lists: a
target stays, a list gets longer at its end by a deferred child for each request that came to its
node, and the list of a node that has a target stays as well. -/
structure Frozen (new : List Call) (s s' : Store) : Prop where
  calls : s'.calls.toList = s.calls.toList ++ new
  providerTarget : ∀ d t, (s.provider d).target? = some t → (s'.provider d).target? = some t
  meterTarget : ∀ m t, (s.meter m).target? = some t → (s'.meter m).target? = some t
  instrumentTarget : ∀ i t, (s.instrument i).target? = some t → (s'.instrument i).target? = some t
  meterKept : ∀ m, s.meters.Has m → (s'.meter m).scope = (s.meter m).scope
  instrumentKept : ∀ i, s.instruments.Has i → (s'.instrument i).request = (s.instrument i).request
  meters : ∀ d, (s'.provider d).isDeferred = true → ∃ ms,
    (s'.provider d).issued = (s.provider d).issued ++ ms ∧
    (∀ m ∈ ms, ¬ s.meters.Has m ∧ (s'.meter m).issuer = some d ∧
      (s'.meter m).body.isDeferred = true) ∧
    ms.map (fun m => (s'.meter m).scope) = askedOf (s'.providers.size + 1) d true
      (fun q => (s.provider q).target?) (new.filterMap Call.toProviders)
  meterList : ∀ d t, (s.provider d).target? = some t →
    (s'.provider d).issued = (s.provider d).issued
  instruments : ∀ m, (s'.meter m).body.isDeferred = true → ∃ is,
    (s'.meter m).instruments = (s.meter m).instruments ++ is ∧
    (∀ i ∈ is, ¬ s.instruments.Has i ∧ (s'.instrument i).issuer = m ∧
      (s'.instrument i).destination.isDeferred = true) ∧
    is.map (fun i => (s'.instrument i).request) = askedOf (s'.meters.size + 1) m
      (decide (s.meters.Has m)) (fun k => (s.meter k).target?) (new.filterMap Call.toMeters)
  instrumentList : ∀ m t, (s.meter m).target? = some t →
    (s'.meter m).instruments = (s.meter m).instruments

/-- What deferred nodes have for a target and on their lists is what all the calls say that were
ever made. -/
structure Store.Filed (s : Store) : Prop where
  providerTarget : ∀ d, (s.provider d).target? =
    targetsAfter (fun _ => none) (s.calls.toList.filterMap Call.toProviders) d
  meterTarget : ∀ m, (s.meter m).target? =
    targetsAfter (fun _ => none) (s.calls.toList.filterMap Call.toMeters) m
  meters : ∀ d, (s.provider d).isDeferred = true → s.scopes d =
    askedOf (s.providers.size + 1) d true (fun _ => none)
      (s.calls.toList.filterMap Call.toProviders)
  instruments : ∀ m, (s.meter m).body.isDeferred = true → s.requests m =
    askedOf (s.meters.size + 1) m false (fun _ => none) (s.calls.toList.filterMap Call.toMeters)
  shown : ∀ m, (s.meter m).body.isDeferred = true → (s.issuedMeter m).instruments =
    (askedOf (s.meters.size + 1) m false (fun _ => none)
      (s.calls.toList.filterMap Call.toMeters)).map fun x => (x.kind, x.descriptor)

/-- What a list has got at its end, if the labels of what stands on it are known. -/
theorem exists_added {ρ χ : Type} {xs ys : List ρ} (hle : xs <+: ys) (hnodup : ys.Nodup)
    {label label' : ρ → χ} (hlabel : ∀ r ∈ xs, label' r = label r) {added : List χ}
    (hgiven : ys.map label' = xs.map label ++ added) {fresh : ρ → Prop}
    (hfresh : ∀ r ∈ ys, r ∈ xs ∨ fresh r) :
    ∃ zs, ys = xs ++ zs ∧ (∀ r ∈ zs, fresh r) ∧ zs.map label' = added := by
  obtain ⟨zs, rfl⟩ := hle
  refine ⟨zs, rfl, fun r hr => ?_, ?_⟩
  · have hnot : r ∉ xs := fun hmem => (List.nodup_append'.1 hnodup).2.2 hmem hr
    exact (hfresh r (List.mem_append_right _ hr)).resolve_left hnot
  · rw [List.map_append, List.map_congr_left hlabel] at hgiven
    exact List.append_cancel_left hgiven

/-- What stood on a list stays in its place. -/
theorem Later.issued {s s' : Store} (h : Later s s') (d : ProviderRef) :
    (s.provider d).issued <+: (s'.provider d).issued := by
  by_cases hd : s.providers.Has d
  · have hgrows := h.provider hd
    cases hdeferred : (s.provider d).isDeferred with
    | true =>
        have hdeferred' := (Provider.isDeferred_of_freshBody hgrows.freshBody).trans hdeferred
        rw [← SoundBut.meters_eq_issued hdeferred, ← SoundBut.meters_eq_issued hdeferred']
        exact hgrows.meters
    | false =>
        rw [(Provider.alone_of_isDeferred hdeferred).2]
        exact List.nil_prefix
  · rw [show s.provider d = .noop from Table.get_of_not_has hd]
    exact List.nil_prefix

theorem Later.instruments_prefix {s s' : Store} (h : Later s s') (m : MeterRef) :
    (s.meter m).instruments <+: (s'.meter m).instruments := by
  by_cases hm : s.meters.Has m
  · exact (h.meter hm).instruments
  · rw [show s.meter m = default from Table.get_of_not_has hm]
    exact List.nil_prefix

theorem Frozen.of_tallies {new : List Call} {s s' : Store} (h : Sound s) (hs' : Sound s')
    (hlater : Later s s') (htallies : Tallies new s s') : Frozen new s s' := by
  have hlisted := Store.Listed.of_sound h
  have hmeters : ∀ d, (s'.provider d).isDeferred = true → ∃ ms,
      (s'.provider d).issued = (s.provider d).issued ++ ms ∧
      (∀ m ∈ ms, ¬ s.meters.Has m) ∧
      ms.map (fun m => (s'.meter m).scope) = askedOf (s'.providers.size + 1) d true
        (fun q => (s.provider q).target?) (new.filterMap Call.toProviders) := fun d hd =>
    exists_added (hlater.issued d) (hs'.tree.nodup d)
      (fun m hm => (hlater.meter (hlisted.meters d m hm)).scope)
      (htallies.providers.given _ (Nat.lt_succ_self _) d fun _ => hd)
      fun m hm => (htallies.newMeters d m hm).imp id And.left
  have hinstruments : ∀ m, (s'.meter m).body.isDeferred = true → ∃ is,
      (s'.meter m).instruments = (s.meter m).instruments ++ is ∧
      (∀ i ∈ is, ¬ s.instruments.Has i) ∧
      is.map (fun i => (s'.instrument i).request) = askedOf (s'.meters.size + 1) m
        (decide (s.meters.Has m)) (fun k => (s.meter k).target?)
        (new.filterMap Call.toMeters) := fun m hm =>
    exists_added (hlater.instruments_prefix m) (hs'.instruments.nodup m)
      (fun i hi => (hlater.instrument (hlisted.instruments m i hi)).request)
      (htallies.meters.given _ (Nat.lt_succ_self _) m fun _ => hm)
      fun i hi => (htallies.newInstruments m i hi).imp id And.left
  have htarget : ∀ d t, (s.provider d).target? = some t → (s'.provider d).target? = some t :=
    fun d t ht => (hlater.provider (Store.has_of_providerTarget ht)).target t ht
  have hmeterTarget : ∀ m t, (s.meter m).target? = some t → (s'.meter m).target? = some t :=
    fun m t ht => (hlater.meter (Store.has_of_meterTarget ht)).target t ht
  constructor
  case calls => exact htallies.calls
  case providerTarget => exact htarget
  case meterTarget => exact hmeterTarget
  case instrumentTarget =>
    exact fun i t ht => (hlater.instrument (Store.has_of_instrumentTarget ht)).target t ht
  case meterKept => exact fun m hm => (hlater.meter hm).scope
  case instrumentKept => exact fun i hi => (hlater.instrument hi).request
  case meters =>
    intro d hd
    obtain ⟨ms, hissued, hnew, hscopes⟩ := hmeters d hd
    refine ⟨ms, hissued, fun m hm => ?_, hscopes⟩
    have hissuer := (hs'.tree.issued d m (hissued ▸ List.mem_append_right _ hm)).2
    exact ⟨hnew m hm, hissuer,
      (Provider.isDeferred_of_fits (hs'.tree.fits m d hissuer).2).trans hd⟩
  case meterList =>
    intro d t ht
    obtain ⟨ms, hissued, _, hscopes⟩ := hmeters d (Provider.isDeferred_of_target (htarget d t ht))
    -- what comes to a provider with a target is handed on
    rw [askedOf_of_bound (by simp [ht])] at hscopes
    rw [hissued, List.map_eq_nil_iff.1 hscopes, List.append_nil]
  case instruments =>
    intro m hm
    obtain ⟨is, hissued, hnew, hrequests⟩ := hinstruments m hm
    refine ⟨is, hissued, fun i hi => ?_, hrequests⟩
    have hmem := hs'.instruments.issued m i (hissued ▸ List.mem_append_right _ hi)
    exact ⟨hnew i hi, hmem.2⟩
  case instrumentList =>
    intro m t ht
    obtain ⟨is, hissued, _, hrequests⟩ :=
      hinstruments m (Meter.isDeferred_of_target (hmeterTarget m t ht))
    rw [askedOf_of_bound (by simp [ht])] at hrequests
    rw [hissued, List.map_eq_nil_iff.1 hrequests, List.append_nil]

theorem filed_of_reachable {s : Store} (h : Reachable s) : s.Filed := by
  obtain ⟨environment, hdeeds⟩ := deeds_of_reachable h
  obtain ⟨new, htallies⟩ := tallies_of_deeds (sound_initial environment) hdeeds
  obtain rfl : s.calls.toList = new := htallies.calls.trans (List.nil_append _)
  have hrequests : ∀ m, (s.meter m).body.isDeferred = true → s.requests m =
      askedOf (s.meters.size + 1) m false (fun _ => none)
        (s.calls.toList.filterMap Call.toMeters) := fun m hm =>
    htallies.meters.given _ (Nat.lt_succ_self _) m fun _ => hm
  constructor
  case providerTarget => exact fun d => congrFun htallies.providers.target d
  case meterTarget => exact fun m => congrFun htallies.meters.target m
  case meters => exact fun d hd => htallies.providers.given _ (Nat.lt_succ_self _) d fun _ => hd
  case instruments => exact hrequests
  case shown =>
    intro m hm
    rw [← hrequests m hm, Store.requests, List.map_map]
    rfl

/-- In every store that can be reached, the lists are what all calls say, and nodes with targets
delegate; and from there on every run, of one step or more, leaves targets as they are and makes
lists longer only for what came to nodes without targets, whatever fails or panics in it. -/
theorem frozen_of_reachable {s : Store} (h : Reachable s) :
    s.Filed ∧ s.Delegates ∧ ∀ depth processWide steps, (∀ x ∈ steps, Step.sequential x = true) →
      ∃ new, Frozen new s (Scenario.after depth processWide s steps) := by
  have hs := reachable_sound h
  refine ⟨filed_of_reachable h, s.delegates hs, fun depth processWide steps hsteps => ?_⟩
  obtain ⟨new, htallies⟩ := tallies_of_deeds hs (deeds_of_run depth processWide hs hsteps)
  exact ⟨new, .of_tallies hs (reachable_sound (h.after depth processWide hsteps))
    (later_of_run depth processWide hs hsteps) htallies⟩

theorem frozen_of_reachable_poisoned :
    Store.poisoned.Filed ∧ Store.poisoned.Delegates ∧
      ∃ new, Frozen new .poisoned (Scenario.after 1 none .poisoned
        [.setProvider "r" "p", .create "m" "k" .counter (.named "late") none]) := by
  obtain ⟨hfiled, hdelegates, hrun⟩ := frozen_of_reachable reachable_poisoned
  exact ⟨hfiled, hdelegates, hrun 1 none _ (by decide)⟩

end DeferredMetrics
