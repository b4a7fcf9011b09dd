import DeferredMetrics.Proofs.Rebinding

set_option autoImplicit false

/-! # Gate, slot and tree

A registration keeps what it has decided in three places: its gate, the provider that it has
written down, and the target of its deferred provider. `Agreement` says that they agree, what they
mean for the tree of deferred nodes below, and that the tree was bound in one `Pass`, in which each
meter was asked for once. The main statement is `reachable_agreement`: so it is between any two
steps, whatever panics in them, for every registration whose chain of targets has an end. -/

namespace DeferredMetrics

/-- The calls of a store: those `before` the pass over the meters of `d`, which binds them to what
`p` returns for them, those of the pass, and those that came `later`. No meter of `d` is told its
target but in the pass, and in the pass each is tried once. -/
structure Pass (s : Store) (d p : ProviderRef) (before : List Call) (xs : List MeterTrial)
    (later : List Call) : Prop where
  calls : s.calls.toList =
    before ++ .bindProvider d p :: (xs.flatMap (MeterTrial.calls p) ++ later)
  nodup : (xs.map MeterTrial.meter).Nodup
  scopes : ∀ x ∈ xs, s.meters.Has x.meter ∧ x.scope = (s.meter x.meter).scope
  provider : ∀ q, Call.bindProvider d q ∉ before ∧ Call.bindProvider d q ∉ later
  meters : ∀ m t, (s.meter m).issuer = some d →
    Call.bindMeter m t ∉ before ∧ Call.bindMeter m t ∉ later

namespace Pass

variable {s s' : Store} {d p : ProviderRef} {before later : List Call} {xs : List MeterTrial}

/-- Calls that tell neither `d` nor a meter of it a target are calls after the pass. -/
theorem extend (h : Pass s d p before xs later) (hs : Sound s) (hlater : Later s s')
    {new : List Call} (hcalls : s'.calls.toList = s.calls.toList ++ new)
    (hprovider : ∀ q, Call.bindProvider d q ∉ new)
    (hmeters : ∀ m t, (s'.meter m).issuer = some d → Call.bindMeter m t ∉ new) :
    Pass s' d p before xs (later ++ new) := by
  -- a meter that was told its target before was known before, and has the same issuer
  have hissuer : ∀ m t, Call.bindMeter m t ∈ s.calls.toList →
      (s'.meter m).issuer = some d → (s.meter m).issuer = some d := by
    intro m t hmem hm
    have htarget := (hs.bindings.told m t hmem).resolve_right (by simp)
    rw [← (hlater.meter (Store.has_of_meterTarget htarget)).issuer]
    exact hm
  have hbefore : ∀ c ∈ before, c ∈ s.calls.toList := by
    intro c hc
    rw [h.calls]
    exact List.mem_append_left _ hc
  have hafter : ∀ c ∈ later, c ∈ s.calls.toList := by
    intro c hc
    rw [h.calls]
    exact List.mem_append_right _ (List.mem_cons_of_mem _ (List.mem_append_right _ hc))
  constructor
  case calls =>
    rw [hcalls, h.calls]
    simp only [List.append_assoc, List.cons_append]
  case nodup => exact h.nodup
  case scopes =>
    intro x hx
    obtain ⟨hknown, hscope⟩ := h.scopes x hx
    exact ⟨(hlater.meters _ hknown).1, hscope.trans (hlater.meter hknown).scope.symm⟩
  case provider =>
    intro q
    refine ⟨(h.provider q).1, fun hmem => ?_⟩
    exact (List.mem_append.1 hmem).elim (h.provider q).2 (hprovider q)
  case meters =>
    intro m t hm
    refine ⟨fun hmem => ?_, fun hmem => ?_⟩
    · exact (h.meters m t (hissuer m t (hbefore _ hmem) hm)).1 hmem
    · rcases List.mem_append.1 hmem with hmem | hmem
      · exact (h.meters m t (hissuer m t (hafter _ hmem) hm)).2 hmem
      · exact hmeters m t hm hmem

/-- A meter of `d` that is bound was tried in the pass, with its own scope, and bound to what was
returned for it. -/
theorem exists_trial (h : Pass s d p before xs later) (hs : Sound s) {m t : MeterRef}
    (hm : (s.meter m).issuer = some d) (ht : (s.meter m).target? = some t) :
    ∃ x ∈ xs, x.meter = m ∧ x.scope = (s.meter m).scope ∧ x.answer = .ok t := by
  obtain ⟨_, _, _, _, _, _, _, _, _, hcalls, _⟩ := (hs.bindings.made m t (.inl ht)).history
  have hmem : Call.bindMeter m t ∈ s.calls.toList := by
    rw [hcalls]
    simp
  rw [h.calls, List.mem_append, List.mem_cons, List.mem_append, List.mem_flatMap] at hmem
  rcases hmem with hmem | hmem | ⟨x, hx, hmem⟩ | hmem
  · exact absurd hmem (h.meters m t hm).1
  · cases hmem
  · obtain ⟨rfl, hanswer⟩ := MeterTrial.of_bindMeter_mem_calls hmem
    exact ⟨x, hx, rfl, (h.scopes x hx).2, hanswer⟩
  · exact absurd hmem (h.meters m t hm).2

end Pass

/-! ## Every deferred provider is told its target once -/

namespace Store

/-- The deferred provider of the registration was told its target in one pass if it has one, and
never if it has none. -/
structure ToldOnce (s : Store) (r : RegistrationRef) : Prop where
  waiting : (s.registration r).provider = none →
    ∀ q, Call.bindProvider (s.registration r).deferred q ∉ s.calls.toList
  passed : ∀ p, (s.registration r).provider = some p →
    ∃ before xs later, Pass s (s.registration r).deferred p before xs later

/-- What the calls tell of all registrations whose chains of targets have ends. -/
structure Recorded (s : Store) : Prop where
  known : ∀ d q, Call.bindProvider d q ∈ s.calls.toList → s.providers.Has d
  told : ∀ r, s.registrations.Has r → (s.providerEnd? (s.registration r).deferred).isSome = true →
    s.ToldOnce r

variable {s s' : Store} {r : RegistrationRef}

/-- As long as a provider has no target, none of its meters is told one. -/
theorem bindMeter_not_mem_calls (h : Sound s) {d : ProviderRef} (hd : (s.provider d).target? = none)
    {m : MeterRef} (hm : (s.meter m).issuer = some d) (t : MeterRef) :
    Call.bindMeter m t ∉ s.calls.toList := by
  intro hmem
  have htarget := (h.bindings.told m t hmem).resolve_right (by simp)
  obtain ⟨d', p, _, _, _, hissuer, hbound, _⟩ := (h.bindings.made m t (.inl htarget)).history
  rw [hm, Option.some.injEq] at hissuer
  rw [← hissuer, hd] at hbound
  cases hbound

/-- Calls that do not concern the registration leave what it was told. -/
theorem ToldOnce.extend (h : s.ToldOnce r) (hs : Sound s) (hlater : Later s s')
    (hdeferred : (s'.registration r).deferred = (s.registration r).deferred)
    (hslot : (s'.registration r).provider = (s.registration r).provider) {new : List Call}
    (hcalls : s'.calls.toList = s.calls.toList ++ new)
    (hprovider : ∀ q, Call.bindProvider (s.registration r).deferred q ∉ new)
    (hmeters : ∀ m t, (s'.meter m).issuer = some (s.registration r).deferred →
      Call.bindMeter m t ∉ new) : s'.ToldOnce r := by
  constructor
  · intro hnone q hmem
    rw [hdeferred, hcalls] at hmem
    rw [hslot] at hnone
    exact (List.mem_append.1 hmem).elim (h.waiting hnone q) (hprovider q)
  · intro p hp
    rw [hslot] at hp
    rw [hdeferred]
    obtain ⟨before, xs, later, hpass⟩ := h.passed p hp
    exact ⟨before, xs, later ++ new, hpass.extend hs hlater hcalls hprovider hmeters⟩

end Store

namespace Op

variable {s : Store} {r : RegistrationRef} {p : ProviderRef}

/-- An installation tells no target but to the deferred provider of its registration and what is
below. -/
theorem calls_install (h : Sound s) (hr : s.registrations.Has r) (hp : s.providers.Has p)
    (discovered : Bool) : ∃ new,
      ((install r p discovered).left s).calls.toList = s.calls.toList ++ new ∧
      (∀ d q, Call.bindProvider d q ∈ new → d = (s.registration r).deferred) ∧
      ∀ m t, Call.bindMeter m t ∈ new →
        s.meters.Has m ∧ (s.meter m).issuer = some (s.registration r).deferred := by
  have hinstalls := installs (p := p) h hr discovered
  generalize hrun : install r p discovered s = result at hinstalls
  cases hinstalls with
  | late hgate =>
      rw [left_of_ok hrun]
      refine ⟨[], ?_, by simp, by simp⟩
      split <;> simp [Store.log, Store.see]
  | effective hgate hwait he hne hshown =>
      obtain ⟨xs, hrebinding⟩ := Rebinding.of_bindProvider h hr hp hwait he hne hshown discovered
      rw [left_of_ok hrun]
      refine ⟨_, hrebinding.calls, fun d q hmem => ?_, fun m t hmem => ?_⟩
      · rcases List.mem_cons.1 hmem with hmem | hmem
        · exact (Call.bindProvider.inj hmem).1
        · obtain ⟨x, _, hx⟩ := List.mem_flatMap.1 hmem
          exact absurd hx MeterTrial.bindProvider_not_mem_calls
      · obtain ⟨x, hx, hx_mem⟩ := List.mem_flatMap.1 ((List.mem_cons.1 hmem).resolve_left (by simp))
        obtain ⟨rfl, _⟩ := MeterTrial.of_bindMeter_mem_calls hx_mem
        refine h.issued_of_mem_meters (h.owners.deferred r hr) ?_
        exact hrebinding.meters ▸ List.mem_map.2 ⟨x, hx, rfl⟩
  | again hgate hbound =>
      rw [left_of_ok hrun]
      refine ⟨[.bindProvider (s.registration r).deferred p], Array.toList_push, ?_, by simp⟩
      intro d q hmem
      exact (Call.bindProvider.inj (List.mem_singleton.1 hmem)).1
  | idle hgate hnone hcircular =>
      rw [left_of_ok hrun]
      refine ⟨[.bindProvider (s.registration r).deferred p], Array.toList_push, ?_, by simp⟩
      intro d q hmem
      exact (Call.bindProvider.inj (List.mem_singleton.1 hmem)).1
  | stuck scope hgate hnone hcircular =>
      rw [left_of_error hrun]
      refine ⟨[.bindProvider (s.registration r).deferred p, .meter p scope], ?_, ?_, by simp⟩
      · show ((s.calls.push _).push _).toList = _
        simp
      · intro d q hmem
        simp only [List.mem_cons, List.not_mem_nil, or_false, reduceCtorEq] at hmem
        exact (Call.bindProvider.inj hmem).1

/-- After an installation the deferred provider of the registration was told its target once, if
its chain has an end. -/
theorem toldOnce_install (h : Sound s) (hr : s.registrations.Has r) (hp : s.providers.Has p)
    (discovered : Bool) (hagrees : s.AgreesOn r) (htold : s.ToldOnce r)
    (hend : (((install r p discovered).left s).providerEnd? (s.registration r).deferred).isSome) :
    ((install r p discovered).left s).ToldOnce r := by
  obtain ⟨_, hlater⟩ := sound_install h hr hp discovered
  rcases install_of_end h hr discovered hagrees hend
      with ⟨_, hrun⟩ | ⟨e, s', hwait, he, hne, hs', hrun⟩
  · rw [left_of_ok hrun]
    split
    · exact htold
    · exact htold.extend h (.log s _) rfl rfl (List.append_nil _).symm (by simp) (by simp)
  · obtain ⟨xs, hrebinding⟩ := Rebinding.of_bindProvider h hr hp hwait he hne hs' discovered
    rw [left_of_ok hrun] at hlater ⊢
    have hnone : (s.registration r).provider = none := hagrees.target.symm.trans hwait.target?
    constructor
    · intro hslot
      rw [hrebinding.registration] at hslot
      cases hslot
    · intro q hq
      rw [hrebinding.registration] at hq ⊢
      obtain rfl := Option.some.inj hq
      refine ⟨s.calls.toList, xs, [], ?_, hrebinding.nodup, ?_, ?_, ?_⟩
      · rw [List.append_nil]
        exact hrebinding.calls
      · intro x hx
        have hmem : x.meter ∈ (s.provider (s.registration r).deferred).meters :=
          hrebinding.meters ▸ List.mem_map.2 ⟨x, hx, rfl⟩
        have hknown := (hwait.meters.waits _ hmem).known
        exact ⟨(hlater.meters _ hknown).1,
          (hrebinding.faithful x hx).scope.trans (hlater.meter hknown).scope.symm⟩
      · exact fun q => ⟨htold.waiting hnone q, List.not_mem_nil⟩
      · intro m t hm
        refine ⟨fun hmem => ?_, List.not_mem_nil⟩
        have htarget := (h.bindings.told m t hmem).resolve_right (by simp)
        rw [(hlater.meter (Store.has_of_meterTarget htarget)).issuer] at hm
        exact Store.bindMeter_not_mem_calls h hwait.target? hm t hmem

end Op

/-! ## What steps keep -/

variable {s s' : Store}

theorem Calm.recorded (hcalm : Calm s s') (h : Sound s) (hrecorded : s.Recorded) : s'.Recorded := by
  obtain ⟨new, hcalls, hnew⟩ := hcalm.told
  have hprovider : ∀ d q, Call.bindProvider d q ∉ new := fun d q hmem => by cases hnew _ hmem
  constructor
  · intro d q hmem
    rw [hcalls] at hmem
    have hmem := (List.mem_append.1 hmem).resolve_right (hprovider d q)
    exact (hcalm.later.providers d (hrecorded.known d q hmem)).1
  · intro r hhas' hend
    have hhas := (hcalm.has r).1 hhas'
    have hrests := hcalm.registration r
    rw [hrests.deferred] at hend
    have htold := hrecorded.told r hhas (Store.ends_of_later hcalm.later hend)
    exact htold.extend h hcalm.later hrests.deferred hrests.provider hcalls (hprovider _)
      fun m t _ hmem => by cases hnew _ hmem

theorem recorded_install (h : Sound s) (hagreed : s.Agreed) (hrecorded : s.Recorded)
    {r : RegistrationRef} {p : ProviderRef} (hr : s.registrations.Has r) (hp : s.providers.Has p)
    (discovered : Bool) : ((Op.install r p discovered).left s).Recorded := by
  obtain ⟨_, hlater⟩ := Op.sound_install h hr hp discovered
  obtain ⟨new, hcalls, hprovider, hmeters⟩ := Op.calls_install h hr hp discovered
  have helse := Op.elsewhere_install (p := p) h hr discovered
  constructor
  · intro d q hmem
    rw [hcalls] at hmem
    rcases List.mem_append.1 hmem with hmem | hmem
    · exact (hlater.providers d (hrecorded.known d q hmem)).1
    · rw [hprovider d q hmem]
      exact (hlater.providers _ (h.owners.known r hr)).1
  · intro r₀ hhas' hend
    have hhas := (helse.has r₀).1 hhas'
    have hdeferred := (hlater.registration hhas).deferred
    rw [hdeferred] at hend
    have hends := Store.ends_of_later hlater hend
    have hbefore := hrecorded.told r₀ hhas hends
    by_cases heq : r₀ = r
    · subst heq
      exact Op.toldOnce_install h hr hp discovered (hagreed r₀ hr hends) hbefore hend
    · have hother : (s.registration r₀).deferred ≠ (s.registration r).deferred :=
        fun hd => heq (h.owners.distinct r₀ r hhas hr hd)
      refine hbefore.extend h hlater hdeferred (by rw [helse.registration r₀ heq]) hcalls ?_ ?_
      · exact fun q hmem => hother (hprovider _ q hmem)
      · intro m t hm hmem
        obtain ⟨hknown, hissuer⟩ := hmeters m t hmem
        rw [(hlater.meter hknown).issuer, hissuer, Option.some.injEq] at hm
        exact hother hm.symm

theorem recorded_makeRegistration (h : Sound s) (hrecorded : s.Recorded) (discovery : Discovery) :
    ((Op.makeRegistration discovery).left s).Recorded := by
  have hcalm := (Silent.addProvider s (p := .freshDeferred) rfl rfl).toCalm
  have hadded := hcalm.recorded h hrecorded
  have hrow := s.registration_makeRegistration discovery
  refine ⟨hadded.known, fun r hhas hend => ?_⟩
  by_cases hr : r = s.registrations.next
  · have hself := (hrow r).trans (if_pos hr)
    constructor
    · intro _ q hmem
      rw [hself] at hmem
      -- nobody can have known the new provider
      exact Table.ne_next_of_has (hrecorded.known _ q hmem) rfl
    · intro p hp
      rw [hself] at hp
      cases hp
  · have hold := (hrow r).trans (if_neg hr)
    have hknown := s.has_of_makeRegistration discovery hhas hr
    rw [hold] at hend
    have hbefore := hadded.told r hknown hend
    exact hbefore.extend (hcalm.sound h) (.addRegistration _ _) (by rw [hold]; rfl)
      (by rw [hold]; rfl)
      (List.append_nil _).symm (by simp) (by simp)

/-- Every change keeps the record of what was told. -/
theorem Change.recorded (h : Sound s) (hagreed : s.Agreed) (hrecorded : s.Recorded)
    (hchange : Change s s') : s'.Recorded := by
  cases hchange with
  | calm hcalm => exact hcalm.recorded h hrecorded
  | install discovered hr hp =>
      exact recorded_install h hagreed hrecorded (h.names.registrations _ _ hr) hp discovered
  | register discovery => exact recorded_makeRegistration h hrecorded discovery

theorem reachable_recorded (h : Reachable s) : s.Recorded := by
  -- what was told is on record as long as the registrations agree on what they have decided
  have hboth := h.induct (I := fun s => s.Agreed ∧ s.Recorded) (fun _ => ⟨nofun, nofun, nofun⟩)
    fun s s' hsound hs hchange =>
      ⟨hchange.agreed hsound hs.1, hchange.recorded hsound hs.1 hs.2⟩
  exact hboth.2.2

/-! ## Agreement -/

/-- The registration agrees with itself: gate, slot and target of the deferred provider say the
same, what is below an unbound node is unbound, and what is bound was made for it by one call on
the provider in effect. -/
structure Agreement (s : Store) (r : RegistrationRef) : Prop where
  fired : (s.gate r).fired = true ↔ (s.registration r).provider.isSome = true
  bound : (s.registration r).provider.isSome = true ↔
    (s.provider (s.registration r).deferred).target?.isSome = true
  same : ∀ p, (s.registration r).provider = some p →
    (s.provider (s.registration r).deferred).target? = some p
  unboundProvider : (s.provider (s.registration r).deferred).target? = none →
    ∀ m ∈ (s.provider (s.registration r).deferred).meters, (s.meter m).target? = none ∧
      ∀ i ∈ (s.meter m).instruments, (s.instrument i).target? = none
  unboundMeter : ∀ m ∈ (s.provider (s.registration r).deferred).meters, (s.meter m).target? = none →
    ∀ i ∈ (s.meter m).instruments, (s.instrument i).target? = none
  /-- The meters of the tree were asked for in one pass, each once, and a bound one is bound to
  what the call with its own scope returned. -/
  made : ∀ p, (s.registration r).provider = some p →
    ∃ before xs later, Pass s (s.registration r).deferred p before xs later ∧
      ∀ m t, (s.meter m).issuer = some (s.registration r).deferred → (s.meter m).target? = some t →
        (s.meter t).scope = (s.meter m).scope ∧
        ∃ x ∈ xs, x.meter = m ∧ x.scope = (s.meter m).scope ∧ x.answer = .ok t

/-- Between steps, gate, slot and tree of every registration whose chain has an end agree. -/
theorem reachable_agreement {r : RegistrationRef} (h : Reachable s) (hr : s.registrations.Has r)
    (hend : (s.providerEnd? (s.registration r).deferred).isSome = true) : Agreement s r := by
  have hsound := reachable_sound h
  have hagrees := reachable_agreed h r hr hend
  have hdeferred := hsound.owners.deferred r hr
  have hunboundMeter : ∀ m, (s.meter m).target? = none →
      ∀ i ∈ (s.meter m).instruments, (s.instrument i).target? = none :=
    fun m hm i hi => hsound.instruments.waiting m i hi hm (by simp)
  constructor
  · rw [hagrees.gate]
  · rw [hagrees.target]
  · intro p hp
    rw [hagrees.target, hp]
  · intro hnone m hm
    have hissued := SoundBut.meters_eq_issued hdeferred
    have hmeter := hsound.tree.waiting _ m (hissued ▸ hm) hnone
    exact ⟨hmeter, hunboundMeter m hmeter⟩
  · exact fun m _ hm => hunboundMeter m hm
  · intro p hp
    obtain ⟨before, xs, later, hpass⟩ := ((reachable_recorded h).told r hr hend).passed p hp
    refine ⟨before, xs, later, hpass, fun m t hm ht => ⟨?_, hpass.exists_trial hsound hm ht⟩⟩
    exact (hsound.bindings.made m t (.inl ht)).scope

theorem reachable_agreement_poisoned :
    Agreement (Scenario.after 1 none .poisoned [.setProvider "r" "p"]) ⟨0⟩ :=
  reachable_agreement (reachable_poisoned.after 1 none (by decide)) (by decide +kernel)
    (by decide +kernel)

end DeferredMetrics
