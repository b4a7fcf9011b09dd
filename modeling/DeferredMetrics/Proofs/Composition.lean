import DeferredMetrics.Proofs.Family

set_option autoImplicit false

/-! # Chains of registrations

When all registrations of a chain have taken their providers, a handle from its first one is as
good as a handle from the recording provider at its end, in whatever order the registrations were
made and the handle was got; as long as one is missing, samples are discarded
(`composes_of_runs`). -/

namespace DeferredMetrics

open Relation (ReflTransGen)

/-- What a provider has issued for all handles, it has issued for those that lead to it. -/
theorem Store.OneForEach.narrow {start s : Store} {p : ProviderRef} {held held' : Kin}
    (h : start.OneForEach s p held)
    (hmeters : ∀ m t, start.NewMeter s p t → s.meterEnd? m = some t →
      (held'.meters m ↔ held.meters m))
    (hinstruments : ∀ i j, start.NewInstrument s p j → s.instrumentEnd? i = some j →
      (held'.instruments i ↔ held.instruments i)) : start.OneForEach s p held' where
  meters t ht := by
    obtain ⟨m, ⟨hm, hend⟩, hunique⟩ := h.meters t ht
    refine ⟨m, ⟨(hmeters m t ht hend).2 hm, hend⟩, fun k hk => ?_⟩
    exact hunique k ⟨(hmeters k t ht hk.2).1 hk.1, hk.2⟩
  instruments j hj := by
    obtain ⟨i, ⟨hi, hend⟩, hunique⟩ := h.instruments j hj
    refine ⟨i, ⟨(hinstruments i j hj hend).2 hi, hend⟩, fun k hk => ?_⟩
    exact hunique k ⟨(hinstruments k j hj hk.2).1 hk.1, hk.2⟩
  listed := h.listed
  created := h.created

namespace Family

/-- All registrations of the chain that begins with `r` have taken their providers, and it ends at
the recording provider `b`. -/
inductive Connects (F : Family) (start : Store) (made : RegistrationRef → Bool) :
    RegistrationRef → ProviderRef → Prop where
  | last {r : RegistrationRef} {b : ProviderRef} (hr : F.members r) (hmade : made r = true)
      (hplan : F.plan r = b) (hb : start.Records b) : F.Connects start made r b
  | link {r r' : RegistrationRef} {b : ProviderRef} (hlink : F.Links start r r')
      (hmade : made r = true) (h : F.Connects start made r' b) : F.Connects start made r b

/-- The handles that callers have got through chains to the provider `b`. -/
def through (F : Family) (start : Store) (a : Account) (b : ProviderRef) : Kin where
  meters m := ∃ r scope, a.meters m r scope ∧ F.Connects start a.made r b
  instruments i := ∃ m request r scope, a.instruments i m request ∧ a.meters m r scope ∧
    F.Connects start a.made r b

/-- Every call is answered. A meter through a chain to `b` leads to a new one of `b` of the scope
that the caller has asked by, and an instrument to one of that meter by the same request: each
sample is one event of that meter, and so is each measurement that the callback of the request
yields. `b` has issued nothing else. An instrument whose chain is not complete discards. -/
structure Composes (F : Family) (start : Store) (a : Account) (s : Store) : Prop where
  setProvider : ∀ r, F.members r →
    ∃ s', Op.setProvider r (F.plan r) s = .ok (!a.made r) s'
  getProvider : ∀ r, F.members r → ∀ depth,
    ∃ q s', Op.getProvider depth r s = .ok (.ok q) s'
  getMeter : ∀ r, F.members r → ∀ depth scope,
    ∃ m s', Op.getMeter depth r scope s = .ok (.ok m) s'
  requestMeter : ∀ q r, a.providers q r → ∀ scope,
    ∃ m s', Op.requestMeter q scope s = .ok m s'
  requestInstrument : ∀ m r scope, a.meters m r scope → ∀ request,
    ∃ i s', Op.requestInstrument m request s = .ok i s'
  record : ∀ i m request, a.instruments i m request → ∀ sample attributes,
    ∃ s', Op.record i sample attributes s = .ok () s'
  meter : ∀ m r scope b, a.meters m r scope → F.Connects start a.made r b →
    ∃ t, s.meterEnd? m = some t ∧ start.NewMeter s b t ∧ (s.meter t).scope = scope
  instrument : ∀ i m request r scope b, a.instruments i m request → a.meters m r scope →
    F.Connects start a.made r b → ∃ j t, start.Arrives s b i j ∧ (s.instrument j).issuer = t ∧
      s.meterEnd? m = some t ∧ (s.meter t).scope = scope ∧ Reaches s i request t
  oneForEach : ∀ b, start.Records b → start.OneForEach s b (F.through start a b)
  discards : ∀ i m request r scope, a.instruments i m request → a.meters m r scope →
    (∀ b, ¬ F.Connects start a.made r b) → Discards s i

namespace Keeps

variable {F : Family} {start s : Store} {a : Account}

/-- A chain of registrations that have taken their providers is a chain of targets. -/
theorem end_of_connects (h : F.Keeps start a s) {r : RegistrationRef} {b : ProviderRef}
    (hconnects : F.Connects start a.made r b) :
    F.members r ∧ start.Records b ∧
      s.providerEnd? (start.registration r).deferred = some b := by
  obtain ⟨_, hfamily⟩ := h.family
  induction hconnects with
  | last hr hmade hplan hb =>
      refine ⟨hr, hb, Store.providerEnd?_eq_some.2 ⟨?_, ?_⟩⟩
      · exact hplan ▸ h.handsOn_plan hr hmade
      · exact (alone_of_records hb hfamily.later).2.2
  | link hlink hmade _ ih =>
      obtain ⟨hr, _, hplan⟩ := hlink
      obtain ⟨_, hb, hend⟩ := ih
      have hnext := h.handsOn_plan hr hmade
      rw [hplan] at hnext
      obtain ⟨hlead, hlast⟩ := Store.providerEnd?_eq_some.1 hend
      exact ⟨hr, hb, Store.providerEnd?_eq_some.2 ⟨hnext.trans hlead, hlast⟩⟩

/-- A chain of targets to a recording provider is a chain of registrations that have taken their
providers. -/
theorem connects_of_leads (hstart : F.Waits start) (h : F.Keeps start a s) {b q : ProviderRef}
    (hb : start.Records b) (hlead : s.HandsOn q b) {r : RegistrationRef} (hr : F.members r)
    (hq : q = (start.registration r).deferred) : F.Connects start a.made r b := by
  obtain ⟨_, hfamily⟩ := h.family
  induction hlead using ReflTransGen.head_induction_on generalizing r with
  | refl =>
      have hdeferred : (start.provider (start.registration r).deferred).isDeferred = true :=
        (reachable_sound hstart.reachable).owners.deferred r (hstart.known r hr)
      rw [← hq, (alone_of_records hb (.refl start)).2.1] at hdeferred
      cases hdeferred
  | @head q q' hnext hrest ih =>
      have htarget := h.targets r hr
      rw [← hq, show (s.provider q).target? = some q' from hnext] at htarget
      split at htarget
      case isFalse => cases htarget
      case isTrue hmade =>
        have hplan := Option.some.inj htarget
        rcases hstart.planned r hr with ⟨r', hlink⟩ | hrecords
        · exact .link hlink hmade (ih hlink.2.1 (hplan.trans hlink.2.2))
        · -- a recording provider is the end
          have hnone := (alone_of_records hrecords hfamily.later).2.2
          rcases ReflTransGen.cases_head hrest with rfl | ⟨x, hx, _⟩
          · exact .last hr hmade hplan.symm hb
          · have hx : (s.provider q').target? = some x := hx
            rw [hplan, hnone] at hx
            cases hx

theorem connects_of_end (hstart : F.Waits start) (h : F.Keeps start a s) {r : RegistrationRef}
    (hr : F.members r) {b : ProviderRef} (hb : start.Records b)
    (hend : s.providerEnd? (start.registration r).deferred = some b) :
    F.Connects start a.made r b :=
  h.connects_of_leads hstart hb (Store.providerEnd?_eq_some.1 hend).1 hr rfl

/-- A meter that a caller holds leads to one of the scope that the caller has asked by, of the end
of the chain. -/
theorem meter_end (h : F.Keeps start a s) {own : Kin}
    (hfamily : Lineage (F.Houses start) start a.kin own .nothing s) {m : MeterRef}
    {r : RegistrationRef} {scope : Scope} (hm : a.meters m r scope) :
    ∃ t e, s.meterEnd? m = some t ∧ own.meters t ∧ (s.meter t).scope = scope ∧
      (s.meter t).issuer = some e ∧ F.Houses start e ∧
      s.providerEnd? (start.registration r).deferred = some e := by
  have hown := hfamily.meters.lines.own_of_held m ⟨r, scope, hm⟩
  obtain ⟨hr, hscope, q, hq, hlead⟩ := h.holds.meters m r scope hm
  obtain ⟨t, q', e, ht, htown, hsame, hq', hissuer, hqe, hte⟩ := hfamily.meter_end hown
  obtain rfl : q = q' := Option.some.inj (hq.symm.trans hissuer)
  obtain ⟨hlead', hlast⟩ := Store.providerEnd?_eq_some.1 hqe
  exact ⟨t, e, ht, htown, hsame.trans hscope, hte, hfamily.providers.end hq' hqe,
    Store.providerEnd?_eq_some.2 ⟨hlead.trans hlead', hlast⟩⟩

/-- An instrument that a caller holds leads to one by the same request, of the meter that the meter
of the caller leads to. -/
theorem instrument_end (h : F.Keeps start a s) {own : Kin}
    (hfamily : Lineage (F.Houses start) start a.kin own .nothing s) {i : InstrumentRef}
    {m : MeterRef} {request : Request} (hi : a.instruments i m request) :
    ∃ j, s.instrumentEnd? i = some j ∧ own.instruments j ∧
      (s.instrument j).request = (s.instrument i).request ∧ (s.instrument i).request = request ∧
      s.meterEnd? m = some (s.instrument j).issuer := by
  have hown := hfamily.instruments.lines.own_of_held i ⟨m, request, hi⟩
  obtain ⟨_, _, hrequest, hlead⟩ := h.holds.instruments i m request hi
  obtain ⟨j, hj, hjown, hsame, hissuer⟩ := hfamily.instrument_end_of_leads hown hlead
  exact ⟨j, hj, hjown, hsame, hrequest, hissuer⟩

theorem getMeter (hstart : F.Waits start) (h : F.Keeps start a s) {r : RegistrationRef}
    (hr : F.members r) (depth : Nat) (scope : Scope) :
    ∃ m s', Op.getMeter depth r scope s = .ok (.ok m) s' := by
  obtain ⟨q, s₁, hfound, hnext⟩ := h.getProvider hstart hr depth
  obtain ⟨m, s₂, hasked, _⟩ := hnext.requestMeter (.inl ⟨rfl, rfl⟩) scope
  refine ⟨m, s₂, ?_⟩
  rw [Op.getMeter, Op.bind_of_ok hfound]
  simp only [Op.bind_of_ok hasked]
  rfl

/-! ### Handles whose chain is complete, and handles whose chain is not -/

section Complete

variable {own : Kin} {m : MeterRef} {r : RegistrationRef} {scope : Scope} {b : ProviderRef}

theorem meter (hstart : F.Waits start) (h : F.Keeps start a s)
    (hfamily : Lineage (F.Houses start) start a.kin own .nothing s) (hm : a.meters m r scope)
    (hconnects : F.Connects start a.made r b) :
    ∃ t, s.meterEnd? m = some t ∧ start.NewMeter s b t ∧ (s.meter t).scope = scope := by
  obtain ⟨_, hb, hend⟩ := h.end_of_connects hconnects
  obtain ⟨t, e, ht, htown, hscope, hissuer, _, he⟩ := h.meter_end hfamily hm
  obtain rfl : e = b := Option.some.inj (he.symm.trans hend)
  have hnew := hfamily.new_meter (reachable_sound hstart.reachable) htown hissuer
    (alone_of_records hb hfamily.later).2.1
  exact ⟨t, ht, ⟨hfamily.has_meter htown, hnew, hissuer⟩, hscope⟩

theorem instrument (hstart : F.Waits start) (h : F.Keeps start a s)
    (hfamily : Lineage (F.Houses start) start a.kin own .nothing s) {i : InstrumentRef}
    {request : Request} (hi : a.instruments i m request) (hm : a.meters m r scope)
    (hconnects : F.Connects start a.made r b) :
    ∃ j t, start.Arrives s b i j ∧ (s.instrument j).issuer = t ∧ s.meterEnd? m = some t ∧
      (s.meter t).scope = scope ∧ Reaches s i request t := by
  obtain ⟨_, hb, _⟩ := h.end_of_connects hconnects
  obtain ⟨t, ht, hnew, hscope⟩ := h.meter hstart hfamily hm hconnects
  obtain ⟨j, hj, hjown, hsame, hrequest, hjissuer⟩ := h.instrument_end hfamily hi
  obtain rfl : (s.instrument j).issuer = t := Option.some.inj (hjissuer.symm.trans ht)
  obtain ⟨hrecording, hreal, _⟩ := alone_of_records hb hfamily.later
  have harrives := hfamily.arrives (reachable_sound hstart.reachable) hj hjown hsame hnew.issuer
    hreal
  exact ⟨j, _, harrives, rfl, ht, hscope, hrequest ▸ harrives.takes.reaches hrecording⟩

/-- A meter that leads to one of a recording provider was got through a chain to that. -/
theorem connects_of_issuer (hstart : F.Waits start) (h : F.Keeps start a s)
    (hfamily : Lineage (F.Houses start) start a.kin own .nothing s) (hb : start.Records b)
    (hm : a.meters m r scope) {t : MeterRef} (ht : s.meterEnd? m = some t)
    (hissuer : (s.meter t).issuer = some b) : F.Connects start a.made r b := by
  obtain ⟨t', e, ht', _, _, hte, _, he⟩ := h.meter_end hfamily hm
  obtain rfl : t' = t := Option.some.inj (ht'.symm.trans ht)
  obtain rfl : e = b := Option.some.inj (hte.symm.trans hissuer)
  exact h.connects_of_end hstart (h.holds.meters m r scope hm).1 hb he

theorem oneForEach (hstart : F.Waits start) (h : F.Keeps start a s)
    (hfamily : Lineage (F.Houses start) start a.kin own .nothing s) (hb : start.Records b) :
    start.OneForEach s b (F.through start a b) := by
  have hreal := (alone_of_records hb hfamily.later).2.1
  refine (hfamily.oneForEach hreal).narrow (fun m t ht hend => ?_) fun i j hj hend => ?_
  · constructor
    · rintro ⟨r, scope, hm, _⟩
      exact ⟨r, scope, hm⟩
    · rintro ⟨r, scope, hm⟩
      exact ⟨r, scope, hm, h.connects_of_issuer hstart hfamily hb hm hend ht.issuer⟩
  · constructor
    · rintro ⟨m, request, _, _, hi, _⟩
      exact ⟨m, request, hi⟩
    · rintro ⟨m, request, hi⟩
      obtain ⟨⟨r, scope, hm⟩, _⟩ := h.holds.instruments i m request hi
      obtain ⟨k, hk, _, _, _, hissuer⟩ := h.instrument_end hfamily hi
      obtain rfl : k = j := Option.some.inj (hk.symm.trans hend)
      exact ⟨m, request, r, scope, hi, hm,
        h.connects_of_issuer hstart hfamily hb hm hissuer hj.issuer⟩

theorem discards (hstart : F.Waits start) (h : F.Keeps start a s)
    (hfamily : Lineage (F.Houses start) start a.kin own .nothing s) {i : InstrumentRef}
    {request : Request} (hi : a.instruments i m request) (hm : a.meters m r scope)
    (hnone : ∀ b, ¬ F.Connects start a.made r b) : Discards s i := by
  have hsound := reachable_sound hstart.reachable
  obtain ⟨t, e, ht, _, _, hissuer, hhouse, he⟩ := h.meter_end hfamily hm
  obtain ⟨j, hj, hjown, _, _, hjissuer⟩ := h.instrument_end hfamily hi
  obtain rfl : (s.instrument j).issuer = t := Option.some.inj (hjissuer.symm.trans ht)
  rcases hstart.records hhouse with hrecords | ⟨r', hr', rfl⟩
  · have hconnects := h.connects_of_end hstart (h.holds.meters m r scope hm).1 hrecords he
    exact absurd hconnects (hnone e)
  · have hknown := hstart.known r' hr'
    have hgrows := hfamily.later.provider (hsound.owners.known r' hknown)
    refine hfamily.discards hj hjown hissuer ?_
    exact (Provider.isDeferred_of_freshBody hgrows.freshBody).trans
      (hsound.owners.deferred r' hknown)

end Complete

end Keeps

end Family

/-- Chained registrations compose: whatever has been done with a family, in whatever order, its
handles behave as their chains say. -/
theorem composes_of_runs {F : Family} {start s : Store} {a : Account} (hstart : F.Waits start)
    (h : F.Runs start a s) : F.Composes start a s := by
  have hkeeps := Family.keeps_of_runs hstart h
  obtain ⟨own, hfamily⟩ := hkeeps.family
  constructor
  case setProvider =>
    intro r hr
    obtain ⟨s', hrun, _⟩ := hkeeps.setProvider hstart hr
    exact ⟨s', hrun⟩
  case getProvider =>
    intro r hr depth
    obtain ⟨q, s', hrun, _⟩ := hkeeps.getProvider hstart hr depth
    exact ⟨q, s', hrun⟩
  case getMeter => exact fun r hr depth scope => hkeeps.getMeter hstart hr depth scope
  case requestMeter =>
    intro q r hq scope
    obtain ⟨m, s', hrun, _⟩ := hkeeps.requestMeter hq scope
    exact ⟨m, s', hrun⟩
  case requestInstrument =>
    intro m r scope hm request
    obtain ⟨i, s', hrun, _⟩ := hkeeps.requestInstrument hm request
    exact ⟨i, s', hrun⟩
  case record =>
    intro i m request hi sample attributes
    obtain ⟨j, hend, _⟩ := hkeeps.instrument_end hfamily hi
    exact ⟨_, Op.record_run hend sample attributes⟩
  case meter => exact fun m r scope b hm hc => hkeeps.meter hstart hfamily hm hc
  case instrument =>
    exact fun i m request r scope b hi hm hc => hkeeps.instrument hstart hfamily hi hm hc
  case oneForEach => exact fun b hb => hkeeps.oneForEach hstart hfamily hb
  case discards =>
    exact fun i m request r scope hi hm hnone => hkeeps.discards hstart hfamily hi hm hnone

/-! ## Two registrations -/

/-- Two registrations, a recording provider, and a meter from the first registration. -/
def Store.chained : Store :=
  Scenario.after 1 none (.initial .empty)
    [.registration "a" none (.settings []) none,
      .registration "b" none (.settings []) none,
      .provider "p" .recording,
      .getMeter "a" "m" (.named "kept")]

/-- The first registration is to take the deferred provider of the second, and that the recording
provider. -/
def Family.chained : Family where
  members r := r = ⟨0⟩ ∨ r = ⟨1⟩
  plan r := if r = ⟨0⟩ then ⟨1⟩ else ⟨2⟩

theorem Family.records_chained : Store.chained.Records ⟨2⟩ where
  known := by decide +kernel
  recording := by decide +kernel
  willing n ask := by
    have hp : Store.chained.provider ⟨2⟩ = .freshRecording none := rfl
    rw [hp]
    cases ask <;> rfl

theorem Family.links_chained {r r' : RegistrationRef}
    (h : Family.chained.Links .chained r r') : r = ⟨0⟩ ∧ r' = ⟨1⟩ := by
  obtain ⟨rfl | rfl, rfl | rfl, hplan⟩ := h <;> revert hplan <;> decide +kernel

theorem Family.waits_chained : Family.chained.Waits .chained where
  reachable := .after _ _ (.initial _) (by decide)
  known := by rintro r (rfl | rfl) <;> decide +kernel
  waiting := by rintro r (rfl | rfl) <;> decide +kernel
  idle := by
    have hnone : ∀ r : RegistrationRef, r = ⟨0⟩ ∨ r = ⟨1⟩ →
        (Store.chained.registration r).discovery.value? Store.chained.environment = none := by
      rintro r (rfl | rfl) <;> decide +kernel
    intro r hr value hvalue
    rw [hnone r hr] at hvalue
    cases hvalue
  planned := by
    rintro r (rfl | rfl)
    · exact .inl ⟨⟨1⟩, .inl rfl, .inr rfl, by decide +kernel⟩
    · exact .inr records_chained
  acyclic r h := by
    obtain ⟨_, hfirst, _⟩ := Relation.TransGen.head'_iff.1 h
    obtain ⟨_, _, hlast⟩ := Relation.TransGen.tail'_iff.1 h
    have hsame := (links_chained hfirst).1.symm.trans (links_chained hlast).2
    exact absurd hsame (by decide)

/-- An instrument of the meter is got before both registrations are made, the first one first. -/
theorem composes_of_runs_chained :
    ∃ a s i, Family.chained.Runs .chained a s ∧
      a.instruments i ⟨0⟩ ⟨.counter, .named "hits", none⟩ ∧
      Family.chained.Connects .chained a.made ⟨0⟩ ⟨2⟩ ∧ Family.chained.Composes .chained a s := by
  have hwaits := Family.waits_chained
  have hm : (Family.chained.account .chained).meters ⟨0⟩ ⟨0⟩ (.named "kept") :=
    ⟨.inl rfl, by decide +kernel, by decide +kernel⟩
  obtain ⟨i, s₁, hrun₁⟩ := (composes_of_runs hwaits .start).requestInstrument ⟨0⟩ ⟨0⟩ _ hm
    ⟨.counter, .named "hits", none⟩
  have h₁ := Family.Runs.requestInstrument _ .start hm hrun₁
  obtain ⟨s₂, hrun₂⟩ := (composes_of_runs hwaits h₁).setProvider ⟨0⟩ (.inl rfl)
  have h₂ := h₁.setProvider (.inl rfl) hrun₂
  obtain ⟨s₃, hrun₃⟩ := (composes_of_runs hwaits h₂).setProvider ⟨1⟩ (.inr rfl)
  have h₃ := h₂.setProvider (.inr rfl) hrun₃
  refine ⟨_, s₃, i, h₃, .inl ⟨rfl, rfl, rfl⟩, ?_, composes_of_runs hwaits h₃⟩
  exact .link ⟨.inl rfl, .inr rfl, by decide +kernel⟩ rfl
    (.last (.inr rfl) rfl rfl Family.records_chained)

end DeferredMetrics
