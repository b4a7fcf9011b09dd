import DeferredMetrics.Proofs.Asked
import DeferredMetrics.Proofs.Doing
import DeferredMetrics.Proofs.Issuing

set_option autoImplicit false

/-! # What deferred nodes have given

Every deed leaves the lists of the deferred providers and meters as the calls that were made say:
a node without a target has one child more for each request that came to it, and one that has a
target has none (`Deed.tallies`). So it is along any path of deeds (`tallies_of_deeds`). -/

namespace DeferredMetrics

open Relation (ReflTransGen)

namespace Store

variable (s : Store)

/-- The scopes of the meters that a deferred provider has given itself. -/
def scopes (d : ProviderRef) : List Scope := (s.provider d).issued.map fun m => (s.meter m).scope

/-- The requests for the instruments that a deferred meter has given itself. -/
def requests (m : MeterRef) : List Request :=
  (s.meter m).instruments.map fun i => (s.instrument i).request

/-- The providers as nodes that are asked for meters. Nobody can ask a provider before it is there.
-/
def providerNodes : Nodes ProviderRef Scope where
  waits d := s.providers.Has d → (s.provider d).isDeferred = true
  there _ := true
  target d := (s.provider d).target?
  given d := s.scopes d
  size := s.providers.size

/-- The meters as nodes that are asked for instruments. -/
def meterNodes : Nodes MeterRef Request where
  waits m := s.meters.Has m → (s.meter m).body.isDeferred = true
  there m := decide (s.meters.Has m)
  target m := (s.meter m).target?
  given m := s.requests m
  size := s.meters.size

end Store

/-- From `s` to `s'` the calls `new` were made, and deferred providers and meters have given what
these say, all of it new. -/
structure Tallies (new : List Call) (s s' : Store) : Prop where
  calls : s'.calls.toList = s.calls.toList ++ new
  providers : Balance (new.filterMap Call.toProviders) s.providerNodes s'.providerNodes
  meters : Balance (new.filterMap Call.toMeters) s.meterNodes s'.meterNodes
  instruments : s.instruments.size ≤ s'.instruments.size
  newMeters : ∀ d, ∀ m ∈ (s'.provider d).issued,
    m ∈ (s.provider d).issued ∨ ¬ s.meters.Has m ∧ s'.meters.Has m
  newInstruments : ∀ m, ∀ i ∈ (s'.meter m).instruments,
    i ∈ (s.meter m).instruments ∨ ¬ s.instruments.Has i ∧ s'.instruments.Has i

namespace Tallies

variable {s s' s'' : Store} {new new' : List Call}

theorem refl (s : Store) : Tallies [] s s where
  calls := (List.append_nil _).symm
  providers := .refl _
  meters := .refl _
  instruments := Nat.le_refl _
  newMeters _ _ hm := .inl hm
  newInstruments _ _ hi := .inl hi

theorem trans (h : Tallies new s s') (h' : Tallies new' s' s'') : Tallies (new ++ new') s s'' where
  calls := by rw [h'.calls, h.calls, List.append_assoc]
  providers := by
    rw [List.filterMap_append]
    exact h.providers.trans h'.providers
  meters := by
    rw [List.filterMap_append]
    exact h.meters.trans h'.meters
  instruments := Nat.le_trans h.instruments h'.instruments
  newMeters d m hm := by
    rcases h'.newMeters d m hm with hm | ⟨hnew, hknown⟩
    · exact (h.newMeters d m hm).imp id (And.imp id fun hk => Nat.lt_of_lt_of_le hk h'.meters.size)
    · exact .inr ⟨fun hk => hnew (Nat.lt_of_lt_of_le hk h.meters.size), hknown⟩
  newInstruments m i hi := by
    rcases h'.newInstruments m i hi with hi | ⟨hnew, hknown⟩
    · exact (h.newInstruments m i hi).imp id
        (And.imp id fun hk => Nat.lt_of_lt_of_le hk h'.instruments)
    · exact .inr ⟨fun hk => hnew (Nat.lt_of_lt_of_le hk h.instruments), hknown⟩

/-- No call, no notice, and no list that changes. -/
theorem of_lists (hcalls : s'.calls = s.calls)
    (hproviders : Balance [] s.providerNodes s'.providerNodes)
    (hmeters : Balance [] s.meterNodes s'.meterNodes)
    (hinstruments : s.instruments.size ≤ s'.instruments.size)
    (hissued : ∀ d, (s'.provider d).issued = (s.provider d).issued)
    (hlists : ∀ m, (s'.meter m).instruments = (s.meter m).instruments) : Tallies [] s s' where
  calls := by rw [hcalls, List.append_nil]
  providers := hproviders
  meters := hmeters
  instruments := hinstruments
  newMeters d m hm := .inl (hissued d ▸ hm)
  newInstruments m i hi := .inl (hlists m ▸ hi)

/-- A call that is no notice, and nothing else that nodes depend on. -/
theorem of_tables (hproviders : s'.providers = s.providers) (hmeters : s'.meters = s.meters)
    (hinstruments : s'.instruments = s.instruments)
    (hcalls : s'.calls.toList = s.calls.toList ++ new)
    (htoProviders : new.filterMap Call.toProviders = [])
    (htoMeters : new.filterMap Call.toMeters = []) : Tallies new s s' where
  calls := hcalls
  providers := by
    rw [htoProviders, show s'.providerNodes = s.providerNodes by
      simp only [Store.providerNodes, Store.scopes, Store.provider, Store.meter, hproviders,
        hmeters]]
    exact .refl _
  meters := by
    rw [htoMeters, show s'.meterNodes = s.meterNodes by
      simp only [Store.meterNodes, Store.requests, Store.meter, Store.instrument, hmeters,
        hinstruments]]
    exact .refl _
  instruments := by rw [hinstruments]
  newMeters d m hm := by
    rw [Store.provider, hproviders] at hm
    exact .inl hm
  newInstruments m i hi := by
    rw [Store.meter, hmeters] at hi
    exact .inl hi

end Tallies

namespace Meter

theorem instruments_keepRequest_of_isDeferred {m : Meter} (h : m.body.isDeferred = true)
    (request : Request) (j : InstrumentRef) :
    (m.keepRequest request j).instruments = m.instruments ++ [j] := by
  cases hm : m.body <;> simp_all [MeterBody.isDeferred, keepRequest, hold, instruments]

end Meter

/-! ## Nodes that stay as they are -/

theorem Table.Like.size_le {k : ObjectKind} {α : Type} [Inhabited α] {R : α → α → Prop}
    {t t' : Table k α} (h : t.Like R t') : t.size ≤ t'.size :=
  Nat.le_of_not_lt fun hlt => Nat.lt_irrefl _ ((h.has ⟨t'.size⟩).2 hlt)

namespace Store

/-- What stands on a list is there. -/
structure Listed (s : Store) : Prop where
  meters : ∀ d, ∀ m ∈ (s.provider d).issued, s.meters.Has m
  instruments : ∀ m, ∀ i ∈ (s.meter m).instruments, s.instruments.Has i

theorem Listed.of_sound {o : Option (MeterRef × MeterRef)} {s : Store} (h : SoundBut o s) :
    s.Listed :=
  ⟨fun d m hm => (h.tree.issued d m hm).1, fun m i hi => (h.instruments.issued m i hi).1⟩

variable {s s' : Store}

/-- Nothing is noticed of what happens to providers beside targets and lists. -/
theorem tally_providers (hlisted : s.Listed)
    (hproviders : s.providers.Like Provider.Like s'.providers)
    (hscope : ∀ m, s.meters.Has m → (s'.meter m).scope = (s.meter m).scope) :
    Balance [] s.providerNodes s'.providerNodes := by
  refine .of_unnoticed (fun d hd hhas => ?_) (fun _ _ => rfl) ?_ (fun d _ => ?_)
    hproviders.size_le
  · have hdeferred := hd ((hproviders.has d).2 hhas)
    exact (Provider.isDeferred_of_freshBody (hproviders.rows d).freshBody).symm.trans hdeferred
  · exact funext fun d => (hproviders.rows d).target
  · show (s'.provider d).issued.map _ = (s.provider d).issued.map _
    rw [show (s'.provider d).issued = (s.provider d).issued from (hproviders.rows d).issued]
    exact List.map_congr_left fun m hm => hscope m (hlisted.meters d m hm)

/-- Nothing is noticed of what happens to meters beside targets and lists. -/
theorem tally_meters (hlisted : s.Listed) (hmeters : s.meters.Like Meter.Like s'.meters)
    (hlists : ∀ m, (s'.meter m).instruments = (s.meter m).instruments)
    (hrequest : ∀ i, s.instruments.Has i → (s'.instrument i).request = (s.instrument i).request) :
    Balance [] s.meterNodes s'.meterNodes := by
  refine .of_unnoticed (fun m hm hhas => ?_) (fun m _ => ?_) ?_ (fun m _ => ?_) hmeters.size_le
  · have hdeferred := hm ((hmeters.has m).2 hhas)
    rwa [show (s'.meter m).body.isDeferred = _ from (hmeters.rows m).deferred] at hdeferred
  · exact decide_eq_decide.2 (hmeters.has m)
  · exact funext fun m => (hmeters.rows m).target
  · show (s'.meter m).instruments.map _ = (s.meter m).instruments.map _
    rw [hlists]
    exact List.map_congr_left fun i hi => hrequest i (hlisted.instruments m i hi)

end Store

namespace Tallies

variable {s : Store}

theorem keep (hlisted : s.Listed) (m : MeterRef) (events : List Recorded) :
    Tallies [] s (s.updateMeter m fun m => m.keep events) := by
  have hmeters : s.meters.Like Meter.Like (s.meters.update m fun m => m.keep events) :=
    .update Meter.Like.refl (Meter.like_keep _ events)
  have hlists : ∀ k, ((s.updateMeter m fun m => m.keep events).meter k).instruments =
      (s.meter k).instruments :=
    Table.apply_get_update Meter.instruments _ (fun m => m.instruments_keep events) m
  refine .of_lists rfl ?_ (Store.tally_meters hlisted hmeters hlists fun _ _ => rfl) (Nat.le_refl _)
    (fun _ => rfl) hlists
  refine Store.tally_providers hlisted (.refl Provider.Like.refl _) fun k hk => ?_
  exact ((Later.updateMeter (Meter.grows_keep _ events)).meter hk).scope

/-- A new provider is asked for nothing yet. -/
theorem addProvider {p : Provider} (htarget : p.target? = none) (hissued : p.issued = []) :
    Tallies [] s (s.addProvider p) := by
  have htargets : ∀ d, ((s.addProvider p).provider d).target? = (s.provider d).target? :=
    Table.apply_get_add Provider.target? _ htarget
  have hlists : ∀ d, ((s.addProvider p).provider d).issued = (s.provider d).issued :=
    Table.apply_get_add Provider.issued _ hissued
  refine .of_lists rfl ?_ (.refl _) (Nat.le_refl _) hlists fun _ => rfl
  refine .of_unnoticed (fun d hd hhas => ?_) (fun _ _ => rfl) (funext htargets) (fun d _ => ?_)
    (Nat.le_of_lt (by simp [Store.providerNodes, Store.addProvider]))
  · have hdeferred := hd ((Table.has_add _ _ _).2 (.inl hhas))
    rwa [show (s.addProvider p).provider d = _ from s.providers.get_add_of_has p hhas] at hdeferred
  · show ((s.addProvider p).provider d).issued.map _ = (s.provider d).issued.map _
    rw [hlists]
    rfl

/-- A new meter that is not deferred is no node. -/
theorem addMeter (hlisted : s.Listed) {x : Meter} (hbody : x.body.isDeferred = false) :
    Tallies [] s (s.addMeter x) := by
  have hrow : ∀ m, (s.addMeter x).meter m = if m = s.meters.next then x else s.meter m :=
    s.meters.get_add x
  have hold : ∀ m, m ≠ s.meters.next → (s.addMeter x).meter m = s.meter m :=
    fun m hm => (hrow m).trans (if_neg hm)
  have hempty := Meter.alone_of_isDeferred hbody
  have hlists : ∀ m, ((s.addMeter x).meter m).instruments = (s.meter m).instruments :=
    Table.apply_get_add Meter.instruments _ hempty.1
  have hne : ∀ m, (s.addMeter x).meterNodes.waits m → m ≠ s.meters.next := by
    rintro m hm rfl
    have hdeferred := hm (Table.has_next_add _ _)
    rw [hrow, if_pos rfl, hbody] at hdeferred
    cases hdeferred
  refine .of_lists rfl ?_ ?_ (Nat.le_refl _) (fun _ => rfl) hlists
  · refine Store.tally_providers hlisted (.refl Provider.Like.refl _) fun m hm => ?_
    rw [hold m (Table.ne_next_of_has hm)]
  · refine .of_unnoticed (fun m hm hhas => ?_) (fun m hm => ?_)
      (funext (Table.apply_get_add Meter.target? _ hempty.2)) (fun m hm => ?_)
      (Nat.le_of_lt (by simp [Store.meterNodes, Store.addMeter]))
    · have hdeferred := hm ((Table.has_add _ _ _).2 (.inl hhas))
      rwa [hold m (hne m hm)] at hdeferred
    · refine decide_eq_decide.2 ((Table.has_add _ _ _).trans ?_)
      simp [hne m hm]
    · show ((s.addMeter x).meter m).instruments.map _ = (s.meter m).instruments.map _
      rw [hlists]
      rfl

end Tallies

/-! ## Requests for meters -/

namespace Store

variable {s : Store} {p e : ProviderRef}

theorem chase_providers (he : s.providerEnd? p = some e) {looks : Nat}
    (hlooks : s.providers.size < looks) : chase s.providerNodes.target looks p = some e :=
  chase_mono he hlooks

theorem chase_providers_of_none (hend : s.providerEnd? p = none) (looks : Nat) :
    chase s.providerNodes.target looks p = none := by
  cases hchase : chase s.providerNodes.target looks p with
  | none => rfl
  | some e =>
      rw [providerEnd?_eq_some.2 (endsAt_of_chase hchase)] at hend
      cases hend

/-- A deferred provider answers with a meter of its own. -/
theorem meterAnswer_of_isDeferred (he : (s.provider e).isDeferred = true) (scope : Scope) :
    s.meterAnswer e scope = .ok s.meters.next := by
  rw [meterAnswer, Provider.refusal_of_isDeferred he]

/-- The provider at the end of the chain gives a meter, if it is deferred, and no other provider
does. -/
theorem tally_askMeter (h : Sound s) (hp : s.providers.Has p) (he : s.providerEnd? p = some e)
    (scope : Scope) :
    Balance [.asked p scope] s.providerNodes (s.askMeter p e scope).providerNodes := by
  have hknown := h.bindings.has_end hp he
  have htable := providers_askMeter s p e scope
  have hrow := provider_askMeter_ite p scope hknown
  have hdeferred : ∀ d, ((s.askMeter p e scope).provider d).isDeferred =
      (s.provider d).isDeferred := by
    intro d
    rw [hrow]
    split
    · exact Provider.isDeferred_serve _ _
    · rfl
  have hscopes : ∀ d, ((s.provider d).issued.map fun m => ((s.askMeter p e scope).meter m).scope) =
      s.scopes d := fun d => List.map_congr_left fun m hm => by
    rw [meter_askMeter (h.tree.issued d m hm).1]
  constructor
  case waits =>
    intro d hd hhas
    rw [← hdeferred]
    exact hd (by rwa [htable, Table.has_update])
  case there => exact fun _ _ => rfl
  case target =>
    funext d
    show ((s.askMeter p e scope).provider d).target? = _
    rw [hrow]
    split
    · exact Provider.target?_serve _ _
    · rfl
  case given =>
    intro looks hlooks d hd
    have hlooks : s.providers.size < looks := by
      rwa [providerNodes, htable, Table.size_update] at hlooks
    show ((s.askMeter p e scope).provider d).issued.map _ = s.scopes d ++ askedOf looks d true _ _
    -- the one request is owed by `e`, where the chain of `p` ends
    simp only [askedOf, Notice.owed, chase_providers he hlooks, if_true, List.append_nil]
    by_cases hde : d = e
    · subst hde
      have hd_deferred : (s.provider d).isDeferred = true := by
        rw [← hdeferred]
        exact hd (by rwa [htable, Table.has_update])
      have hanswer := meterAnswer_of_isDeferred hd_deferred scope
      rw [hrow, if_pos rfl, if_pos rfl, hanswer, Provider.issued_serve_meter, if_pos hd_deferred,
        List.map_append, hscopes]
      simp only [List.map_cons, List.map_nil, meter_askMeter_of_ok hanswer]
    · rw [hrow, if_neg hde, if_neg fun heq => hde (Option.some.inj heq).symm, hscopes,
        List.append_nil]
  case size => simp [providerNodes, htable]

/-- A meter that is returned is there from then on. -/
theorem tally_meterReturned {scope : Scope} {t : MeterRef}
    (hanswer : s.meterAnswer e scope = .ok t) :
    Balance [.made t] s.meterNodes (s.askMeter p e scope).meterNodes := by
  have hnext := meterAnswer_eq_next s hanswer
  have hrow := meter_askMeter_ite (q := p) hanswer
  have hhas := has_askMeter (q := p) hanswer
  have hsame : ∀ i, (s.askMeter p e scope).instrument i = s.instrument i := fun i => by
    rw [instrument, instruments_askMeter]
    rfl
  have hfresh : s.meter t = default := hnext ▸ s.meters.get_next
  have hnot : ¬ s.meters.Has t := hnext ▸ Nat.lt_irrefl s.meters.size
  constructor
  case waits =>
    intro m hm hknown
    have hdeferred := hm ((hhas m).2 (.inl hknown))
    have hne : m ≠ t := fun hmt => hnot (hmt ▸ hknown)
    rwa [hrow, if_neg hne] at hdeferred
  case there =>
    intro m _
    show decide ((s.askMeter p e scope).meters.Has m) = _
    simp only [List.any_cons, List.any_nil, Bool.or_false, Notice.makes, hhas, Bool.decide_or,
      eq_comm (a := t)]
    rfl
  case target =>
    funext m
    show ((s.askMeter p e scope).meter m).target? = (s.meter m).target?
    rw [hrow]
    split
    · rename_i hm
      rw [hm, hfresh]
      exact target?_freshBody _ _ _
    · rfl
  case given =>
    intro looks _ m _
    show ((s.askMeter p e scope).meter m).instruments.map _ = s.requests m ++ _
    simp only [askedOf, Notice.owed, ite_self, List.append_nil, hsame]
    rw [hrow]
    split
    · rename_i hm
      rw [requests, hm, hfresh]
      exact congrArg (List.map _) (instruments_freshBody _ _ _)
    · rfl
  case size =>
    rw [meterNodes, meterNodes, meters_askMeter_of_ok s p hanswer]
    exact Nat.le_of_lt (by simp)

/-! ## Requests for instruments -/

theorem providers_askInstrument_of_alone (s : Store) (m : MeterRef) {t : MeterRef}
    (request : Request) (hissuer : (s.meter t).issuer = none) :
    (s.askInstrument m t request).providers = s.providers := by
  have hgive : ((s.note (.instrument m request)).giveInstrument t request).providers =
      s.providers := by
    unfold giveInstrument
    rw [show ((s.note (.instrument m request)).meter t).issuer = none from hissuer]
    simp only
    split <;> rfl
  rw [askInstrument, providers_noteReturn, hgive]

/-- Which meter was asked first makes no difference to providers. -/
theorem providers_askInstrument_congr (s : Store) (m m' t : MeterRef) (request : Request) :
    (s.askInstrument m t request).providers = (s.askInstrument m' t request).providers := by
  cases hissuer : (s.meter t).issuer with
  | some e =>
      rw [providers_askInstrument s m request hissuer, providers_askInstrument s m' request hissuer]
  | none =>
      rw [providers_askInstrument_of_alone s m request hissuer,
        providers_askInstrument_of_alone s m' request hissuer]

/-- A request for an instrument changes no target and no list of a provider. -/
theorem likes_askInstrument (s : Store) (m t : MeterRef) (request : Request) :
    s.providers.Like Provider.Like (s.askInstrument m t request).providers := by
  cases hissuer : (s.meter t).issuer with
  | some e =>
      rw [providers_askInstrument s m request hissuer]
      refine .update Provider.Like.refl ⟨?_, ?_, ?_⟩
      · exact Provider.freshBody_serve _ _
      · exact Provider.target?_serve _ _
      · exact Provider.issued_serve_instrument _ _ _
  | none =>
      rw [providers_askInstrument_of_alone s m request hissuer]
      exact .refl Provider.Like.refl _

/-- A deferred meter answers with an instrument of its own. -/
theorem instrumentAnswer_of_isDeferred {t : MeterRef} (hfits : s.MeterFits t)
    (ht : (s.meter t).body.isDeferred = true) (request : Request) :
    s.instrumentAnswer t request = .ok s.instruments.next := by
  have hrefusal := Op.instrumentRefusal_eq_none request hfits
    (fun r hr => by rw [hr] at ht; cases ht) (fun hsdk => by rw [hsdk] at ht; cases ht)
  rw [instrumentAnswer, hrefusal]

/-- A meter at the end of the chain gives an instrument, if it is deferred, and no other meter does.
-/
theorem tally_askInstrument (hlisted : s.Listed) {m t : MeterRef} (ht : s.meterEnd? m = some t)
    (hfits : s.MeterFits t) (request : Request) :
    Balance [.asked m request] s.meterNodes (s.askInstrument m t request).meterNodes := by
  have htable := meters_askInstrument s m t request
  have hlater := Later.askInstrument s m t request
  have hlike : s.meters.Like Meter.Like (s.askInstrument m t request).meters := by
    rw [htable]
    exact .update Meter.Like.refl (Meter.like_take _ _ _)
  have hrequests : ∀ k, ((s.meter k).instruments.map fun i =>
      ((s.askInstrument m t request).instrument i).request) = s.requests k := fun k =>
    List.map_congr_left fun i hi => (hlater.instrument (hlisted.instruments k i hi)).request
  have hdeferred : ∀ k, (s.askInstrument m t request).meterNodes.waits k → s.meters.Has k →
      (s.meter k).body.isDeferred = true := fun k hk hhas =>
    (hlike.rows k).deferred.symm.trans (hk ((hlike.has k).2 hhas))
  refine ⟨hdeferred, fun k _ => ?_, ?_, fun looks hlooks k hk => ?_, hlike.size_le⟩
  · simp only [List.any_cons, List.any_nil, Notice.makes, Bool.or_false]
    exact decide_eq_decide.2 (hlike.has k)
  · exact funext fun k => (hlike.rows k).target
  · have hlooks : s.meters.size < looks := Nat.lt_of_le_of_lt hlike.size_le hlooks
    have hchase : chase s.meterNodes.target looks m = some t := chase_mono ht hlooks
    show ((s.askInstrument m t request).meter k).instruments.map _ =
      s.requests k ++ askedOf looks k (decide (s.meters.Has k)) _ _
    simp only [askedOf, Notice.owed, hchase, List.append_nil, Option.some.injEq]
    rw [meter, htable, Table.get_update]
    by_cases hboth : k = t ∧ s.meters.Has t
    · obtain ⟨rfl, hknown⟩ := hboth
      have hbody := hdeferred k hk hknown
      have hanswer := instrumentAnswer_of_isDeferred hfits hbody request
      have hinstruments := instruments_askInstrument_of_ok s m hanswer
      have hnew : ((s.askInstrument m k request).instrument s.instruments.next).request =
          request := by
        rw [instrument, hinstruments, Table.get_add_next]
      rw [if_pos ⟨rfl, hknown⟩, hanswer]
      show ((s.meter k).keepRequest request s.instruments.next).instruments.map _ = _
      rw [Meter.instruments_keepRequest_of_isDeferred hbody, List.map_append, hrequests]
      simp [hnew, hknown]
    · rw [if_neg hboth]
      refine (hrequests k).trans ?_
      by_cases hk_there : s.meters.Has k
      · simp [hk_there, show t ≠ k from fun h => hboth ⟨h.symm, h ▸ hk_there⟩]
      · simp [hk_there]

end Store

/-! ## Deeds -/

/-- What is asked of providers stands in the calls without what they return. -/
theorem toProviders_returns {α : Type} (answer : Except Payload α) (returned : α → Call)
    (hreturned : ∀ a, (returned a).toProviders = none) :
    (Store.returns answer returned).filterMap Call.toProviders = [] := by
  cases answer with
  | ok a => simp [Store.returns, hreturned]
  | error payload => rfl

namespace InstrumentTrial

theorem calls_eq (t : MeterRef) (x : InstrumentTrial) :
    x.calls t = [.bindInstrument x.instrument t] ++
      .instrument t x.request :: Store.returns x.answer .instrumentReturned := by
  cases hx : x.answer <;> simp [calls, Store.returns, hx]

/-- Only the meter itself is asked while its instruments are tried. -/
theorem toMeters_calls (t : MeterRef) (xs : List InstrumentTrial) :
    (xs.flatMap (calls t)).filterMap Call.toMeters = xs.map fun x => .asked t x.request := by
  induction xs with
  | nil => rfl
  | cons x xs ih =>
      rw [List.flatMap_cons, List.filterMap_append, ih, calls_eq, List.map_cons]
      cases x.answer <;> rfl

end InstrumentTrial

namespace Store

variable {s : Store}

/-- Where a provider was asked for a meter, only a new meter is new on a list. -/
theorem mem_issued_askMeter {p e d : ProviderRef} {scope : Scope} {m : MeterRef}
    (h : m ∈ ((s.askMeter p e scope).provider d).issued) :
    m ∈ (s.provider d).issued ∨ ¬ s.meters.Has m ∧ (s.askMeter p e scope).meters.Has m := by
  rw [provider, providers_askMeter, Table.get_update] at h
  split at h
  · cases hanswer : s.meterAnswer e scope with
    | error payload =>
        rw [hanswer] at h
        exact .inl (Provider.issued_probed _ ▸ h)
    | ok t =>
        rw [hanswer, Provider.issued_serve_meter] at h
        split at h
        · refine (List.mem_append.1 h).imp id fun hm => ?_
          obtain rfl := List.mem_singleton.1 hm
          refine ⟨?_, (has_askMeter hanswer m).2 (.inr rfl)⟩
          rw [meterAnswer_eq_next s hanswer]
          exact Nat.lt_irrefl s.meters.size
        · exact .inl h
  · exact .inl h

/-- A new meter keeps no instruments. -/
theorem mem_instruments_askMeter {p e : ProviderRef} {scope : Scope} {m : MeterRef}
    {i : InstrumentRef} (h : i ∈ ((s.askMeter p e scope).meter m).instruments) :
    i ∈ (s.meter m).instruments := by
  cases hanswer : s.meterAnswer e scope with
  | error payload => rwa [meter, meters_askMeter_of_error s p hanswer] at h
  | ok t =>
      rw [meter_askMeter_ite hanswer] at h
      split at h
      · rw [instruments_freshBody] at h
        cases h
      · exact h

/-- Where a meter was asked for an instrument, only a new instrument is new on a list. -/
theorem mem_instruments_askInstrument {m t k : MeterRef} {request : Request} {i : InstrumentRef}
    (h : i ∈ ((s.askInstrument m t request).meter k).instruments) :
    i ∈ (s.meter k).instruments ∨
      ¬ s.instruments.Has i ∧ (s.askInstrument m t request).instruments.Has i := by
  rw [meter, meters_askInstrument, Table.get_update] at h
  split at h
  · cases hanswer : s.instrumentAnswer t request with
    | error payload =>
        rw [hanswer] at h
        exact .inl h
    | ok j =>
        rw [hanswer] at h
        refine (Meter.mem_instruments_keepRequest h).imp_right ?_
        rintro ⟨_, rfl⟩
        obtain rfl := instrumentAnswer_eq_next s hanswer
        refine ⟨Nat.lt_irrefl s.instruments.size, ?_⟩
        rw [instruments_askInstrument_of_ok s m hanswer]
        exact Table.has_next_add _ _
  · exact .inl h

end Store

namespace Tallies

variable {s : Store}

theorem askMeter (h : Sound s) {p e : ProviderRef} (scope : Scope) (hp : s.providers.Has p)
    (he : s.providerEnd? p = some e) :
    Tallies (.meter p scope :: Store.returns (s.meterAnswer e scope) .meterReturned) s
      (s.askMeter p e scope) := by
  have hlisted := Store.Listed.of_sound h
  constructor
  case calls => exact Store.calls_askMeter s p e scope
  case providers =>
    rw [List.filterMap_cons, toProviders_returns _ _ fun _ => rfl]
    exact Store.tally_askMeter h hp he scope
  case meters =>
    cases hanswer : s.meterAnswer e scope with
    | ok t => exact Store.tally_meterReturned hanswer
    | error payload =>
        have hmeters := Store.meters_askMeter_of_error s p hanswer
        have hinstruments := Store.instruments_askMeter s p e scope
        refine Store.tally_meters hlisted (hmeters ▸ .refl Meter.Like.refl _) (fun m => ?_)
          fun i _ => ?_
        · rw [Store.meter, hmeters]
          rfl
        · rw [Store.instrument, hinstruments]
          rfl
  case instruments => rw [Store.instruments_askMeter]
  case newMeters => exact fun _ _ hm => Store.mem_issued_askMeter hm
  case newInstruments => exact fun _ _ hi => .inl (Store.mem_instruments_askMeter hi)

/-- A request that is lost in a circle is one that nobody has to answer. -/
theorem loseMeter {p : ProviderRef} (scope : Scope) (hend : s.providerEnd? p = none) :
    Tallies [.meter p scope] s (s.note (.meter p scope)) := by
  constructor
  case calls => exact Array.toList_push
  case providers =>
    refine ⟨fun _ h => h, fun _ _ => rfl, rfl, fun looks _ d _ => ?_, Nat.le_refl _⟩
    show s.scopes d = s.scopes d ++ askedOf looks d true _ [.asked p scope]
    simp [askedOf, Notice.owed, Store.chase_providers_of_none hend]
  case meters => exact .refl _
  case instruments => exact Nat.le_refl _
  case newMeters => exact fun _ _ hm => .inl hm
  case newInstruments => exact fun _ _ hi => .inl hi

theorem askInstrument (hlisted : s.Listed) {m t : MeterRef} (request : Request)
    (ht : s.meterEnd? m = some t) (hfits : s.MeterFits t) :
    Tallies (.instrument m request ::
      Store.returns (s.instrumentAnswer t request) .instrumentReturned) s
      (s.askInstrument m t request) := by
  have hlater := Later.askInstrument s m t request
  have hproviders := Store.likes_askInstrument s m t request
  constructor
  case calls => exact Store.calls_askInstrument s m t request
  case providers =>
    rw [List.filterMap_cons, toProviders_returns _ _ fun _ => rfl]
    exact Store.tally_providers hlisted hproviders fun m hm => (hlater.meter hm).scope
  case meters =>
    rw [show List.filterMap Call.toMeters (.instrument m request ::
      Store.returns (s.instrumentAnswer t request) .instrumentReturned) = [.asked m request] by
        cases s.instrumentAnswer t request <;> rfl]
    exact Store.tally_askInstrument hlisted ht hfits request
  case instruments =>
    rw [Store.instruments_askInstrument]
    cases s.instrumentAnswer t request <;> simp
  case newMeters =>
    intro d k hk
    rw [show ((s.askInstrument m t request).provider d).issued = _ from
      (hproviders.rows d).issued] at hk
    exact .inl hk
  case newInstruments => exact fun _ _ hi => Store.mem_instruments_askInstrument hi

theorem loseInstrument {m : MeterRef} (request : Request) (hend : s.meterEnd? m = none) :
    Tallies [.instrument m request] s (s.note (.instrument m request)) := by
  constructor
  case calls => exact Array.toList_push
  case providers => exact .refl _
  case meters =>
    refine ⟨fun _ h => h, fun k _ => ?_, rfl, fun looks _ k _ => ?_, Nat.le_refl _⟩
    · show _ = (_ || [Notice.asked m request].any _)
      simp [Notice.makes]
      rfl
    · have hchase : chase s.meterNodes.target looks m = none := by
        cases hchase : chase s.meterNodes.target looks m with
        | none => rfl
        | some e =>
            rw [Store.meterEnd?_eq_some.2 (endsAt_of_chase hchase)] at hend
            cases hend
      show s.requests k = s.requests k ++ askedOf looks k _ _ [.asked m request]
      simp [askedOf, Notice.owed, hchase]
  case instruments => exact Nat.le_refl _
  case newMeters => exact fun _ _ hm => .inl hm
  case newInstruments => exact fun _ _ hi => .inl hi

/-- The first target that a deferred provider is told is its target from then on. -/
theorem assign (h : Sound s) {r : RegistrationRef} {p : ProviderRef} (hr : s.registrations.Has r)
    (htarget : (s.provider (s.registration r).deferred).target? = none) :
    Tallies [.bindProvider (s.registration r).deferred p] s (s.assign r p) := by
  have hlater : Later s (s.assign r p) := .assign p htarget
  have hrows : ∀ d, ((s.assign r p).provider d).issued = (s.provider d).issued :=
    Table.apply_get_update Provider.issued _ (fun q => q.issued_bind p) _
  have hhas : ∀ d, (s.assign r p).providers.Has d ↔ s.providers.Has d :=
    fun d => Table.has_update _ _ _ _
  constructor
  case calls => exact Array.toList_push
  case providers =>
    refine ⟨fun d hd hknown => ?_, fun _ _ => rfl, funext fun d => ?_, fun looks _ d _ => ?_,
      Nat.le_of_eq (Table.size_update _ _ _).symm⟩
    · rw [← Provider.isDeferred_of_freshBody (hlater.provider hknown).freshBody]
      exact hd ((hhas d).2 hknown)
    · show ((s.assign r p).provider d).target? =
        if d = (s.registration r).deferred then ((s.provider d).target?).or (some p)
          else (s.provider d).target?
      rw [Store.target?_assign (h.owners.known r hr) (h.owners.deferred r hr)]
      split
      · rename_i hd
        rw [hd, htarget]
        rfl
      · rfl
    · show ((s.assign r p).provider d).issued.map _ =
        s.scopes d ++ askedOf looks d true _ [.told _ p]
      rw [hrows]
      simp [askedOf, Notice.owed]
      rfl
  case meters => exact .refl _
  case instruments => exact Nat.le_refl _
  case newMeters =>
    intro d m hm
    rw [hrows] at hm
    exact .inl hm
  case newInstruments => exact fun _ _ hi => .inl hi

/-- A target that a provider is told when it has one is forgotten. -/
theorem tellAgain {d : ProviderRef} (p : ProviderRef)
    (htarget : (s.provider d).target?.isSome = true) :
    Tallies [.bindProvider d p] s (s.note (.bindProvider d p)) := by
  obtain ⟨t, ht⟩ := Option.isSome_iff_exists.1 htarget
  constructor
  case calls => exact Array.toList_push
  case providers =>
    refine ⟨fun _ h => h, fun _ _ => rfl, funext fun q => ?_, fun looks _ q _ => ?_, Nat.le_refl _⟩
    · show (s.provider q).target? =
        if q = d then ((s.provider q).target?).or (some p) else (s.provider q).target?
      split
      · rename_i hq
        rw [hq, ht]
        rfl
      · rfl
    · show s.scopes q = s.scopes q ++ askedOf looks q true _ [.told d p]
      simp [askedOf, Notice.owed]
  case meters => exact .refl _
  case instruments => exact Nat.le_refl _
  case newMeters => exact fun _ _ hm => .inl hm
  case newInstruments => exact fun _ _ hi => .inl hi

theorem bindInstrument (hlisted : s.Listed) (i j : InstrumentRef) :
    Tallies [] s (s.bindInstrument i j) := by
  have hlater := Later.bindInstrument s i j
  have hproviders := Store.providers_bindInstrument s i j
  have hmeters := Store.meters_bindInstrument s i j
  have hlists : ∀ m, ((s.bindInstrument i j).meter m).instruments = (s.meter m).instruments :=
    fun m => by rw [Store.meter, hmeters]; rfl
  refine .of_lists (Store.calls_bindInstrument s i j) ?_ ?_ ?_ (fun d => ?_) hlists
  · exact Store.tally_providers hlisted (hproviders ▸ .refl Provider.Like.refl _) fun m hm =>
      (hlater.meter hm).scope
  · exact Store.tally_meters hlisted (hmeters ▸ .refl Meter.Like.refl _) hlists fun i hi =>
      (hlater.instrument hi).request
  · unfold Store.bindInstrument
    split
    · exact Nat.le_refl _
    · exact Nat.le_of_eq (Table.size_update _ _ _).symm
  · rw [Store.provider, hproviders]
    rfl

/-- What stands on a list afterwards is there. -/
theorem listed {s' : Store} {new : List Call} (h : Tallies new s s') (hlisted : s.Listed) :
    s'.Listed := by
  constructor
  · intro d m hm
    rcases h.newMeters d m hm with hm | ⟨_, hknown⟩
    · exact Nat.lt_of_lt_of_le (hlisted.meters d m hm) h.meters.size
    · exact hknown
  · intro m i hi
    rcases h.newInstruments m i hi with hi | ⟨_, hknown⟩
    · exact Nat.lt_of_lt_of_le (hlisted.instruments m i hi) h.instruments
    · exact hknown

theorem tryInstrument (hlisted : s.Listed) {e : ProviderRef} {t : MeterRef}
    (hserves : s.Serves e t) (i : InstrumentRef) :
    Tallies ((s.instrumentTrial t i).calls t) s (s.tryInstrument t i) := by
  have hnoted : Tallies [.bindInstrument i t] s (s.note (.bindInstrument i t)) :=
    .of_tables rfl rfl rfl Array.toList_push rfl rfl
  have hasked := askInstrument (s := s.note (.bindInstrument i t)) (m := t) (t := t)
    (hnoted.listed hlisted) (s.instrument i).request hserves.meterEnd? hserves.meterFits
  have hrest : Tallies [] ((s.note (.bindInstrument i t)).askInstrument t t
      (s.instrument i).request) (s.tryInstrument t i) := by
    unfold Store.tryInstrument
    simp only
    split
    · exact bindInstrument (hasked.listed (hnoted.listed hlisted)) i _
    · exact .of_tables rfl rfl rfl (List.append_nil _).symm rfl rfl
  have hall := hnoted.trans (hasked.trans hrest)
  rw [List.append_nil] at hall
  rw [InstrumentTrial.calls_eq]
  exact hall

theorem tryInstruments (hlisted : s.Listed) {e : ProviderRef} {t : MeterRef}
    (hserves : s.Serves e t) (is : List InstrumentRef) :
    Tallies ((s.instrumentTrials t is).flatMap (InstrumentTrial.calls t)) s
      (s.tryInstruments t is) := by
  induction is generalizing s with
  | nil => exact .refl s
  | cons i is ih =>
      have hhead := tryInstrument hlisted hserves i
      have hrest := ih (hhead.listed hlisted) (hserves.tryInstrument i)
      exact hhead.trans hrest

end Tallies

/-! ## A meter and its instruments -/

section BindMeter

variable {s : Store} {m t : MeterRef}

theorem Store.meter_updateMeter_bind (hknown : s.meters.Has m) (k : MeterRef) :
    (s.updateMeter m fun x => x.bind t).meter k =
      if k = m then (s.meter k).bind t else s.meter k :=
  s.meters.get_update_ite _ hknown k

theorem Store.instruments_updateMeter_bind (m t k : MeterRef) :
    ((s.updateMeter m fun x => x.bind t).meter k).instruments = (s.meter k).instruments :=
  Table.apply_get_update Meter.instruments _ (fun x => SoundBut.instruments_bindMeter x t) m k

/-- A deferred meter that gets a target is the same node with that target. -/
theorem Store.meterNodes_bind (hknown : s.meters.Has m)
    (hdeferred : (s.meter m).body.isDeferred = true) (htarget : (s.meter m).target? = none) :
    (s.updateMeter m fun x => x.bind t).meterNodes =
      { s.meterNodes with
        target := Notice.after s.meterNodes.target (.told m t : Notice MeterRef Request) } := by
  have hrow := meter_updateMeter_bind (t := t) hknown
  have hhas : ∀ k, (s.updateMeter m fun x => x.bind t).meters.Has k ↔ s.meters.Has k :=
    fun k => Table.has_update _ _ _ _
  have hbody : ∀ k, ((s.updateMeter m fun x => x.bind t).meter k).body.isDeferred =
      (s.meter k).body.isDeferred := by
    intro k
    rw [hrow]
    split
    · exact SoundBut.isDeferred_bindMeter _ _
    · rfl
  have htargets : ∀ k, ((s.updateMeter m fun x => x.bind t).meter k).target? =
      if k = m then ((s.meter k).target?).or (some t) else (s.meter k).target? := by
    intro k
    rw [hrow]
    split
    · rename_i hk
      rw [hk, htarget, SoundBut.target?_bindMeter hdeferred]
      rfl
    · rfl
  simp only [meterNodes, requests, hhas, hbody, htargets, instruments_updateMeter_bind,
    Notice.after, Nodes.mk.injEq, true_and]
  exact ⟨rfl, Table.size_update _ _ _⟩

namespace Tallies

/-- The meter and all its instruments are tried before the meter has its target. -/
theorem bindMeter (hlisted : s.Listed) {e : ProviderRef} (hserves : s.Serves e t)
    (hwaits : s.MeterWaits m) (hne : m ≠ t) :
    Tallies (.bindMeter m t ::
      (Store.instrumentTrials t (s.note (.bindMeter m t)) (s.meter m).instruments).flatMap
        (InstrumentTrial.calls t)) s (s.bindMeter m t) := by
  have htried := tryInstruments (s := s.note (.bindMeter m t)) ⟨hlisted.meters, hlisted.instruments⟩
    ⟨hserves.known, hserves.issuer, hserves.target, hserves.fits⟩ (s.meter m).instruments
  have hsame :=
    Store.meter_tryInstruments (s := s.note (.bindMeter m t)) hne (s.meter m).instruments
  have hend : s.bindMeter m t = ((Store.tryInstruments t (s.note (.bindMeter m t))
    (s.meter m).instruments).updateMeter m fun x => x.bind t).log _ := rfl
  rw [hend]
  generalize Store.tryInstruments t (s.note (.bindMeter m t)) (s.meter m).instruments = s₁
    at htried hsame
  have hdeferred : (s₁.meter m).body.isDeferred = true := by
    obtain ⟨is, his⟩ := hwaits.waiting
    rw [hsame]
    exact congrArg MeterBody.isDeferred his
  have hknown : s₁.meters.Has m := Nat.lt_of_lt_of_le hwaits.known htried.meters.size
  have hscope : ∀ k, ((s₁.updateMeter m fun x => x.bind t).meter k).scope = (s₁.meter k).scope := by
    intro k
    rw [Store.meter_updateMeter_bind hknown]
    split
    · unfold Meter.bind
      split <;> rfl
    · rfl
  constructor
  case calls =>
    show s₁.calls.toList = _
    rw [htried.calls]
    simp [Store.note]
  case providers =>
    have hbound : Balance [] s₁.providerNodes
        (s₁.updateMeter m fun x => x.bind t).providerNodes :=
      Store.tally_providers (htried.listed ⟨hlisted.meters, hlisted.instruments⟩)
        (.refl Provider.Like.refl _) fun k _ => hscope k
    have hproviders := htried.providers.trans hbound
    rw [List.append_nil] at hproviders
    exact hproviders
  case meters =>
    -- the notice comes first and the target last; in between only `t` is asked
    have hmeters := htried.meters.toldFirst (x := m) (t := t) ?_ hserves.target hne
    · rw [← Store.meterNodes_bind hknown hdeferred (by rw [hsame]; exact hwaits.target?)] at hmeters
      exact hmeters
    · intro w hw
      rw [InstrumentTrial.toMeters_calls] at hw
      obtain ⟨x, _, rfl⟩ := List.mem_map.1 hw
      exact ⟨x.request, rfl⟩
  case instruments => exact htried.instruments
  case newMeters =>
    intro d k hk
    show _ ∨ _ ∧ (s₁.updateMeter m fun x => x.bind t).meters.Has k
    rw [Store.updateMeter, Table.has_update]
    exact htried.newMeters d k hk
  case newInstruments =>
    intro k i hi
    replace hi : i ∈ ((s₁.updateMeter m fun x => x.bind t).meter k).instruments := hi
    rw [Store.instruments_updateMeter_bind] at hi
    exact htried.newInstruments k i hi

end Tallies

end BindMeter

/-! ## All deeds -/

theorem Deed.tallies {s s' : Store} (h : Sound s) (hdeed : Deed s s') :
    ∃ new, Tallies new s s' := by
  have hlisted := Store.Listed.of_sound h
  cases hdeed with
  | aside hproviders hmeters hinstruments _ hcalls =>
      have hnone : s'.calls.toList = s.calls.toList ++ [] := by rw [hcalls, List.append_nil]
      exact ⟨[], .of_tables hproviders hmeters hinstruments hnone rfl rfl⟩
  | addProvider htarget hissued => exact ⟨_, .addProvider htarget hissued⟩
  | addMeter _ hbody => exact ⟨_, .addMeter hlisted hbody⟩
  | addCallback c => exact ⟨[], .of_tables rfl rfl rfl (List.append_nil _).symm rfl rfl⟩
  | give hc =>
      rename_i c
      refine ⟨[c], .of_tables rfl rfl rfl Array.toList_push ?_ ?_⟩ <;>
      · cases c <;> first | rfl | cases hc
  | keep m events => exact ⟨_, .keep hlisted m events⟩
  | poll c => exact ⟨[.poll c], .of_tables rfl rfl rfl Array.toList_push rfl rfl⟩
  | askMeter scope hp he => exact ⟨_, .askMeter h scope hp he⟩
  | loseMeter scope hend => exact ⟨_, .loseMeter scope hend⟩
  | askInstrument request ht =>
      exact ⟨_, .askInstrument hlisted request ht fun e he => (h.tree.fits _ e he).2⟩
  | loseInstrument request hend => exact ⟨_, .loseInstrument request hend⟩
  | assign hr htarget => exact ⟨_, .assign h hr htarget⟩
  | tellAgain p htarget => exact ⟨_, .tellAgain p htarget⟩
  | bindMeter hserves hwaits hne => exact ⟨_, .bindMeter hlisted hserves hwaits hne⟩

theorem tallies_of_deeds {s s' : Store} (h : Sound s) (hdeeds : ReflTransGen SoundDeed s s') :
    ∃ new, Tallies new s s' := by
  refine (keeps_of_deeds (P := fun s s' => ∃ new, Tallies new s s') (fun s => ⟨[], .refl s⟩) ?_
    (fun s s' hs _ hdeed => hdeed.tallies hs) h hdeeds).2
  rintro s s' s'' ⟨new, hnew⟩ ⟨new', hnew'⟩
  exact ⟨_, hnew.trans hnew'⟩

end DeferredMetrics
