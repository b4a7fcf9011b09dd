import DeferredMetrics.Proofs.Performing

set_option autoImplicit false

/-! # Nodes are told their targets once

Three kinds of nodes are told a target: deferred providers, their meters and the instruments of
those. `Store.TellsOnce` says that none was told twice so far, that what they were told has become
of them, and that no message says otherwise. What tells nothing keeps it (`TellsOnce.calm`), and so
does telling a node that was not told before. -/

namespace DeferredMetrics

open Relation (ReflTransGen)

/-- A node that can be told a target. -/
inductive Node where
  | provider (d : ProviderRef)
  | meter (m : MeterRef)
  | instrument (i : InstrumentRef)

namespace Call

/-- The node that the call tells its target. -/
def told? : Call → Option Node
  | .bindProvider d _ => some (.provider d)
  | .bindMeter m _ => some (.meter m)
  | .bindInstrument i _ => some (.instrument i)
  | _ => none

theorem told?_of_not_tells {c : Call} (h : c.tells = false) : c.told? = none := by
  cases c <;> first | rfl | cases h

/-- The calls by which an instrument `i` gets the new instrument `j` of the meter `t`. -/
def handing (i : InstrumentRef) (t : MeterRef) (request : Request) (j : InstrumentRef) :
    List Call :=
  [.bindInstrument i t, .instrument t request, .instrumentReturned j]

/-- Calls that hand an instrument over stand in one of two parts of a history, if the first part
does not end with telling an instrument and the second does not begin with a return. -/
theorem handing_infix_append {l new : List Call} {i j : InstrumentRef} {t : MeterRef}
    {request : Request} (hlast : ∀ i t, l.getLast? ≠ some (.bindInstrument i t))
    (hhead : ∀ j, new.head? ≠ some (.instrumentReturned j))
    (h : handing i t request j <:+: l ++ new) :
    handing i t request j <:+: l ∨ handing i t request j <:+: new := by
  obtain ⟨before, later, h⟩ := h
  rw [List.append_assoc] at h
  rcases List.append_eq_append_iff.1 h with ⟨xs, hl, hxs⟩ | ⟨xs, -, hnew⟩
  · -- the first of the three calls stands in `l`, or right at the beginning of `new`
    obtain _ | ⟨x, _ | ⟨y, _ | ⟨z, zs⟩⟩⟩ := xs
    · exact .inr ⟨[], later, hxs⟩
    all_goals simp only [handing, List.cons_append, List.nil_append, List.cons.injEq] at hxs
    · obtain ⟨rfl, -⟩ := hxs
      exact absurd (by rw [hl]; simp) (hlast i t)
    · obtain ⟨-, -, hnew⟩ := hxs
      exact absurd (by rw [← hnew]; rfl) (hhead j)
    · obtain ⟨rfl, rfl, rfl, -⟩ := hxs
      exact .inl ⟨before, zs, by rw [hl, List.append_assoc]; rfl⟩
  · exact .inr ⟨xs, later, by rw [hnew, List.append_assoc]⟩

end Call

/-! ## What tells nothing -/

/-- The calls `new` come after `s`. They begin with no return, and as long as no node is told a
target in them, no instrument gets one. -/
structure Passing (new : List Call) (s s' : Store) : Prop where
  calls : s'.calls.toList = s.calls.toList ++ new
  head : ∀ j, new.head? ≠ some (.instrumentReturned j)
  bound : ∀ i j, (s'.instrument i).target? = some j → (s.instrument i).target? = some j ∨
    ∃ c ∈ new, c.tells = true

namespace Passing

variable {new new' : List Call} {s s' s'' : Store}

theorem trans (h : Passing new s s') (h' : Passing new' s' s'') :
    Passing (new ++ new') s s'' where
  calls := by rw [h'.calls, h.calls, List.append_assoc]
  head j := by
    cases new with
    | nil => exact h'.head j
    | cons c new => exact h.head j
  bound i j hj := by
    rcases h'.bound i j hj with hbefore | ⟨c, hc, htells⟩
    · refine (h.bound i j hbefore).imp_right ?_
      rintro ⟨c, hc, htells⟩
      exact ⟨c, List.mem_append_left _ hc, htells⟩
    · exact .inr ⟨c, List.mem_append_right _ hc, htells⟩

/-- No instrument changes. -/
theorem of_eq (hinstruments : s'.instruments = s.instruments)
    (hcalls : s'.calls.toList = s.calls.toList ++ new)
    (hhead : ∀ j, new.head? ≠ some (.instrumentReturned j)) : Passing new s s' :=
  ⟨hcalls, hhead, fun i j hj => .inl (by rwa [Store.instrument, hinstruments] at hj)⟩

/-- No call is made. -/
theorem of_calls (hinstruments : s'.instruments = s.instruments) (hcalls : s'.calls = s.calls) :
    Passing [] s s' := of_eq hinstruments (by rw [hcalls, List.append_nil]) nofun

/-- A node is told a target. -/
theorem of_tells {c : Call} (hc : c.tells = true)
    (hcalls : s'.calls.toList = s.calls.toList ++ c :: new) : Passing (c :: new) s s' := by
  refine ⟨hcalls, fun j hj => ?_, fun _ _ _ => .inr ⟨c, List.mem_cons_self, hc⟩⟩
  rw [Option.some.inj hj] at hc
  cases hc

end Passing

theorem Deed.passing {s s' : Store} (h : Deed s s') : ∃ new, Passing new s s' := by
  cases h with
  | aside _ _ hinstruments _ hcalls => exact ⟨[], .of_calls hinstruments hcalls⟩
  | addProvider => exact ⟨[], .of_calls rfl rfl⟩
  | addMeter => exact ⟨[], .of_calls rfl rfl⟩
  | addCallback => exact ⟨[], .of_calls rfl rfl⟩
  | keep => exact ⟨[], .of_calls rfl rfl⟩
  | give hc =>
      refine ⟨_, .of_eq rfl Array.toList_push fun j hj => ?_⟩
      rw [Option.some.inj hj] at hc
      cases hc
  | poll c => exact ⟨_, .of_eq rfl Array.toList_push nofun⟩
  | @askMeter p e scope =>
      exact ⟨_, .of_eq (Store.instruments_askMeter s p e scope) (Store.calls_askMeter s p e scope)
        nofun⟩
  | loseMeter => exact ⟨_, .of_eq rfl Array.toList_push nofun⟩
  | @askInstrument m t request =>
      exact ⟨_, Store.calls_askInstrument s m t request, nofun,
        fun i j hj => .inl (Store.target?_askInstrument m t request hj)⟩
  | loseInstrument => exact ⟨_, .of_eq rfl Array.toList_push nofun⟩
  | assign => exact ⟨_, .of_tells rfl Array.toList_push⟩
  | tellAgain => exact ⟨_, .of_tells rfl Array.toList_push⟩
  | @bindMeter e m t =>
      have hcalls : (s.bindMeter m t).calls.toList = s.calls.toList ++ .bindMeter m t ::
          (Store.instrumentTrials t (s.note (.bindMeter m t)) (s.meter m).instruments).flatMap
            (InstrumentTrial.calls t) := by
        show (Store.tryInstruments t (s.note (.bindMeter m t)) _).calls.toList = _
        rw [Store.calls_tryInstruments]
        show (s.calls.push _).toList ++ _ = _
        rw [Array.toList_push, List.append_assoc]
        rfl
      exact ⟨_, .of_tells rfl hcalls⟩

theorem passing_of_deeds {s s' : Store} (h : ReflTransGen SoundDeed s s') :
    ∃ new, Passing new s s' := by
  induction h with
  | refl => exact ⟨[], .of_calls rfl rfl⟩
  | tail _ hdone ih =>
      obtain ⟨new, hpassing⟩ := ih
      obtain ⟨new', hlast⟩ := hdone.deed.passing
      exact ⟨_, hpassing.trans hlast⟩

/-- Where all is calm, nothing is told, no instrument gets a target, and no return comes first. -/
theorem Calm.passing {s s' : Store} (h : Calm s s') :
    ∃ new, Passing new s s' ∧ ∀ c ∈ new, c.tells = false := by
  obtain ⟨new, hcalls, hnew⟩ := h.told
  obtain ⟨new', hpassing⟩ := passing_of_deeds h.deeds
  obtain rfl : new = new' := List.append_cancel_left (hcalls.symm.trans hpassing.calls)
  exact ⟨new, hpassing, hnew⟩

/-- The calls of a trial hand an instrument over, or the meter returns nothing. -/
theorem InstrumentTrial.calls_cases (x : InstrumentTrial) (t : MeterRef) :
    (∃ j, x.answer = .ok j ∧ x.calls t = Call.handing x.instrument t x.request j) ∨
      ∃ payload, x.answer = .error payload ∧
        x.calls t = [.bindInstrument x.instrument t, .instrument t x.request] := by
  unfold calls
  cases x.answer with
  | ok j => exact .inl ⟨j, rfl, rfl⟩
  | error payload => exact .inr ⟨payload, rfl, rfl⟩

theorem InstrumentTrial.told_calls (x : InstrumentTrial) (t : MeterRef) :
    (x.calls t).filterMap Call.told? = [.instrument x.instrument] := by
  rcases x.calls_cases t with ⟨_, _, heq⟩ | ⟨_, _, heq⟩ <;>
  · rw [heq]
    rfl

/-- A request for an instrument shows nothing of second targets. -/
theorem NothingRepeated.askInstrument (s : Store) (m t : MeterRef) (request : Request) :
    NothingRepeated s (s.askInstrument m t request) :=
  .of_eq (Store.directory_askInstrument s m t request).2

/-- No second target is offered to an instrument that waits. -/
theorem NothingRepeated.tryInstrument {s : Store} (t : MeterRef) {i : InstrumentRef}
    (hwaits : s.InstrumentWaits i) : NothingRepeated s (s.tryInstrument t i) := by
  have hask : NothingRepeated s
      ((s.note (.bindInstrument i t)).askInstrument t t (s.instrument i).request) :=
    .askInstrument (s.note (.bindInstrument i t)) t t _
  have hnone : (((s.note (.bindInstrument i t)).askInstrument t t
      (s.instrument i).request).instrument i).target? = none := by
    refine Option.eq_none_iff_forall_ne_some.2 fun j hj => ?_
    have hbefore : (s.instrument i).target? = some j :=
      Store.target?_askInstrument (s := s.note (.bindInstrument i t)) t t _ hj
    rw [hwaits.target?] at hbefore
    cases hbefore
  unfold Store.tryInstrument
  simp only
  split
  · refine hask.trans (.of_eq ?_)
    rw [Store.bindInstrument, hnone]
    rfl
  · exact hask.trans (.see rfl)

/-! ## What nodes are told -/

namespace Store

/-- The nodes that were told a target, in order. -/
def told (s : Store) : List Node := s.calls.toList.filterMap Call.told?

/-- No node was told a target twice, none of them is said to have been, and what a provider was told
and what was asked for an instrument is its target. -/
structure TellsOnce (s : Store) : Prop where
  quiet : ∀ e ∈ s.trace, e.isRepeat = false
  nodup : s.told.Nodup
  provider : ∀ d p, Call.bindProvider d p ∈ s.calls.toList → (s.provider d).target? = some p
  /-- An instrument is told after its meter. -/
  known : ∀ i, .instrument i ∈ s.told →
    s.instruments.Has i ∧ .meter (s.instrument i).issuer ∈ s.told
  bound : ∀ i j, (s.instrument i).target? = some j → .instrument i ∈ s.told
  handed : ∀ i t request j, Call.handing i t request j <:+: s.calls.toList →
    (s.instrument i).target? = some j
  /-- No call for an instrument is waited for. -/
  settled : ∀ i t, s.calls.toList.getLast? ≠ some (.bindInstrument i t)

variable {s s' : Store}

theorem told_of_append (new : List Call) (h : s'.calls.toList = s.calls.toList ++ new) :
    s'.told = s.told ++ new.filterMap Call.told? := by
  rw [told, h, List.filterMap_append]
  rfl

/-- A node that was told nothing has not been told when another node is. -/
theorem untold_of_append {n k : Node} (htold : s'.told = s.told ++ [n]) (hk : k ∉ s.told)
    (hne : k ≠ n) : k ∉ s'.told := by
  rw [htold, List.mem_append, List.mem_singleton, not_or]
  exact ⟨hk, hne⟩

theorem mem_told_meter {m : MeterRef} :
    .meter m ∈ s.told ↔ ∃ t, Call.bindMeter m t ∈ s.calls.toList := by
  rw [told, List.mem_filterMap]
  constructor
  · rintro ⟨c, hc, htold⟩
    cases c <;> cases htold
    exact ⟨_, hc⟩
  · rintro ⟨t, ht⟩
    exact ⟨_, ht, rfl⟩

/-- A meter for which a target was made was told it. -/
theorem MadeFor.told {m t : MeterRef} (h : s.MadeFor m t) : .meter m ∈ s.told := by
  obtain ⟨_, _, _, _, _, _, _, _, _, hcalls, _⟩ := h.history
  refine mem_told_meter.2 ⟨t, ?_⟩
  rw [hcalls]
  simp

/-- An instrument that was told nothing has no target. -/
theorem TellsOnce.target?_of_untold (h : s.TellsOnce) {i : InstrumentRef}
    (hi : .instrument i ∉ s.told) : (s.instrument i).target? = none :=
  Option.eq_none_iff_forall_ne_some.2 fun j hj => hi (h.bound i j hj)

theorem told_tryInstrument (s : Store) (t : MeterRef) (i : InstrumentRef) :
    (s.tryInstrument t i).told = s.told ++ [.instrument i] := by
  rw [told_of_append _ (calls_tryInstrument s t i), InstrumentTrial.told_calls]
  rfl

namespace TellsOnce

/-- More calls are made, which tell nobody a target who was told one, and what they tell has become
of the nodes. -/
theorem append (h : s.TellsOnce) {new : List Call} (hlater : Later s s')
    (hcalls : s'.calls.toList = s.calls.toList ++ new)
    (hhead : ∀ j, new.head? ≠ some (.instrumentReturned j))
    (hlast : ∀ i t, new.getLast? ≠ some (.bindInstrument i t))
    (hrepeated : NothingRepeated s s') (hnodup : (s.told ++ new.filterMap Call.told?).Nodup)
    (hprovider : ∀ d p, Call.bindProvider d p ∈ new → (s'.provider d).target? = some p)
    (hknown : ∀ i, .instrument i ∈ new.filterMap Call.told? →
      s.instruments.Has i ∧ .meter (s.instrument i).issuer ∈ s.told)
    (hbound : ∀ i j, (s'.instrument i).target? = some j → (s.instrument i).target? = some j ∨
      .instrument i ∈ new.filterMap Call.told?)
    (hhanded : ∀ i t request j, Call.handing i t request j <:+: new →
      (s'.instrument i).target? = some j) : s'.TellsOnce := by
  have htold := told_of_append new hcalls
  constructor
  case quiet =>
    intro e he
    cases hrepeat : e.isRepeat with
    | false => rfl
    | true => exact hrepeat.symm.trans (h.quiet e (hrepeated e he hrepeat))
  case nodup =>
    rw [htold]
    exact hnodup
  case provider =>
    intro d p hmem
    rw [hcalls] at hmem
    rcases List.mem_append.1 hmem with hmem | hmem
    · exact target?_later (h.provider d p hmem) hlater
    · exact hprovider d p hmem
  case known =>
    intro i hi
    rw [htold] at hi ⊢
    obtain ⟨hi, hissuer⟩ := (List.mem_append.1 hi).elim (h.known i) (hknown i)
    obtain ⟨hi', hrow⟩ := hlater.instruments i hi
    rw [show (s'.instrument i).issuer = _ from hrow.issuer]
    exact ⟨hi', List.mem_append_left _ hissuer⟩
  case bound =>
    intro i j hj
    rw [htold]
    exact List.mem_append.2 ((hbound i j hj).imp_left (h.bound i j))
  case handed =>
    intro i t request j hhanding
    rw [hcalls] at hhanding
    -- no notice to an instrument is at the seam, so both calls are old or both are new
    rcases Call.handing_infix_append h.settled hhead hhanding with hhanding | hhanding
    · have htarget := h.handed i t request j hhanding
      exact (hlater.instrument (has_of_instrumentTarget htarget)).target j htarget
    · exact hhanded i t request j hhanding
  case settled =>
    intro i t hlast'
    rw [hcalls, List.getLast?_append] at hlast'
    cases hnew : new.getLast? with
    | none =>
        rw [hnew] at hlast'
        exact h.settled i t hlast'
    | some c =>
        rw [hnew] at hlast'
        exact hlast i t (hnew.trans hlast')

/-- Nothing is told. -/
theorem of_passing (h : s.TellsOnce) {new : List Call} (hlater : Later s s')
    (hpassing : Passing new s s') (hnew : ∀ c ∈ new, c.tells = false)
    (hrepeated : NothingRepeated s s') : s'.TellsOnce := by
  have hnone : new.filterMap Call.told? = [] :=
    List.filterMap_eq_nil_iff.2 fun c hc => Call.told?_of_not_tells (hnew c hc)
  have hnot : ∀ c ∈ new, c.tells ≠ true := fun c hc htells => by
    rw [hnew c hc] at htells
    cases htells
  refine h.append hlater hpassing.calls hpassing.head ?_ hrepeated ?_ ?_ ?_ ?_ ?_
  · exact fun i t hlast => hnot _ (List.mem_of_getLast? hlast) rfl
  · rw [hnone, List.append_nil]
    exact h.nodup
  · exact fun d p hmem => absurd rfl (hnot _ hmem)
  · rw [hnone]
    exact fun i hi => absurd hi List.not_mem_nil
  · intro i j hj
    refine .inl ((hpassing.bound i j hj).resolve_right ?_)
    rintro ⟨c, hc, htells⟩
    exact hnot c hc htells
  · exact fun i t request j hhanding => absurd rfl (hnot _ (hhanding.subset List.mem_cons_self))

/-- What is calm tells nothing. -/
theorem calm (h : s.TellsOnce) (hcalm : Calm s s') (hrepeated : NothingRepeated s s') :
    s'.TellsOnce := by
  obtain ⟨new, hpassing, hnew⟩ := hcalm.passing
  exact h.of_passing hcalm.later hpassing hnew hrepeated

/-- Where no instrument changes and no call is made, nothing is told. -/
theorem congr (h : s.TellsOnce) (hlater : Later s s')
    (hinstruments : s'.instruments = s.instruments) (hcalls : s'.calls = s.calls)
    (hrepeated : NothingRepeated s s') : s'.TellsOnce :=
  h.of_passing hlater (.of_calls hinstruments hcalls) nofun hrepeated

/-- A provider or a meter is told a target. -/
theorem tell (h : s.TellsOnce) {c : Call} {n : Node} (hc : c.told? = some n) (hn : n ∉ s.told)
    (hkind : ∀ i, n ≠ .instrument i) (hlater : Later s s') (hcalls : s'.calls = s.calls.push c)
    (hinstruments : s'.instruments = s.instruments) (hrepeated : NothingRepeated s s')
    (htarget : ∀ d p, c = .bindProvider d p → (s'.provider d).target? = some p) :
    s'.TellsOnce := by
  have htold : [c].filterMap Call.told? = [n] := List.filterMap_cons_some hc
  have hnew : s'.calls.toList = s.calls.toList ++ [c] := by rw [hcalls, Array.toList_push]
  refine h.append hlater hnew ?_ ?_ hrepeated ?_ ?_ ?_ ?_ ?_
  · intro j hj
    rw [Option.some.inj hj] at hc
    cases hc
  · intro i t hlast
    rw [show c = _ from Option.some.inj hlast] at hc
    exact hkind i (Option.some.inj hc).symm
  · rw [htold]
    exact h.nodup.append (List.nodup_singleton n) (List.disjoint_singleton.2 hn)
  · exact fun d p hmem => htarget d p (List.mem_singleton.1 hmem).symm
  · rw [htold]
    exact fun i hi => absurd (List.mem_singleton.1 hi).symm (hkind i)
  · intro i j hj
    rw [instrument, hinstruments] at hj
    exact .inl hj
  · intro i t request j hhanding
    have hlength := hhanding.length_le
    simp [Call.handing] at hlength

/-- An instrument is told a target. -/
theorem tryInstrument (h : s.TellsOnce) (t : MeterRef) {i : InstrumentRef}
    (hwaits : s.InstrumentWaits i) (hi : .instrument i ∉ s.told)
    (hissuer : .meter (s.instrument i).issuer ∈ s.told) : (s.tryInstrument t i).TellsOnce := by
  have htold := InstrumentTrial.told_calls (s.instrumentTrial t i) t
  refine h.append (.tryInstrument s t i) (calls_tryInstrument s t i)
    (by simp [InstrumentTrial.calls]) ?_ (.tryInstrument t hwaits) ?_ ?_ ?_ ?_ ?_
  · intro k t' hlast
    rcases InstrumentTrial.calls_cases (s.instrumentTrial t i) t with ⟨_, _, heq⟩ | ⟨_, _, heq⟩ <;>
    · rw [heq] at hlast
      simp [Call.handing] at hlast
  · rw [htold]
    exact h.nodup.append (List.nodup_singleton _) (List.disjoint_singleton.2 hi)
  · intro d p hmem
    rcases InstrumentTrial.calls_cases (s.instrumentTrial t i) t with ⟨_, _, heq⟩ | ⟨_, _, heq⟩ <;>
    · rw [heq] at hmem
      simp [Call.handing] at hmem
  · intro k hk
    rw [htold] at hk
    cases List.mem_singleton.1 hk
    exact ⟨hwaits.known, hissuer⟩
  · intro k l hl
    refine (target?_tryInstrument t hwaits hl).imp_right fun htried => ?_
    rw [htried.1, htold]
    exact List.mem_singleton_self _
  · intro k t' request j hhanding
    rcases InstrumentTrial.calls_cases (s.instrumentTrial t i) t with ⟨j', hok, heq⟩ | ⟨_, _, heq⟩
    · rw [heq] at hhanding
      have hsame := hhanding.eq_of_length rfl
      simp only [Call.handing, List.cons.injEq, Call.bindInstrument.injEq,
        Call.instrumentReturned.injEq] at hsame
      obtain ⟨⟨hk, -⟩, -, hj, -⟩ := hsame
      rw [show k = i from hk, hj]
      exact target?_tryInstrument_of_ok t hwaits hok
    · have hlength := hhanding.length_le
      rw [heq] at hlength
      simp [Call.handing] at hlength

theorem tryInstruments (h : s.TellsOnce) (t : MeterRef) {is : List InstrumentRef}
    (hnodup : is.Nodup) (hwaits : ∀ i ∈ is, s.InstrumentWaits i)
    (hfresh : ∀ i ∈ is, .instrument i ∉ s.told)
    (hissuer : ∀ i ∈ is, .meter (s.instrument i).issuer ∈ s.told) :
    (s.tryInstruments t is).TellsOnce := by
  induction is generalizing s with
  | nil => exact h
  | cons i is ih =>
      obtain ⟨hi, hnodup⟩ := List.nodup_cons.1 hnodup
      have hhead := hwaits i List.mem_cons_self
      have htold := told_tryInstrument s t i
      refine ih (h.tryInstrument t hhead (hfresh i List.mem_cons_self)
        (hissuer i List.mem_cons_self)) hnodup ?_ ?_ ?_
      · intro k hk
        exact hhead.tryInstrument (hwaits k (List.mem_cons_of_mem _ hk)) fun h => hi (h ▸ hk)
      · intro k hk
        refine untold_of_append htold (hfresh k (List.mem_cons_of_mem _ hk)) ?_
        rintro ⟨⟩
        exact hi hk
      · intro k hk
        have hrow := (Later.tryInstrument s t i).instrument
          (hwaits k (List.mem_cons_of_mem _ hk)).known
        rw [hrow.issuer, htold]
        exact List.mem_append_left _ (hissuer k (List.mem_cons_of_mem _ hk))

/-- A meter that waits and its instruments are told targets. -/
theorem bindMeter (h : s.TellsOnce) {m t : MeterRef} (hwaits : s.MeterWaits m)
    (hm : .meter m ∉ s.told) (hne : m ≠ t) : (s.bindMeter m t).TellsOnce := by
  have hopened : (s.note (.bindMeter m t)).TellsOnce :=
    h.tell rfl hm nofun (.note s _) rfl rfl (.of_eq rfl) nofun
  have htold : (s.note (.bindMeter m t)).told = s.told ++ [.meter m] :=
    told_of_append [.bindMeter m t] Array.toList_push
  have htried := hopened.tryInstruments t hwaits.nodup
    (fun i hi => (hwaits.instruments i hi).1.congr rfl) (fun i hi => ?_) fun i hi => ?_
  · have hnone : ((Store.tryInstruments t (s.note (.bindMeter m t))
        (s.meter m).instruments).meter m).target? = none := by
      rw [meter_tryInstruments hne]
      exact hwaits.target?
    exact htried.congr
      ((Later.updateMeter (Meter.grows_bind hnone t)).trans (.log _ _)) rfl rfl (.see rfl)
  · -- its instruments have been told nothing, as they are told after it
    refine untold_of_append htold (fun hmem => ?_) nofun
    have hissuer := (h.known i hmem).2
    rw [(hwaits.instruments i hi).2] at hissuer
    exact hm hissuer
  · show Node.meter (s.instrument i).issuer ∈ _
    rw [htold, (hwaits.instruments i hi).2]
    exact List.mem_append_right _ (List.mem_singleton_self _)

end TellsOnce

/-- A meter without a target was told none, unless it is open. -/
theorem not_told_of_sound {o : Option (MeterRef × MeterRef)} (h : SoundBut o s) {m : MeterRef}
    (htarget : (s.meter m).target? = none) (hopen : o.map Prod.fst ≠ some m) :
    .meter m ∉ s.told := by
  intro hmem
  obtain ⟨t, ht⟩ := mem_told_meter.1 hmem
  rcases h.bindings.told m t ht with hsome | rfl
  · rw [hsome] at htarget
    cases htarget
  · exact hopen rfl

namespace TellsOnce

variable {p e d : ProviderRef}

theorem tryMeter (h : s.TellsOnce) (hs : Sound s) {m : MeterRef} (hwaits : s.MeterWaits m)
    (hp : s.providers.Has p) (he : s.providerEnd? p = some e) : (s.tryMeter p e m).TellsOnce := by
  have hasked : (s.askMeter p e (s.meter m).scope).TellsOnce :=
    h.calm (.askMeter _ hp he) (.of_eq (directory_askMeter s p e _).2)
  have hsound := hs.askMeter (p := p) (s.meter m).scope (hs.bindings.has_end hp he)
  cases hanswer : s.meterAnswer e (s.meter m).scope with
  | error payload =>
      rw [tryMeter_of_error hanswer]
      exact hasked.congr (.log _ _) rfl rfl (.see rfl)
  | ok t =>
      have hwaits' := hwaits.askMeter (p := p) (e := e) (s.meter m).scope
      rw [tryMeter_of_ok hanswer]
      exact hasked.bindMeter hwaits' (not_told_of_sound hsound hwaits'.target? (by simp))
        (meterAnswer_eq_next s hanswer ▸ Table.ne_next_of_has hwaits.known)

theorem tryMeters (h : s.TellsOnce) (hs : Sound s) {ms : List MeterRef} (hwait : s.AllWait ms)
    (hd : ∀ m ∈ ms, (s.meter m).issuer = some d) (hp : (s.provider d).target? = some p)
    (he : s.providerEnd? p = some e) : (s.tryMeters p e ms).TellsOnce := by
  induction ms generalizing s with
  | nil => exact h
  | cons m ms ih =>
      have hm := hwait.waits m List.mem_cons_self
      have hlater : Later s (s.tryMeter p e m) := .tryMeter hm
      refine ih (h.tryMeter hs hm (hs.bindings.known d p hp) he)
        (hs.tryMeter hm (hd m List.mem_cons_self) hp he) hwait.tail (fun k hk => ?_)
        (target?_later hp hlater) ((providerEnd?_tryMeter hm.known p).trans he)
      rw [(hlater.meter (hwait.waits k (List.mem_cons_of_mem _ hk)).known).issuer]
      exact hd k (List.mem_cons_of_mem _ hk)

/-- A deferred provider without a target is told one. -/
theorem bindTarget (h : s.TellsOnce) (hd : s.providers.Has d)
    (hdeferred : (s.provider d).isDeferred = true) (htarget : (s.provider d).target? = none)
    (p : ProviderRef) :
    ((s.note (.bindProvider d p)).updateProvider d fun q => q.bind p).TellsOnce := by
  have hn : .provider d ∉ s.told := by
    intro hmem
    obtain ⟨c, hc, htold⟩ := List.mem_filterMap.1 hmem
    cases c <;> cases htold
    rw [h.provider d _ hc] at htarget
    cases htarget
  refine h.tell rfl hn nofun
    ((Later.note s _).trans (.updateProvider (Provider.grows_bind htarget p))) rfl rfl (.of_eq rfl)
    ?_
  rintro d' p' ⟨⟩
  rw [provider_updateProvider, if_pos ⟨rfl, hd⟩]
  exact Provider.target?_bind hdeferred p

/-- Where a registration agrees with itself and no circle is left, an installation tells each node
that it reaches for the first time. -/
theorem install (h : s.TellsOnce) (hs : Sound s) {r : RegistrationRef} (hr : s.registrations.Has r)
    (hp : s.providers.Has p) (discovered : Bool) (hagrees : s.AgreesOn r)
    (hend : (((Op.install r p discovered).left s).providerEnd?
      (s.registration r).deferred).isSome) :
    ((Op.install r p discovered).left s).TellsOnce := by
  rcases Op.install_of_end hs hr discovered hagrees hend
      with ⟨_, hrun⟩ | ⟨e, s', hwait, he, hne, hs', hrun⟩
  · rw [Op.left_of_ok hrun]
    split
    · exact h
    · exact h.congr (.log s _) rfl rfl (.see rfl)
  · have hknown := hs.owners.known r hr
    have hdeferred := hs.owners.deferred r hr
    have hwritten : (s.writeProvider r p).TellsOnce :=
      h.congr (.updateRegistration ⟨rfl, fun h => h⟩) rfl rfl (.of_eq rfl)
    have hassigned : (s.assign r p).TellsOnce :=
      hwritten.bindTarget hknown hdeferred hwait.target? p
    obtain ⟨hready, hend⟩ := ready_assign hwait he hne
    have htarget : ((s.assign r p).provider (s.registration r).deferred).target? = some p := by
      rw [target?_assign hknown hdeferred, if_pos rfl]
    have htried := hassigned.tryMeters (hs.assign (r := r) hp hwait.target?) hready
      (fun _ hm => (hs.issued_of_mem_meters hdeferred hm).2) htarget hend
    have hbound : ((s.writeProvider r p).bindProvider (s.registration r).deferred p e).TellsOnce :=
      htried.congr (.log _ _) rfl rfl (.see rfl)
    rw [Op.left_of_ok hrun]
    exact (hbound.congr (.of_shown hs') hs'.instruments hs'.calls (.of_shown hs')).congr
      (later_finish s' r discovered) rfl rfl (.see rfl)

end TellsOnce

end Store

end DeferredMetrics
