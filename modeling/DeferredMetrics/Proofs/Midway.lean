import DeferredMetrics.Proofs.Beside
import DeferredMetrics.Proofs.Orderly

set_option autoImplicit false

/-! # In the middle of an installation

While one thread installs a provider and others go on beside it, the store is not `Orderly` at every
moment: the registration has written its provider down and not fired its gate, and a meter may be
open. `Midway` says for each phase what holds instead. The step that leads on to the next phase
tells nodes that were not told before (`Midway.advance`), and what other threads do is harmless
(`Midway.of_harmless`), so no node is told twice in any order of the steps. -/

namespace DeferredMetrics

open Relation (ReflTransGen)
open Installation

namespace Store

/-- The registration `r` has written `p` down and not fired its gate, and `target` is the target of
its deferred provider. -/
structure Halfway (s : Store) (r : RegistrationRef) (p : ProviderRef)
    (target : Option ProviderRef) : Prop where
  slot : (s.registration r).provider = some p
  target : (s.provider (s.registration r).deferred).target? = target
  gate : (s.gate r).fired = false

/-- The meter `m` was issued by `d` and was not told a target. -/
structure Untold (s : Store) (d : ProviderRef) (m : MeterRef) : Prop where
  known : s.meters.Has m
  issuer : (s.meter m).issuer = some d
  untold : .meter m ∉ s.told

/-- The meter `m` was told its target `t` and has not got it. The meter `t` was told none. -/
structure Opened (s : Store) (m t : MeterRef) : Prop where
  target : (s.meter m).target? = none
  untold : .meter t ∉ s.told

end Store

namespace Installation.Phase

/-- How far the registration has come in a phase. -/
def Stands (r : RegistrationRef) (p : ProviderRef) (s : Store) : Phase → Prop
  | .before => s.AgreesOn r
  | .written => s.Halfway r p none
  | .ended _ => s.AgreesOn r
  | _ => s.Halfway r p (some p)

/-- In a phase in which a meter is open, the instruments that are still to come were told nothing.
Until the meter is locked, those are all that it has. -/
def Opens (s : Store) : Phase → Prop
  | .asked m t _ _ => s.Opened m t ∧ ∀ i, .instrument i ∈ s.told → (s.instrument i).issuer ≠ m
  | .instruments m t _ is _ _ => s.Opened m t ∧ is.Nodup ∧
      ∀ i ∈ is, i ∈ (s.meter m).instruments ∧ .instrument i ∉ s.told
  | _ => True

end Installation.Phase

/-- The step uses no provider that is not there. -/
def Installation.Move.Known (s : Store) : Move → Prop
  | .requestMeterFrom q _ => s.providers.Has q
  | _ => True

/-- The store in a phase of the installation of `p` in `r`. -/
structure Midway (r : RegistrationRef) (p : ProviderRef) (phase : Phase) (s : Store) : Prop where
  sound : SoundBut (phase.pending s).opened s
  tellsOnce : s.TellsOnce
  ends : s.Acyclic
  registered : s.registrations.Has r
  known : s.providers.Has p
  others : ∀ r', s.registrations.Has r' → r' ≠ r → s.AgreesOn r'
  stands : phase.Stands r p s
  nodup : (phase.pending s).meters.Nodup
  left : ∀ m ∈ (phase.pending s).meters, s.Untold (s.registration r).deferred m
  opens : phase.Opens s

namespace Store

variable {s s' : Store} {r : RegistrationRef} {p : ProviderRef}

theorem AgreesOn.steady (h : s.AgreesOn r) (hsteady : Steady s s') : s'.AgreesOn r := by
  have hrow := hsteady.registration r
  exact h.congr (by rw [hrow]) (by rw [hrow]) (congrArg Registration.gate hrow) (hsteady.targets _)

theorem Halfway.steady {target : Option ProviderRef} (h : s.Halfway r p target)
    (hsteady : Steady s s') : s'.Halfway r p target := by
  have hrow := hsteady.registration r
  refine ⟨?_, ?_, (congrArg (fun o => o.gate.fired) hrow).trans h.gate⟩
  · rw [hrow]
    exact h.slot
  · rw [hrow, hsteady.targets]
    exact h.target

theorem AgreesOn.elsewhere {r' : RegistrationRef} (h : s.AgreesOn r') (hs : Sound s)
    (hr : s.registrations.Has r) (hr' : s.registrations.Has r') (hne : r' ≠ r)
    (helse : Elsewhere r s s') : s'.AgreesOn r' := by
  have hrow := helse.registration r' hne
  refine h.congr (by rw [hrow]) (by rw [hrow]) (congrArg Registration.gate hrow) (helse.target _ ?_)
  exact fun hd => hne (hs.owners.distinct r' r hr' hr hd)

theorem Halfway.end (h : s.Halfway r p (some p)) (hends : s.Acyclic)
    (hr : s.registrations.Has r) : ∃ e, s.providerEnd? p = some e := by
  rw [← Option.isSome_iff_exists, ← providerEnd?_of_target h.target]
  exact hends r hr

end Store

theorem Installation.Phase.Stands.steady {s s' : Store} {r : RegistrationRef} {p : ProviderRef}
    {phase : Phase} (h : phase.Stands r p s) (hsteady : Steady s s') : phase.Stands r p s' := by
  cases phase with
  | before => exact Store.AgreesOn.steady h hsteady
  | ended => exact Store.AgreesOn.steady h hsteady
  | _ => exact Store.Halfway.steady h hsteady

/-! ## What was told nothing -/

namespace SoundBut

variable {o : Option (MeterRef × MeterRef)} {s : Store} {m t : MeterRef}

/-- A meter that was told nothing has no target. -/
theorem target?_of_untold (h : SoundBut o s) (hm : .meter m ∉ s.told) :
    (s.meter m).target? = none := by
  refine Option.eq_none_iff_forall_ne_some.2 fun t ht => ?_
  exact hm (h.bindings.made m t (.inl ht)).told

/-- A meter that is not there yet was told nothing. -/
theorem next_untold (h : SoundBut o s) : .meter s.meters.next ∉ s.told := by
  intro hmem
  obtain ⟨t, ht⟩ := Store.mem_told_meter.1 hmem
  exact Table.ne_next_of_has (h.bindings.made _ t (h.bindings.told _ t ht)).has rfl

/-- A meter that has a target or is open is deferred. -/
theorem isDeferred_of_made (h : SoundBut o s)
    (hm : (s.meter m).target? = some t ∨ o = some (m, t)) :
    (s.meter m).body.isDeferred = true := by
  obtain ⟨d, p, _, _, _, hd, hp, _⟩ := (h.bindings.made m t hm).history
  exact (Provider.isDeferred_of_fits (h.tree.fits m d hd).2).trans
    (Provider.isDeferred_of_target hp)

/-- What the open meter was told serves it, as long as it was told nothing itself. -/
theorem serves (h : SoundBut (some (m, t)) s) (ht : .meter t ∉ s.told) : ∃ e, s.Serves e t := by
  have hmade := h.bindings.made m t (.inr rfl)
  obtain ⟨_, _, e, _, _, _, _, he, _⟩ := hmade.history
  exact ⟨e, hmade.known, he, h.target?_of_untold ht, (h.tree.fits t e he).2⟩

end SoundBut

namespace Midway

variable {r : RegistrationRef} {p : ProviderRef} {phase phase' : Phase} {s s' : Store}

/-- Registrations and the targets of providers stay as they are, and some of the meters that were
left are left. -/
theorem steady (h : Midway r p phase s) (hsteady : Steady s s') (hends : s'.Acyclic)
    (hsound : SoundBut (phase'.pending s').opened s') (htold : s'.TellsOnce)
    (hstands : phase'.Stands r p s)
    (hleft : (phase'.pending s').meters.Sublist (phase.pending s).meters)
    (huntold : ∀ m ∈ (phase'.pending s').meters, .meter m ∉ s'.told)
    (hopens : phase'.Opens s') : Midway r p phase' s' where
  sound := hsound
  tellsOnce := htold
  ends := hends
  registered := (hsteady.later.registrations r h.registered).1
  known := (hsteady.later.providers p h.known).1
  others r' hr' hne := by
    rw [hsteady.registrations] at hr'
    exact (h.others r' hr' hne).steady hsteady
  stands := hstands.steady hsteady
  nodup := h.nodup.sublist hleft
  left m hm := by
    have hbefore := h.left m (hleft.subset hm)
    refine ⟨(hsteady.later.meters m hbefore.known).1, ?_, huntold m hm⟩
    rw [hsteady.registration, (hsteady.later.meter hbefore.known).issuer]
    exact hbefore.issuer
  opens := hopens

/-- What other threads do keeps the phase. -/
theorem of_harmless (h : Midway r p phase s) (hsafe : Harmless s s') (hends : s'.Acyclic) :
    Midway r p phase s' := by
  have htold : s'.told = s.told := hsafe.told
  have hopened : (phase.pending s').opened = (phase.pending s).opened := by cases phase <;> rfl
  have hmeters : (phase.pending s').meters = (phase.pending s).meters := by cases phase <;> rfl
  have hkeeps : ∀ {m t}, s.meters.Has m → s.Opened m t → s'.Opened m t := fun hm hopen =>
    ⟨(hsafe.meter _ hm).trans hopen.target, htold ▸ hopen.untold⟩
  refine h.steady hsafe.toSteady hends ?_ (hsafe.tellsOnce h.tellsOnce) h.stands
    (by rw [hmeters]) (fun m hm => ?_) ?_
  · rw [hopened]
    exact hsafe.sound _ h.sound
  · rw [htold]
    rw [hmeters] at hm
    exact (h.left m hm).untold
  · -- more is said only while a meter is open, and that meter is there
    cases phase with
    | asked m t tally left =>
        obtain ⟨hopen, huntold⟩ := h.opens
        have hm := (h.sound.bindings.made m t (.inr rfl)).has
        refine ⟨hkeeps hm hopen, fun i hi => ?_⟩
        rw [htold] at hi
        rw [(hsafe.later.instrument (h.tellsOnce.known i hi).1).issuer]
        exact huntold i hi
    | instruments m t inner is tally left =>
        obtain ⟨hopen, hnodup, his⟩ := h.opens
        have hm := (h.sound.bindings.made m t (.inr rfl)).has
        refine ⟨hkeeps hm hopen, hnodup, fun i hi => ?_⟩
        obtain ⟨hmem, huntold⟩ := his i hi
        exact ⟨(hsafe.later.meter hm).instruments.subset hmem, htold ▸ huntold⟩
    | _ => trivial

/-! ## The installing thread -/

/-- The gate has fired, or the provider is written down. -/
theorem advance_before (h : Midway r p .before s) :
    ∃ phase' s', Op.advance r p .before s = .ok phase' s' ∧
      (s'.Acyclic → Midway r p phase' s') := by
  have hagrees : s.AgreesOn r := h.stands
  cases hgate : (s.gate r).fired with
  | true =>
      have hsafe : Harmless s (s.log .refused) := .log rfl
      refine ⟨.ended false, s.log .refused, ?_, fun hends => ?_⟩
      · rw [Op.advance, Op.bind_of_ok (Op.get_run s), hgate]
        rfl
      · exact h.steady hsafe.toSteady hends (hsafe.sound none h.sound)
          (hsafe.tellsOnce h.tellsOnce) hagrees (.refl _) (List.forall_mem_nil _)
          trivial
  | false =>
      have hnone : (s.registration r).provider = none := by
        have hsome := hagrees.gate
        rw [hgate] at hsome
        exact Option.not_isSome_iff_eq_none.1 (by rw [← hsome]; exact Bool.false_ne_true)
      have hwritten : SoundBut none (s.writeProvider r p) := SoundBut.writeProvider h.sound h.known
      have hlater : Later s (s.writeProvider r p) := .updateRegistration ⟨rfl, fun h => h⟩
      have hrow : (s.writeProvider r p).registration r =
          { s.registration r with provider := some p } := Table.get_update_self _ _ h.registered
      have helse : Store.Elsewhere r s (s.writeProvider r p) := .write (p := p) rfl fun _ _ => rfl
      refine ⟨.written, s.writeProvider r p, ?_, fun hends => ?_⟩
      · rw [Op.advance, Op.bind_of_ok (Op.get_run s), hgate]
        rfl
      · refine ⟨hwritten, h.tellsOnce.congr hlater rfl rfl (.of_eq rfl), hends,
          (hlater.registrations r h.registered).1, h.known, fun r' hr' hne => ?_, ?_, .nil,
          List.forall_mem_nil _, trivial⟩
        · have hr' := (helse.has r').1 hr'
          exact (h.others r' hr' hne).elsewhere h.sound h.registered hr' hne helse
        · refine ⟨?_, ?_, ?_⟩
          · rw [hrow]
          · rw [hrow]
            exact hagrees.target.trans hnone
          · rw [Store.gate, hrow]
            exact hgate

/-- The deferred provider is told its target, for the first time. -/
theorem advance_written (h : Midway r p .written s) :
    ∃ phase' s', Op.advance r p .written s = .ok phase' s' ∧
      (s'.Acyclic → Midway r p phase' s') := by
  have hhalf : s.Halfway r p none := h.stands
  have hs : Sound s := h.sound
  let d := (s.registration r).deferred
  have hd : s.providers.Has d := hs.owners.known r h.registered
  have hdeferred : (s.provider d).isDeferred = true := hs.owners.deferred r h.registered
  have htarget : (s.provider d).target? = none := hhalf.target
  let s' := (s.note (.bindProvider d p)).updateProvider d fun q => q.bind p
  have hlater : Later s s' :=
    (Later.note s _).trans (.updateProvider (Provider.grows_bind htarget p))
  have hself : (s'.provider d).target? = some p := by
    rw [Store.provider_updateProvider, if_pos ⟨rfl, hd⟩]
    exact Provider.target?_bind hdeferred p
  have hother : ∀ q, q ≠ d → (s'.provider q).target? = (s.provider q).target? := by
    intro q hq
    rw [Store.provider_updateProvider, if_neg fun heq => hq heq.1]
    rfl
  have hnoted : Sound (s.note (.bindProvider d p)) := hs.note (by simp)
  have htold : s'.told = s.told ++ [.provider d] :=
    Store.told_of_append [.bindProvider d p] Array.toList_push
  refine ⟨.meters (.start (s.provider d).meters.length) (s.provider d).meters, s', ?_,
    fun hends => ⟨hnoted.bindTarget h.known htarget,
      h.tellsOnce.bindTarget hd hdeferred htarget p, hends,
      (hlater.registrations r h.registered).1, (hlater.providers p h.known).1,
      fun r' hr' hne => ?_, ⟨hhalf.slot, hself, hhalf.gate⟩, ?_, fun m hm => ?_, trivial⟩⟩
  · have hnone : ((s.note (.bindProvider (s.registration r).deferred p)).provider
        (s.registration r).deferred).target?.isSome = false := congrArg Option.isSome htarget
    rw [Op.advance, Op.bind_of_ok (Op.get_run s), Op.bind_of_ok (Op.note_run _ s),
      Op.bind_of_ok (Op.get_run _)]
    simp only [hnone]
    rfl
  · refine (h.others r' hr' hne).congr rfl rfl rfl (hother _ fun heq => ?_)
    exact hne (hs.owners.distinct r' r hr' h.registered heq)
  · show (s.provider d).meters.Nodup
    rw [SoundBut.meters_eq_issued hdeferred]
    exact hs.tree.nodup d
  · obtain ⟨hknown, hissuer⟩ := hs.issued_of_mem_meters hdeferred hm
    have hnone := hs.tree.waiting d m (SoundBut.meters_eq_issued hdeferred ▸ hm) htarget
    -- a meter of a provider without a target was told none
    have huntold : .meter m ∉ s.told := Store.not_told_of_sound hs hnone (by simp)
    exact ⟨hknown, hissuer, Store.untold_of_append htold huntold (by simp)⟩

/-- The provider is unlocked when no meter is left. -/
theorem advance_meters_nil {tally : Tally} (h : Midway r p (.meters tally []) s) :
    ∃ phase' s', Op.advance r p (.meters tally []) s = .ok phase' s' ∧
      (s'.Acyclic → Midway r p phase' s') := by
  have hsafe : Harmless s (s.log (.providerBound tally.rebound tally.total)) := .log rfl
  exact ⟨.bound, _, rfl, fun hends => h.steady hsafe.toSteady hends (hsafe.sound none h.sound)
    (hsafe.tellsOnce h.tellsOnce) h.stands (.refl _)
    (List.forall_mem_nil _) trivial⟩

/-- What is made for the next meter is new, and no instrument of that meter was told anything. -/
theorem opens_asked {m : MeterRef} {tally : Tally} {left : List MeterRef}
    (h : Midway r p (.meters tally (m :: left)) s) (hsafe : Harmless s s') :
    (Phase.asked m s.meters.next tally left).Opens (s'.note (.bindMeter m s.meters.next)) := by
  have hs : Sound s := h.sound
  have hm := h.left m List.mem_cons_self
  have htold := hsafe.told_bindMeter m s.meters.next
  refine ⟨⟨(hsafe.meter m hm.known).trans (hs.target?_of_untold hm.untold), ?_⟩, fun i hi => ?_⟩
  · refine Store.untold_of_append htold hs.next_untold fun heq => ?_
    exact Table.ne_next_of_has hm.known (Node.meter.inj heq).symm
  · -- an instrument is told after its meter
    rw [htold] at hi
    have hi := (List.mem_append.1 hi).resolve_right fun heq => by
      cases List.mem_singleton.1 heq
    obtain ⟨hknown, hissuer⟩ := h.tellsOnce.known i hi
    have hsame : ((s'.note (.bindMeter m s.meters.next)).instrument i).issuer =
        (s.instrument i).issuer := (hsafe.later.instrument hknown).issuer
    rw [hsame]
    exact fun heq => hm.untold (heq ▸ hissuer)

/-- The next meter is told what was asked for it, or the provider has panicked. -/
theorem advance_meters {m : MeterRef} {tally : Tally} {left : List MeterRef}
    (h : Midway r p (.meters tally (m :: left)) s) :
    ∃ phase' s', Op.advance r p (.meters tally (m :: left)) s = .ok phase' s' ∧
      (s'.Acyclic → Midway r p phase' s') := by
  have hs : Sound s := h.sound
  have hhalf : s.Halfway r p (some p) := h.stands
  obtain ⟨e, he⟩ := hhalf.end h.ends h.registered
  have hm := h.left m List.mem_cons_self
  have hnodup : (m :: left).Nodup := h.nodup
  obtain ⟨s₁, hs₁, hrun⟩ := Op.requestMeter_run (s.meter m).scope he
  have hsafe : Harmless s s₁ :=
    (Harmless.askMeter h.sound (s.meter m).scope h.known he).trans (.of_shown hs₁.shown)
  cases hanswer : s.meterAnswer e (s.meter m).scope with
  | error payload =>
      rw [hanswer] at hrun
      -- the panic is caught, and the meter keeps waiting
      have hlogged := hsafe.trans (.log (s := s₁)
        (m := .childFailed .meter (s.meter m).scope.name payload.reason) rfl)
      refine ⟨.meters tally left, _, ?_, fun hends => h.steady hlogged.toSteady hends
        (hlogged.sound none h.sound) (hlogged.tellsOnce h.tellsOnce) h.stands
        (List.sublist_cons_self m left) (fun k hk => ?_) trivial⟩
      · rw [Op.advance, Op.askForMeter, Op.bind_of_ok (Op.get_run s),
          Op.bind_of_ok (Op.attempt_of_panic hrun)]
        rfl
      · rw [hlogged.told]
        exact (h.left k (List.mem_cons_of_mem m hk)).untold
  | ok t =>
      rw [hanswer] at hrun
      have hnone : (s.meter m).target? = none := hs.target?_of_untold hm.untold
      have htold := hsafe.told_bindMeter m t
      have hnext := Store.meterAnswer_eq_next s hanswer
      refine ⟨.asked m t tally left, s₁.note (.bindMeter m t), ?_, fun hends => h.steady
        (hsafe.toSteady.trans (.note _ _)) hends ?_ ?_ h.stands (List.sublist_cons_self m left)
        (fun k hk => ?_) ?_⟩
      · rw [Op.advance, Op.askForMeter, Op.bind_of_ok (Op.get_run s),
          Op.bind_of_ok (Op.attempt_of_ok hrun)]
        rfl
      · exact (hs.openAsked hm.known hnone hm.issuer hhalf.target he hanswer).shown
          (hs₁.shown.note _)
      · have hm : .meter m ∉ s₁.told := by
          rw [hsafe.told]
          exact hm.untold
        exact (hsafe.tellsOnce h.tellsOnce).tell rfl hm (by simp) (.note s₁ _) rfl rfl
          (.of_eq rfl) (by simp)
      · -- the meter that is told now is none of those that are left
        refine Store.untold_of_append htold (h.left k (List.mem_cons_of_mem m hk)).untold ?_
        rintro ⟨⟩
        exact (List.nodup_cons.1 hnodup).1 hk
      · rw [hnext]
        exact h.opens_asked hsafe

/-- The meter is locked. -/
theorem advance_asked {m t : MeterRef} {tally : Tally} {left : List MeterRef}
    (h : Midway r p (.asked m t tally left) s) :
    ∃ phase' s', Op.advance r p (.asked m t tally left) s = .ok phase' s' ∧
      (s'.Acyclic → Midway r p phase' s') := by
  obtain ⟨hopen, huntold⟩ := h.opens
  refine ⟨.instruments m t (.start (s.meter m).instruments.length) (s.meter m).instruments tally
    left, s, ?_, fun hends => h.steady (.refl s) hends h.sound h.tellsOnce h.stands (.refl _)
      (fun k hk => (h.left k hk).untold) ⟨hopen, h.sound.instruments.nodup m, fun i hi => ⟨hi, ?_⟩⟩⟩
  · rw [Op.advance, Op.enterMeter, Op.bind_of_ok (Op.get_run s)]
    simp only [hopen.target]
    rfl
  · exact fun hmem => huntold i hmem (h.sound.instruments.issued m i hi).2.1

/-- The next instrument of the locked meter is told the target of the meter. -/
theorem advance_instruments {m t : MeterRef} {inner tally : Tally} {i : InstrumentRef}
    {is : List InstrumentRef} {left : List MeterRef}
    (h : Midway r p (.instruments m t inner (i :: is) tally left) s) :
    ∃ phase' s', Op.advance r p (.instruments m t inner (i :: is) tally left) s = .ok phase' s' ∧
      (s'.Acyclic → Midway r p phase' s') := by
  have hs : SoundBut (some (m, t)) s := h.sound
  obtain ⟨hopen, hnodup, his⟩ := h.opens
  obtain ⟨hmem, huntold⟩ := his i List.mem_cons_self
  obtain ⟨hi, hissuer, hdeferred⟩ := hs.instruments.issued m i hmem
  have hissuer : (s.instrument i).issuer = m := hissuer
  obtain ⟨e, hserves⟩ := hs.serves hopen.untold
  obtain ⟨s', hs', hrun⟩ := Op.isolated_bindInstrument i hserves
  have hwaits : s.InstrumentWaits i := ⟨hi, Instrument.destination_of_waiting hdeferred
    (h.tellsOnce.target?_of_untold huntold)⟩
  have hmade := hs.bindings.made m t (.inr rfl)
  have hsound : SoundBut (some (m, t)) (s.tryInstrument t i) :=
    hs.tryInstrument t hi (by rw [hissuer]; rfl)
  have honce : (s.tryInstrument t i).TellsOnce :=
    h.tellsOnce.tryInstrument t hwaits huntold (by rw [hissuer]; exact hmade.told)
  have hshown : Harmless (s.tryInstrument t i) s' := .of_shown hs'.shown
  have hsteady : Steady s s' := (Steady.tryInstrument hserves.issuer i).trans hshown.toSteady
  have htold : s'.told = s.told ++ [.instrument i] := by
    rw [hshown.told, Store.told_tryInstrument]
  have hmeter : ∀ {x}, .meter x ∉ s.told → .meter x ∉ s'.told := fun hx =>
    Store.untold_of_append htold hx (by simp)
  refine ⟨.instruments m t (inner.note (s.instrumentTrial t i).answer.isOk) is tally left, s', ?_,
    fun hends => h.steady hsteady hends (hshown.sound _ hsound) (hshown.tellsOnce honce) h.stands
      (.refl _) (fun k hk => hmeter (h.left k hk).untold)
      ⟨⟨?_, hmeter hopen.untold⟩, (List.nodup_cons.1 hnodup).2, fun k hk => ?_⟩⟩
  · rw [Op.advance, Op.bind_of_ok (Op.instrumentName_run i s), Op.bind_of_ok hrun]
    rfl
  · rw [hs'.shown.meter, Store.meter, Store.meters_tryInstrument, Table.get_update]
    split
    · exact (Meter.target?_take _ _ _).trans hopen.target
    · exact hopen.target
  · obtain ⟨hk_mem, hk_untold⟩ := his k (List.mem_cons_of_mem i hk)
    refine ⟨(hsteady.later.meter hmade.has).instruments.subset hk_mem,
      Store.untold_of_append htold hk_untold ?_⟩
    rintro ⟨⟩
    exact (List.nodup_cons.1 hnodup).1 hk

/-- The locked meter gets its target when none of its instruments is left. -/
theorem advance_instruments_nil {m t : MeterRef} {inner tally : Tally} {left : List MeterRef}
    (h : Midway r p (.instruments m t inner [] tally left) s) :
    ∃ phase' s', Op.advance r p (.instruments m t inner [] tally left) s = .ok phase' s' ∧
      (s'.Acyclic → Midway r p phase' s') := by
  obtain ⟨hopen, -, -⟩ := h.opens
  have hs : SoundBut (some (m, t)) s := h.sound
  have hlater : Later s (s.updateMeter m fun x => x.bind t) :=
    .updateMeter (Meter.grows_bind hopen.target t)
  exact ⟨.closing m inner tally left, s.updateMeter m fun x => x.bind t, rfl, fun hends =>
    h.steady ⟨hlater, rfl, rfl, fun _ => rfl⟩ hends
      (hs.closeMeter hopen.target (hs.isDeferred_of_made (.inr rfl)))
      (h.tellsOnce.congr hlater rfl rfl (.of_eq rfl)) h.stands (.refl _)
      (fun k hk => (h.left k hk).untold) trivial⟩

/-- The bound meter is unlocked. -/
theorem advance_closing {m : MeterRef} {inner tally : Tally} {left : List MeterRef}
    (h : Midway r p (.closing m inner tally left) s) :
    ∃ phase' s', Op.advance r p (.closing m inner tally left) s = .ok phase' s' ∧
      (s'.Acyclic → Midway r p phase' s') := by
  have hsafe : Harmless s
      (s.log (.meterBound (s.meter m).scope.name inner.rebound inner.total)) := .log rfl
  refine ⟨.meters (tally.note true) left, _, rfl, fun hends => h.steady hsafe.toSteady hends
    (hsafe.sound none h.sound) (hsafe.tellsOnce h.tellsOnce) h.stands (.refl _) (fun k hk => ?_)
    trivial⟩
  rw [hsafe.told]
  exact (h.left k hk).untold

/-- The gate fires, and the registration agrees with itself again. -/
theorem advance_bound (h : Midway r p .bound s) :
    ∃ phase' s', Op.advance r p .bound s = .ok phase' s' ∧
      (s'.Acyclic → Midway r p phase' s') := by
  have hs : Sound s := h.sound
  have hhalf : s.Halfway r p (some p) := h.stands
  let s' := (s.log (.installed false)).withGate r .passed
  have hsafe : Harmless s (s.log (.installed false)) := .log rfl
  have halike : Alike s s' := (Alike.log _).trans (.pass _ r)
  have hrow : s'.registration r = { s.registration r with gate := .passed } :=
    Table.get_update_self _ _ h.registered
  have helse : Store.Elsewhere r s s' :=
    ⟨fun _ => Table.has_update _ _ _ _, fun _ hne => Table.get_update_of_ne _ _ (Ne.symm hne),
      fun _ _ => rfl⟩
  refine ⟨.ended true, s', rfl, fun hends => ⟨halike.sound none hs,
    (hsafe.tellsOnce h.tellsOnce).congr (Alike.pass _ r).later rfl rfl (.of_eq rfl), hends,
    (halike.later.registrations r h.registered).1, h.known, fun r' hr' hne => ?_, ⟨?_, ?_⟩, .nil,
    List.forall_mem_nil _, trivial⟩⟩
  · have hr' := (helse.has r').1 hr'
    exact (h.others r' hr' hne).elsewhere hs h.registered hr' hne helse
  · rw [hrow]
    exact hhalf.target.trans hhalf.slot.symm
  · rw [Store.gate, hrow, hhalf.slot]
    rfl

/-- The installing thread is never halted, and tells nobody twice. -/
theorem advance (h : Midway r p phase s) :
    ∃ phase' s', Op.advance r p phase s = .ok phase' s' ∧
      (s'.Acyclic → Midway r p phase' s') := by
  cases phase with
  | before => exact advance_before h
  | written => exact advance_written h
  | meters tally left =>
      cases left with
      | nil => exact advance_meters_nil h
      | cons m left => exact advance_meters h
  | asked m t tally left => exact advance_asked h
  | instruments m t inner is tally left =>
      cases is with
      | nil => exact advance_instruments_nil h
      | cons i is => exact advance_instruments h
  | closing m inner tally left => exact advance_closing h
  | bound => exact advance_bound h
  | ended installed => exact ⟨_, s, rfl, fun _ => h⟩

/-! ## The other threads -/

/-- A step that waits for a lock or does something harmless, and keeps the phase. -/
theorem harmless_of_guarded {α : Type} {m : Machine} {x : Move} (op : Op α) (f : α → Answer)
    (blocked : Bool)
    (hmove : Op.move r p m.phase x m.store =
      (if blocked then pure (m.phase, .blocked)
        else op >>= fun a => pure (m.phase, f a) : Op (Phase × Answer)) m.store)
    (hsafe : Harmless m.store (op.left m.store)) :
    (m.step r p x).2.phase = m.phase ∧ Harmless m.store (m.step r p x).2.store := by
  cases blocked with
  | true =>
      have hrun : Op.move r p m.phase x m.store = .ok (m.phase, .blocked) m.store := hmove
      rw [Beside.step_of_ok hrun]
      exact ⟨rfl, .refl _⟩
  | false =>
      have hleft : (m.step r p x).2 = ⟨m.phase, op.left m.store⟩ := by
        rw [Machine.step, hmove, if_neg Bool.false_ne_true, Op.bind_run]
        unfold Op.left
        cases op m.store <;> rfl
      rw [hleft]
      exact ⟨rfl, hsafe⟩

/-- A step of another thread is harmless, and keeps the phase. -/
theorem harmless_of_step {m : Machine} {x : Move} (h : Midway r p m.phase m.store)
    (hx : x.Known m.store) (hother : x ≠ .advance) :
    (m.step r p x).2.phase = m.phase ∧ Harmless m.store (m.step r p x).2.store := by
  let d := (m.store.registration r).deferred
  cases x with
  | advance => exact absurd rfl hother
  | requestMeter scope =>
      refine harmless_of_guarded (Op.requestMeter d scope) .meter m.phase.locksProvider ?_
        (Op.harmless_requestMeter h.sound (h.sound.owners.known r h.registered) scope)
      -- the registration is looked up only after the lock
      rw [Op.move]
      cases m.phase.locksProvider <;> rfl
  | requestMeterFrom q scope =>
      exact harmless_of_guarded (Op.requestMeter q scope) .meter
        (m.phase.blocksProvider m.store d q) rfl (Op.harmless_requestMeter h.sound hx scope)
  | requestInstrument k request =>
      exact harmless_of_guarded (Op.requestInstrument k request) .instrument
        (m.phase.blocksMeter m.store k) rfl (Op.harmless_requestInstrument h.sound k request)
  | look => exact harmless_of_guarded (Op.registered r) .seen false rfl (.refl _)
  | record i sample attributes =>
      exact harmless_of_guarded (Op.record i sample attributes) (fun _ => .recorded) false rfl
        (.of_gives (Op.gives_record i sample attributes).path)
  | observe i =>
      exact harmless_of_guarded (Op.observe i) .batch false rfl
        (.of_gives (Op.gives_observe i).path)

/-- Whoever takes the next step, the store is in the phase that it leads to. -/
theorem step {m : Machine} {x : Move} (h : Midway r p m.phase m.store) (hx : x.Known m.store)
    (hends : (m.step r p x).2.store.Acyclic) :
    Midway r p (m.step r p x).2.phase (m.step r p x).2.store := by
  by_cases hother : x = .advance
  · obtain ⟨phase', s', hrun, hnext⟩ := h.advance
    have hmove : Op.move r p m.phase x m.store = .ok (phase', .advanced) s' := by
      rw [hother, Op.move, Op.bind_of_ok hrun]
      rfl
    rw [Beside.step_of_ok hmove] at hends ⊢
    exact hnext hends
  · obtain ⟨hphase, hsafe⟩ := h.harmless_of_step hx hother
    rw [hphase]
    exact h.of_harmless hsafe hends

/-! ## Before and after -/

/-- An installation may begin whenever the store is orderly. -/
theorem of_orderly (h : s.Orderly) (hr : s.registrations.Has r) (hp : s.providers.Has p) :
    Midway r p .before s :=
  ⟨h.sound, h.tellsOnce, h.ends, hr, hp, fun r' hr' _ => h.agrees r' hr', h.agrees r hr, .nil,
    List.forall_mem_nil _, trivial⟩

/-- When an installation is over, the store is orderly. -/
theorem orderly {installed : Bool} (h : Midway r p (.ended installed) s) : s.Orderly where
  sound := h.sound
  agrees r' hr' := by
    by_cases hne : r' = r
    · exact hne ▸ h.stands
    · exact h.others r' hr' hne
  ends := h.ends
  tellsOnce := h.tellsOnce

end Midway

end DeferredMetrics
