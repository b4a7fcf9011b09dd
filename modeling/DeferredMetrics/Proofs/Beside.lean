import DeferredMetrics.Registration.Threads
import DeferredMetrics.Proofs.Performing
import DeferredMetrics.Proofs.Using

set_option autoImplicit false

/-! # Threads beside an installation

Any number of threads ask for meters and instruments, look which provider is registered, record and
observe, while one thread installs a provider. `Comes` says which states any order of their steps
leads to, and what the threads hold then; a thread uses only what it holds. The binding goes on from
step to step (`Beside.advance`), and every other step that is not blocked is answered
(`Beside.move_run`): `Beside` holds of all such states. -/

namespace DeferredMetrics

namespace Kin

/-- What the deferred provider `d` and its meters have issued. -/
def below (s : Store) (d : ProviderRef) : Kin where
  meters m := m ∈ (s.provider d).meters
  instruments i := ∃ m ∈ (s.provider d).meters, i ∈ (s.meter m).instruments

end Kin

namespace Installation

/-- What threads hold: the providers that they have seen, meters and instruments. -/
structure Handles where
  seen : ProviderRef → Prop
  kin : Kin

namespace Handles

/-- Threads begin with the deferred provider `d` and all that was issued below it. -/
def early (s : Store) (d : ProviderRef) : Handles := ⟨fun q => q = d, .below s d⟩

/-- The step uses only what threads hold. -/
def Allows (a : Handles) : Move → Prop
  | .requestMeterFrom q _ => a.seen q
  | .requestInstrument m _ => a.kin.meters m
  | .record i _ _ => a.kin.instruments i
  | .observe i => a.kin.instruments i
  | _ => True

/-- What threads hold after an answer. A thread that sees no provider goes on with the deferred
provider `d`. -/
def take (a : Handles) (d : ProviderRef) : Answer → Handles
  | .meter m => { a with kin := a.kin.addMeter m }
  | .instrument i => { a with kin := a.kin.addInstrument i }
  | .seen p => { a with seen := fun q => q = p.getD d ∨ a.seen q }
  | _ => a

end Handles

/-- Steps of threads beside the installation of `p` in `r`, in any order, lead from the store
`start` to the machine, and to what threads hold. -/
inductive Comes (r : RegistrationRef) (p : ProviderRef) (start : Store) :
    Handles → Machine → Prop where
  | start : Comes r p start (.early start (start.registration r).deferred) ⟨.before, start⟩
  | step {a : Handles} {m : Machine} (x : Move) (h : Comes r p start a m) (hx : a.Allows x) :
      Comes r p start (a.take (start.registration r).deferred (m.step r p x).1) (m.step r p x).2

/-- What the binding has still to do in a phase. -/
def Phase.pending (s : Store) : Phase → Pending
  | .meters _ left => ⟨left, none, []⟩
  | .asked m t _ left => ⟨left, some (m, t), (s.meter m).instruments⟩
  | .instruments m t _ inner _ left => ⟨left, some (m, t), inner⟩
  | .closing _ _ _ left => ⟨left, none, []⟩
  | _ => .nothing

end Installation

/-- The registration `r` waits, and the provider `p` is a backend that refuses nothing. -/
structure Store.Offered (s : Store) (r : RegistrationRef) (p : ProviderRef) : Prop where
  reachable : Reachable s
  registered : s.registrations.Has r
  waiting : (s.provider (s.registration r).deferred).target? = none
  known : s.providers.Has p
  backend : (s.provider p).isDeferred = false
  willing : ∀ n ask, (s.provider p).refusal n ask = none

open Installation

/-- A machine that is on its way, what its threads hold, and what it is bound to do yet. -/
structure Beside (start : Store) (r : RegistrationRef) (p : ProviderRef) (a : Handles)
    (m : Machine) : Prop where
  family : ∃ own, Lineage (fun q => q = (start.registration r).deferred ∨ q = p) start a.kin own
    (m.phase.pending m.store) m.store
  left : ∀ k ∈ (m.phase.pending m.store).meters,
    (m.store.meter k).issuer = some (start.registration r).deferred
  seen : ∀ q, a.seen q → q = (start.registration r).deferred ∨ q = p
  slot : (m.store.registration r).provider = if m.phase = .before then none else some p
  target : (m.store.provider (start.registration r).deferred).target? =
    if m.phase = .before ∨ m.phase = .written then none else some p
  gate : (m.store.gate r).fired = decide (m.phase = .ended true)
  installed : m.phase ≠ .ended false

theorem Op.attempt_of_ok {α : Type} {child : ChildKind} {name : String} {op : Op α} {s s' : Store}
    {x : α} (h : op s = .ok x s') : attempt child name op s = .ok (some x) s' := by
  simp [attempt, h]

theorem Op.attempt_of_panic {α : Type} {child : ChildKind} {name : String} {op : Op α}
    {payload : Payload} {s s' : Store} (h : op s = .error (.panic payload) s') :
    attempt child name op s = .ok none (s'.log (.childFailed child name payload.reason)) := by
  simp [attempt, h]

namespace Beside

variable {start s s' : Store} {r : RegistrationRef} {p : ProviderRef} {a : Handles} {phase : Phase}

theorem initial (h : start.Offered r p) :
    Beside start r p (.early start (start.registration r).deferred) ⟨.before, start⟩ := by
  have hsound := reachable_sound h.reachable
  have hdeferred : (start.provider (start.registration r).deferred).isDeferred = true :=
    hsound.owners.deferred r h.registered
  have hend := Store.providerEnd?_eq_some.2 (endsAt_self h.waiting)
  have hagreed := reachable_agreed h.reachable r h.registered (by rw [hend]; rfl)
  have hslot : (start.registration r).provider = none := hagreed.target.symm.trans h.waiting
  obtain ⟨hnone, hissued⟩ := Provider.alone_of_isDeferred h.backend
  refine ⟨⟨_, .initial hsound ?_ ?_ ?_ (fun m => ?_) (fun i => .rfl)⟩, ?_, ?_, hslot, h.waiting, ?_,
    by simp⟩
  · rintro q (rfl | rfl)
    · exact hsound.owners.known r h.registered
    · exact h.known
  · rintro q (rfl | rfl)
    · exact h.waiting
    · exact hnone
  · rintro q (rfl | rfl) n ask
    · exact Provider.refusal_of_isDeferred hdeferred n ask
    · exact h.willing n ask
  · show m ∈ (start.provider (start.registration r).deferred).meters ↔ _
    rw [SoundBut.meters_eq_issued hdeferred]
    constructor
    · exact fun hm => ⟨_, .inl rfl, hm⟩
    · rintro ⟨q, rfl | rfl, hm⟩
      · exact hm
      · rw [hissued] at hm
        exact absurd hm List.not_mem_nil
  · exact fun k hk => absurd hk List.not_mem_nil
  · exact fun q hq => .inl hq
  · rw [hagreed.gate, hslot]
    rfl

/-! ## The installing thread -/

section Advance

variable {own : Kin} {w : Pending}

theorem deferred_eq (hstart : start.Offered r p) (hlater : Later start s) :
    (s.registration r).deferred = (start.registration r).deferred :=
  (hlater.registration hstart.registered).deferred

theorem backend (hstart : start.Offered r p) (hlater : Later start s) :
    (s.provider p).isDeferred = false :=
  (Provider.isDeferred_of_freshBody (hlater.provider hstart.known).freshBody).trans hstart.backend

theorem target?_backend (hstart : start.Offered r p) (hlater : Later start s) :
    (s.provider p).target? = none :=
  (Provider.alone_of_isDeferred (backend hstart hlater)).1

theorem isDeferred (hstart : start.Offered r p) (hlater : Later start s) :
    (s.provider (start.registration r).deferred).isDeferred = true := by
  have hsound := reachable_sound hstart.reachable
  have hknown : start.providers.Has (start.registration r).deferred :=
    hsound.owners.known r hstart.registered
  have hgrows := hlater.provider hknown
  rw [Provider.isDeferred_of_freshBody hgrows.freshBody]
  exact hsound.owners.deferred r hstart.registered

/-- The end of the chain from the backend is the backend. -/
theorem providerEnd?_backend (hstart : start.Offered r p) (hlater : Later start s) :
    s.providerEnd? p = some p :=
  Store.providerEnd?_eq_some.2 (endsAt_self (target?_backend hstart hlater))

theorem ne_deferred (hstart : start.Offered r p) : p ≠ (start.registration r).deferred := by
  intro heq
  have hdeferred := isDeferred hstart (.refl start)
  rw [← heq, hstart.backend] at hdeferred
  cases hdeferred

/-- A step that leaves registrations and targets alone goes on to a phase of the same part of the
installation. -/
theorem steady {phase' : Phase} {a' : Handles} (h : Beside start r p a ⟨phase, s⟩)
    (hsteady : Steady s s')
    (hfamily : Lineage (fun q => q = (start.registration r).deferred ∨ q = p) start a'.kin own
      (phase'.pending s') s')
    (hleft : ∀ k ∈ (phase'.pending s').meters, k ∈ (phase.pending s).meters)
    (hseen : ∀ q, a'.seen q → a.seen q ∨ q = (start.registration r).deferred ∨ q = p)
    (hbefore : phase' = .before ↔ phase = .before) (hwritten : phase' = .written ↔ phase = .written)
    (hended : phase' = .ended true ↔ phase = .ended true) (hinstalled : phase' ≠ .ended false) :
    Beside start r p a' ⟨phase', s'⟩ := by
  obtain ⟨old, hold⟩ := h.family
  constructor
  case family => exact ⟨own, hfamily⟩
  case left =>
    intro k hk
    have hknown := hold.has_meter (hold.progress.left k (hleft k hk)).1
    exact (hsteady.later.meter hknown).issuer.trans (h.left k (hleft k hk))
  case seen =>
    intro q hq
    exact (hseen q hq).elim (h.seen q) id
  case slot =>
    show (s'.registration r).provider = _
    rw [hsteady.registration, if_congr hbefore rfl rfl]
    exact h.slot
  case target =>
    show (s'.provider _).target? = _
    rw [hsteady.targets, if_congr (or_congr hbefore hwritten) rfl rfl]
    exact h.target
  case gate =>
    show (s'.registration r).gate.fired = _
    rw [hsteady.registration, decide_eq_decide.2 hended]
    exact h.gate
  case installed => exact hinstalled

/-- The provider is written down. -/
theorem advance_before (hstart : start.Offered r p) (h : Beside start r p a ⟨.before, s⟩) :
    ∃ s', Op.advance r p .before s = .ok .written s' ∧ Beside start r p a ⟨.written, s'⟩ := by
  obtain ⟨own, hfamily⟩ := h.family
  have hgate : (s.gate r).fired = false := h.gate
  have hp : s.providers.Has p := hfamily.providers.known p (.inr rfl)
  have hr : s.registrations.Has r := (hfamily.later.registrations r hstart.registered).1
  have hrow : (s.writeProvider r p).registration r =
      { s.registration r with provider := some p } := Table.get_update_self _ _ hr
  refine ⟨s.writeProvider r p, ?_, ⟨own, hfamily.alike (.writeProvider r hp)⟩, ?_, h.seen, ?_,
    h.target, ?_, by simp⟩
  · rw [Op.advance, Op.bind_of_ok (Op.get_run s), hgate]
    rfl
  · exact fun k hk => absurd hk List.not_mem_nil
  · show ((s.writeProvider r p).registration r).provider = some p
    rw [hrow]
  · show ((s.writeProvider r p).registration r).gate.fired = false
    rw [hrow]
    exact hgate

/-- The deferred provider is told its target. -/
theorem advance_written (hstart : start.Offered r p) (h : Beside start r p a ⟨.written, s⟩) :
    ∃ tally left s', Op.advance r p .written s = .ok (.meters tally left) s' ∧
      Beside start r p a ⟨.meters tally left, s'⟩ := by
  obtain ⟨own, hfamily⟩ := h.family
  let d := (start.registration r).deferred
  have hd : (s.registration r).deferred = d := deferred_eq hstart hfamily.later
  have hdeferred : (s.provider d).isDeferred = true := isDeferred hstart hfamily.later
  have htarget : (s.provider d).target? = none := h.target
  have hnoted := hfamily.alike (.note (c := .bindProvider d p) nofun)
  have hbound := hnoted.bindTarget (d := d) (p := p) (.inl rfl) (.inr rfl) hdeferred htarget
    fun heq => ne_deferred hstart (Option.some.inj
      ((providerEnd?_backend hstart hnoted.later).symm.trans heq))
  have hmeters : (s.provider d).meters = (s.provider d).issued :=
    SoundBut.meters_eq_issued hdeferred
  let s' := (s.note (.bindProvider d p)).updateProvider d fun q => q.bind p
  have hself : s'.provider d = (s.provider d).bind p :=
    Table.get_update_self _ _ (hfamily.providers.known d (.inl rfl))
  refine ⟨.start (s.provider d).meters.length, (s.provider d).meters, s', ?_,
    ⟨own, ?_⟩, ?_, h.seen, h.slot, ?_, h.gate, by simp⟩
  · have hnone : ((s.note (.bindProvider d p)).provider d).target?.isSome = false := by
      show (s.provider d).target?.isSome = false
      rw [htarget]
      rfl
    rw [Op.advance, Op.bind_of_ok (Op.get_run s), hd, Op.bind_of_ok (Op.note_run _ s),
      Op.bind_of_ok (Op.get_run _)]
    simp only [hnone]
    rfl
  · show Lineage _ start a.kin own ⟨(s.provider d).meters, none, []⟩ s'
    rw [hmeters]
    exact hbound
  · intro k hk
    have hk : k ∈ (s.provider d).meters := hk
    rw [hmeters] at hk
    exact (hfamily.sound.tree.issued d k hk).2
  · show (s'.provider d).target? = some p
    rw [hself]
    cases hx : s.provider d <;> simp_all [Provider.isDeferred, Provider.bind, Provider.target?]

/-- The next meter gets a target. -/
theorem advance_meters {k : MeterRef} {tally : Tally} {left : List MeterRef}
    (hstart : start.Offered r p) (h : Beside start r p a ⟨.meters tally (k :: left), s⟩) :
    ∃ t s', Op.advance r p (.meters tally (k :: left)) s = .ok (.asked k t tally left) s' ∧
      Beside start r p a ⟨.asked k t tally left, s'⟩ := by
  obtain ⟨own, hfamily⟩ := h.family
  have hend := providerEnd?_backend hstart hfamily.later
  have hk := hfamily.progress.left k List.mem_cons_self
  have hknown := hfamily.has_meter hk.1
  obtain ⟨s₁, hs₁, hrun⟩ := Op.requestMeter_run (s.meter k).scope hend
  have hp : p = (start.registration r).deferred ∨ p = p := .inr rfl
  have hanswer := hfamily.providers.meterAnswer hp (s.meter k).scope
  rw [hanswer] at hrun
  -- what is asked for and noted differs from `openMeter` by what has been traced
  have hopen := hfamily.openMeter (h.left k List.mem_cons_self) h.target hend
  have hshown : Shown ((s.askMeter p p (s.meter k).scope).note (.bindMeter k s.meters.next))
      (s₁.note (.bindMeter k s.meters.next)) := hs₁.shown.note _
  have hsame : (s₁.note (.bindMeter k s.meters.next)).meter k = s.meter k := by
    refine (hs₁.shown.meter k).trans ?_
    rw [Store.meter_askMeter_ite hanswer, if_neg (Table.ne_next_of_has hknown)]
  have hnext : Lineage (fun q => q = (start.registration r).deferred ∨ q = p) start a.kin
      (own.addMeter s.meters.next) ⟨left, some (k, s.meters.next),
        ((s₁.note (.bindMeter k s.meters.next)).meter k).instruments⟩
      (s₁.note (.bindMeter k s.meters.next)) := by
    rw [hsame]
    exact hopen.alike (.of_shown hshown)
  refine ⟨s.meters.next, s₁.note (.bindMeter k s.meters.next), ?_,
    h.steady ?_ hnext (fun x hx => List.mem_cons_of_mem _ hx) (fun q hq => .inl hq) ?_ ?_ ?_ ?_⟩
  · rw [Op.advance, Op.askForMeter, Op.bind_of_ok (Op.get_run s),
      Op.bind_of_ok (Op.attempt_of_ok hrun)]
    rfl
  · exact ((Steady.askMeter s p p _).trans (.of_shown hs₁.shown)).trans (.note _ _)
  all_goals simp

/-- The meter is locked. -/
theorem advance_asked {k t : MeterRef} {tally : Tally} {left : List MeterRef}
    (h : Beside start r p a ⟨.asked k t tally left, s⟩) :
    Op.advance r p (.asked k t tally left) s = .ok (.instruments k t
        (.start (s.meter k).instruments.length) (s.meter k).instruments tally left) s ∧
      Beside start r p a ⟨.instruments k t (.start (s.meter k).instruments.length)
        (s.meter k).instruments tally left, s⟩ := by
  obtain ⟨own, hfamily⟩ := h.family
  have hnone := (hfamily.progress.opened k t rfl).2
  refine ⟨?_, h.steady (.refl s) hfamily (fun x hx => hx) (fun q hq => .inl hq) ?_ ?_ ?_ ?_⟩
  · rw [Op.advance, Op.enterMeter, Op.bind_of_ok (Op.get_run s)]
    simp only [hnone]
    rfl
  all_goals simp

/-- The meter that the open meter will be bound to is one of the backend. -/
theorem serves {k t : MeterRef} {inner : Tally} {is : List InstrumentRef} {tally : Tally}
    {left : List MeterRef} (hstart : start.Offered r p)
    (h : Beside start r p a ⟨.instruments k t inner is tally left, s⟩) : s.Serves p t := by
  obtain ⟨own, hfamily⟩ := h.family
  have hmade := hfamily.sound.bindings.made k t (.inr rfl)
  obtain ⟨d, q, e, _, _, hd, hq, he, hlead, _⟩ := hmade.history
  obtain ⟨_, d', hd', hkd', _⟩ := hfamily.meters.known k (hfamily.progress.opened k t rfl).1
  have hnone := target?_backend hstart hfamily.later
  obtain rfl : d' = d := Option.some.inj (hkd'.symm.trans hd)
  -- the provider of the open meter has a target, so it is the deferred one
  have hqp : q = p := by
    rcases hd' with rfl | rfl
    · exact Option.some.inj (hq.symm.trans h.target)
    · rw [hnone] at hq
      cases hq
  have hep : e = p := by
    rw [hqp] at hlead
    rcases Relation.ReflTransGen.cases_head hlead with heq | ⟨x, hx, _⟩
    · exact heq.symm
    · rw [show (s.provider p).target? = some x from hx] at hnone
      cases hnone
  rw [hep] at he
  exact ⟨hmade.known, he, hfamily.target?_of_issuer (backend hstart hfamily.later) he,
    (hfamily.sound.tree.fits t p he).2⟩

/-- The next instrument of the locked meter is bound. -/
theorem advance_instruments {k t : MeterRef} {inner : Tally} {i : InstrumentRef}
    {is : List InstrumentRef} {tally : Tally} {left : List MeterRef} (hstart : start.Offered r p)
    (h : Beside start r p a ⟨.instruments k t inner (i :: is) tally left, s⟩) :
    ∃ inner' s', Op.advance r p (.instruments k t inner (i :: is) tally left) s =
        .ok (.instruments k t inner' is tally left) s' ∧
      Beside start r p a ⟨.instruments k t inner' is tally left, s'⟩ := by
  have hserves := serves hstart h
  obtain ⟨own, hfamily⟩ := h.family
  have htried := hfamily.tryInstrument (t := t) hserves.target
  obtain ⟨s', hs', hrun⟩ := Op.isolated_bindInstrument i hserves
  refine ⟨inner.note (s.instrumentTrial t i).answer.isOk, s', ?_,
    h.steady ?_ (htried.alike (.of_shown hs'.shown)) (fun x hx => hx) (fun q hq => .inl hq)
      ?_ ?_ ?_ ?_⟩
  · rw [Op.advance, Op.bind_of_ok (Op.instrumentName_run i s), Op.bind_of_ok hrun]
    rfl
  · exact (Steady.tryInstrument hserves.issuer i).trans (.of_shown hs'.shown)
  all_goals simp

/-- The locked meter is bound when all its instruments are. -/
theorem advance_instruments_nil {k t : MeterRef} {inner tally : Tally} {left : List MeterRef}
    (h : Beside start r p a ⟨.instruments k t inner [] tally left, s⟩) :
    ∃ s', Op.advance r p (.instruments k t inner [] tally left) s =
        .ok (.closing k inner tally left) s' ∧
      Beside start r p a ⟨.closing k inner tally left, s'⟩ := by
  obtain ⟨own, hfamily⟩ := h.family
  have hnone := (hfamily.progress.opened k t rfl).2
  refine ⟨s.updateMeter k fun x => x.bind t, rfl,
    h.steady ⟨.updateMeter (Meter.grows_bind hnone t), rfl, rfl, fun _ => rfl⟩ hfamily.closeMeter
      (fun x hx => hx) (fun q hq => .inl hq) ?_ ?_ ?_ ?_⟩
  all_goals simp

/-- The bound meter is unlocked. -/
theorem advance_closing {k : MeterRef} {inner tally : Tally} {left : List MeterRef}
    (h : Beside start r p a ⟨.closing k inner tally left, s⟩) :
    ∃ s', Op.advance r p (.closing k inner tally left) s = .ok (.meters (tally.note true) left) s' ∧
      Beside start r p a ⟨.meters (tally.note true) left, s'⟩ := by
  obtain ⟨own, hfamily⟩ := h.family
  refine ⟨_, rfl, h.steady (.log s _) (hfamily.alike (.log _)) (fun x hx => hx)
    (fun q hq => .inl hq) ?_ ?_ ?_ ?_⟩
  all_goals simp

/-- The gate fires. -/
theorem advance_bound (hstart : start.Offered r p) (h : Beside start r p a ⟨.bound, s⟩) :
    ∃ s', Op.advance r p .bound s = .ok (.ended true) s' ∧
      Beside start r p a ⟨.ended true, s'⟩ := by
  obtain ⟨own, hfamily⟩ := h.family
  let s' := (s.log (.installed false)).withGate r .passed
  have hr : s.registrations.Has r := (hfamily.later.registrations r hstart.registered).1
  have hrow : s'.registration r = { s.registration r with gate := .passed } :=
    Table.get_update_self _ _ hr
  refine ⟨s', rfl, ⟨own, (hfamily.alike (.log _)).alike (.pass _ r)⟩,
    fun x hx => absurd hx List.not_mem_nil, h.seen, ?_, h.target, ?_, by simp⟩
  · show (s'.registration r).provider = some p
    rw [hrow]
    exact h.slot
  · show (s'.registration r).gate.fired = true
    rw [hrow]
    rfl

/-- One step of the installing thread. -/
theorem advance (hstart : start.Offered r p) (h : Beside start r p a ⟨phase, s⟩) :
    ∃ phase' s', Op.advance r p phase s = .ok phase' s' ∧ Beside start r p a ⟨phase', s'⟩ := by
  cases phase with
  | before => exact ⟨_, advance_before hstart h⟩
  | written =>
      obtain ⟨tally, left, s', hrun, hnext⟩ := advance_written hstart h
      exact ⟨_, s', hrun, hnext⟩
  | meters tally left =>
      cases left with
      | cons k left =>
          obtain ⟨t, s', hrun, hnext⟩ := advance_meters hstart h
          exact ⟨_, s', hrun, hnext⟩
      | nil =>
          obtain ⟨own, hfamily⟩ := h.family
          refine ⟨.bound, _, rfl, h.steady (.log s _) (hfamily.alike (.log _)) (fun x hx => hx)
            (fun q hq => .inl hq) ?_ ?_ ?_ ?_⟩
          all_goals simp
  | asked k t tally left => exact ⟨_, s, advance_asked h⟩
  | instruments k t inner is tally left =>
      cases is with
      | cons i is =>
          obtain ⟨inner', s', hrun, hnext⟩ := advance_instruments hstart h
          exact ⟨_, s', hrun, hnext⟩
      | nil => exact ⟨_, advance_instruments_nil h⟩
  | closing k inner tally left =>
      obtain ⟨s', hrun, hnext⟩ := advance_closing h
      exact ⟨_, s', hrun, hnext⟩
  | bound =>
      obtain ⟨s', hrun, hnext⟩ := advance_bound hstart h
      exact ⟨_, s', hrun, hnext⟩
  | ended installed => exact ⟨_, s, rfl, h⟩

end Advance

/-! ## The other threads -/

/-- What a binding has still to do is not changed by what leaves the instruments of the open meter
alone. -/
theorem pending_eq (hsame : ∀ k t, (phase.pending s).opened = some (k, t) →
    (s'.meter k).instruments = (s.meter k).instruments) : phase.pending s' = phase.pending s := by
  cases phase with
  | asked k t tally left =>
      show Pending.mk _ _ _ = Pending.mk _ _ _
      rw [hsame k t rfl]
  | _ => rfl

/-- A meter that is not locked may have a new instrument. -/
theorem pending_meet {t : MeterRef} {request : Request} (hi : s.Issued s' t request none)
    (hknown : s.meters.Has t) (hdeferred : ∀ k x, (phase.pending s).opened = some (k, x) →
      (s.meter k).body.isDeferred = true) (hfree : phase.lockedMeter? ≠ some t) :
    phase.pending s' = (phase.pending s).meet t s.instruments.next := by
  cases phase with
  | asked k x tally left =>
      have hrow := hi.meter_eq k
      by_cases hk : k = t
      · have hself : s'.meter k = (s.meter k).keepRequest request s.instruments.next := by
          rw [Store.meter, hi.meters, hk]
          exact Table.get_update_self _ _ hknown
        have hinstruments : (s'.meter k).instruments =
            (s.meter k).instruments ++ [s.instruments.next] := by
          rw [hself]
          have hbody := hdeferred k x rfl
          cases hx : (s.meter k).body <;>
            simp_all [MeterBody.isDeferred, Meter.keepRequest, Meter.hold, Meter.instruments]
        have hopen : (Phase.pending s (.asked k x tally left)).opened.map Prod.fst = some t :=
          congrArg some hk
        show Pending.mk _ _ _ = _
        rw [hinstruments, Pending.meet, if_pos hopen]
        rfl
      · have hclosed : (Phase.pending s (.asked k x tally left)).opened.map Prod.fst ≠ some t :=
          fun heq => hk (Option.some.inj heq)
        show Pending.mk _ _ _ = _
        rw [hrow.resolve_right fun hboth => hk hboth.1, Pending.meet_of_closed _ _ _ hclosed]
        rfl
  | instruments k x inner is tally left =>
      exact (Pending.meet_of_closed ⟨left, some (k, x), is⟩ t _ hfree).symm
  | _ => rfl

theorem step_of_ok {m : Machine} {x : Move} {answer : Answer}
    (h : Op.move r p m.phase x m.store = .ok (phase, answer) s) :
    m.step r p x = (answer, ⟨phase, s⟩) := by
  rw [Machine.step, h]

theorem step_of_error {m : Machine} {x : Move} {halt : Halt}
    (h : Op.move r p m.phase x m.store = .error halt s) :
    m.step r p x = (.halted halt, ⟨m.phase, s⟩) := by
  rw [Machine.step, h]

/-- A provider that a thread has seen is asked for a meter. -/
theorem requestMeter (h : Beside start r p a ⟨phase, s⟩) {q : ProviderRef}
    (hq : q = (start.registration r).deferred ∨ q = p) (scope : Scope) :
    ∃ s', Op.requestMeter q scope s = .ok s.meters.next s' ∧
      Beside start r p { a with kin := a.kin.addMeter s.meters.next } ⟨phase, s'⟩ := by
  obtain ⟨own, hfamily⟩ := h.family
  obtain ⟨e, s', he, hshown, hrun, hsteady, hnext⟩ := hfamily.requestMeter_run hq scope
  have hanswer := hfamily.providers.meterAnswer (hfamily.providers.end hq he) scope
  have hpending : phase.pending s' = phase.pending s := by
    refine pending_eq fun k t hopened => ?_
    have hknown := hfamily.has_meter (hfamily.progress.opened k t hopened).1
    rw [hshown.meter, Store.meter_askMeter_ite hanswer, if_neg (Table.ne_next_of_has hknown)]
  refine ⟨s', hrun, h.steady hsteady (hpending ▸ hnext) (fun k hk => hpending ▸ hk)
    (fun x hx => .inl hx) .rfl .rfl .rfl h.installed⟩

/-- A meter that is not blocked is asked for an instrument. -/
theorem requestInstrument (h : Beside start r p a ⟨phase, s⟩) {k : MeterRef}
    (hk : a.kin.meters k) (hfree : phase.blocksMeter s k = false) (request : Request) :
    ∃ s', Op.requestInstrument k request s = .ok s.instruments.next s' ∧
      Beside start r p { a with kin := a.kin.addInstrument s.instruments.next } ⟨phase, s'⟩ := by
  obtain ⟨own, hfamily⟩ := h.family
  have hown := hfamily.meters.lines.own_of_held k hk
  obtain ⟨t, s', ht, hshown, hrun, hsteady, hnext⟩ := hfamily.requestInstrument_run hown request
  have htown := hfamily.own_end hown ht
  obtain ⟨e, hissuer, hanswer⟩ := hfamily.instrumentAnswer htown request
  have hi := Store.issued_askInstrument k hissuer hanswer
  -- a caller is blocked when the meter at the end of its chain is locked
  have hunlocked : phase.lockedMeter? ≠ some t := by
    intro hlocked
    have hleads : s.meterLeadsTo k t = true := leadsTo_of_chase ht
    rw [Phase.blocksMeter, hlocked, Option.any_some, hleads] at hfree
    cases hfree
  have hpending : phase.pending s' = (phase.pending s).meet t s.instruments.next := by
    rw [← pending_meet hi (hfamily.has_meter htown)
      (fun x y hopened => hfamily.deferred_of_opened hopened) hunlocked]
    exact pending_eq fun x y _ => congrArg Meter.instruments (hshown.meter x)
  refine ⟨s', hrun, h.steady hsteady (hpending ▸ hnext) (fun x hx => ?_)
    (fun x hx => .inl hx) .rfl .rfl .rfl h.installed⟩
  rw [hpending, Pending.meters_meet] at hx
  exact hx

/-- Giving samples and observing change nothing that matters. -/
theorem of_goes (h : Beside start r p a ⟨phase, s⟩) {α : Type} {op : Op α}
    (hgoes : Op.Goes Gives op s Op.Anything) : Beside start r p a ⟨phase, op.left s⟩ := by
  obtain ⟨own, hfamily⟩ := h.family
  obtain ⟨hsteady, hnext⟩ := hfamily.of_goes hgoes
  have hpending : phase.pending (op.left s) = phase.pending s :=
    pending_eq fun k _ _ => ((Alike.of_path hgoes.path).meter k).instruments
  exact h.steady hsteady (hpending ▸ hnext) (fun k hk => hpending ▸ hk) (fun x hx => .inl hx)
    .rfl .rfl .rfl h.installed

/-- A step of any thread has an answer, unless it calls a callback, and leads on to such a machine.
-/
theorem move_run (hstart : start.Offered r p) (h : Beside start r p a ⟨phase, s⟩) {x : Move}
    (hx : a.Allows x) (hobserve : ∀ i, x ≠ .observe i) :
    ∃ phase' answer s', Op.move r p phase x s = .ok (phase', answer) s' ∧
      Beside start r p (a.take (start.registration r).deferred answer) ⟨phase', s'⟩ := by
  obtain ⟨own, hfamily⟩ := h.family
  cases x with
  | advance =>
      obtain ⟨phase', s', hrun, hnext⟩ := advance hstart h
      refine ⟨phase', .advanced, s', ?_, hnext⟩
      rw [Op.move, Op.bind_of_ok hrun]
      rfl
  | requestMeter scope =>
      cases hlocked : phase.locksProvider with
      | true =>
          refine ⟨phase, .blocked, s, ?_, h⟩
          rw [Op.move, hlocked]
          rfl
      | false =>
          obtain ⟨s', hrun, hnext⟩ := h.requestMeter (.inl (deferred_eq hstart hfamily.later)) scope
          refine ⟨phase, .meter s.meters.next, s', ?_, hnext⟩
          rw [Op.move, hlocked, if_neg Bool.false_ne_true, Op.bind_of_ok (Op.get_run s),
            Op.bind_of_ok hrun]
          rfl
  | requestMeterFrom q scope =>
      cases hblocked : phase.blocksProvider s (s.registration r).deferred q with
      | true =>
          refine ⟨phase, .blocked, s, ?_, h⟩
          rw [Op.move, Op.bind_of_ok (Op.get_run s), hblocked]
          rfl
      | false =>
          obtain ⟨s', hrun, hnext⟩ := h.requestMeter (h.seen q hx) scope
          refine ⟨phase, .meter s.meters.next, s', ?_, hnext⟩
          rw [Op.move, Op.bind_of_ok (Op.get_run s), hblocked, if_neg Bool.false_ne_true,
            Op.bind_of_ok hrun]
          rfl
  | requestInstrument k request =>
      cases hblocked : phase.blocksMeter s k with
      | true =>
          refine ⟨phase, .blocked, s, ?_, h⟩
          rw [Op.move, Op.bind_of_ok (Op.get_run s), hblocked]
          rfl
      | false =>
          obtain ⟨s', hrun, hnext⟩ := h.requestInstrument hx hblocked request
          refine ⟨phase, .instrument s.instruments.next, s', ?_, hnext⟩
          rw [Op.move, Op.bind_of_ok (Op.get_run s), hblocked, if_neg Bool.false_ne_true,
            Op.bind_of_ok hrun]
          rfl
  | look =>
      refine ⟨phase, .seen (s.registration r).provider, s, rfl, { h with seen := fun q hq => ?_ }⟩
      rcases hq with rfl | hq
      -- before the provider is written down, the thread goes on with the deferred one
      · have hslot : (s.registration r).provider = if phase = .before then none else some p :=
          h.slot
        rw [hslot]
        split
        · exact .inl rfl
        · exact .inr rfl
      · exact h.seen q hq
  | record i sample attributes =>
      have hown := hfamily.instruments.lines.own_of_held i hx
      obtain ⟨j, hend, _⟩ := hfamily.exists_instrumentEnd hown
      have hnext := h.of_goes (Op.gives_record i sample attributes)
      have hrun := Op.record_run hend sample attributes
      rw [Op.left_of_ok hrun] at hnext
      refine ⟨phase, .recorded, _, ?_, hnext⟩
      rw [Op.move, Op.bind_of_ok hrun]
      rfl
  | observe i => exact absurd rfl (hobserve i)

/-- A step of any thread leads on to such a machine. -/
theorem move (hstart : start.Offered r p) {m : Machine} (h : Beside start r p a m) {x : Move}
    (hx : a.Allows x) :
    Beside start r p (a.take (start.registration r).deferred (m.step r p x).1)
      (m.step r p x).2 := by
  obtain ⟨phase, s⟩ := m
  -- a callback may halt the thread, whose step has no answer then
  by_cases hobserve : ∃ i, x = .observe i
  · obtain ⟨i, rfl⟩ := hobserve
    have hnext := h.of_goes (Op.gives_observe i)
    cases hrun : Op.observe i s with
    | ok batch s' =>
        rw [Op.left_of_ok hrun] at hnext
        have hmove : Op.move r p phase (.observe i) s = .ok (phase, .batch batch) s' := by
          rw [Op.move, Op.bind_of_ok hrun]
          rfl
        rw [step_of_ok hmove]
        exact hnext
    | error halt s' =>
        rw [Op.left_of_error hrun] at hnext
        have hmove : Op.move r p phase (.observe i) s = .error halt s' := by
          rw [Op.move, Op.bind_of_error hrun]
        rw [step_of_error hmove]
        exact hnext
  · obtain ⟨phase', answer, s', hrun, hnext⟩ :=
      move_run hstart h hx fun i hi => hobserve ⟨i, hi⟩
    rw [step_of_ok hrun]
    exact hnext

/-- Whatever the order of the steps. -/
theorem of_comes (hstart : start.Offered r p) {m : Machine} (h : Comes r p start a m) :
    Beside start r p a m := by
  induction h with
  | start => exact initial hstart
  | step x _ hx ih => exact ih.move hstart hx

end Beside

end DeferredMetrics
