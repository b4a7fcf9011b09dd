import DeferredMetrics.Proofs.Doing

set_option autoImplicit false

/-! # Where instruments lead

A target of an instrument is a newer one, which was made for the same request; so every chain of
instruments has an end, and that is asked for by the same request (`Store.exists_end`). An
instrument that leads to a log was issued by a meter that keeps one. Every deed keeps this
(`Deed.wired`), so it holds of all stores that can be reached (`wired_of_reachable`). Instruments are
handed on together with their meters (`Store.Abreast`). -/

namespace DeferredMetrics

open Relation (ReflTransGen)

/-- Where the instruments of a store lead. -/
structure Store.Wired (s : Store) : Prop where
  log : ∀ i, (s.instrument i).destination = .log →
    (s.meter (s.instrument i).issuer).freshDestination = .log
  target : ∀ i j, (s.instrument i).target? = some j →
    s.instruments.Has j ∧ i.place < j.place ∧ (s.instrument j).request = (s.instrument i).request

namespace Instrument

theorem request_bind (i : Instrument) (j : InstrumentRef) : (i.bind j).request = i.request := by
  unfold bind
  split <;> rfl

/-- What leads to a log has no target and gets none. -/
theorem bind_of_log {i : Instrument} {j : InstrumentRef} (h : (i.bind j).destination = .log) :
    i.bind j = i := by
  unfold bind at h ⊢
  split at h
  · cases h
  · rfl

theorem eq_of_target?_bind {i : Instrument} {j l : InstrumentRef} (hnone : i.target? = none)
    (h : (i.bind j).target? = some l) : l = j := by
  unfold bind at h
  split at h
  · exact (Option.some.inj h).symm
  · exact absurd (hnone.symm.trans h) (by simp)

end Instrument

theorem Meter.freshDestination_bind (m : Meter) (t : MeterRef) :
    (m.bind t).freshDestination = m.freshDestination := by
  cases hm : m.body <;> simp [bind, hm, freshDestination]

namespace Store.Wired

variable {s s' : Store}

/-- Instruments stay wired where they and the kinds of meters stay. -/
theorem congr (h : s.Wired) (hinstruments : s'.instruments = s.instruments)
    (hmeters : ∀ m, (s.meter m).freshDestination = .log → (s'.meter m).freshDestination = .log) :
    s'.Wired := by
  have hrow : ∀ i, s'.instrument i = s.instrument i := fun i => by
    rw [instrument, hinstruments]
    rfl
  constructor
  · intro i hi
    rw [hrow] at hi ⊢
    exact hmeters _ (h.log i hi)
  · intro i j hij
    rw [hrow] at hij
    rw [hinstruments, hrow, hrow]
    exact h.target i j hij

theorem of_eq (h : s.Wired) (hinstruments : s'.instruments = s.instruments)
    (hmeters : s'.meters = s.meters) : s'.Wired :=
  h.congr hinstruments fun m hm => by rwa [meter, hmeters]

/-- A new meter was none that anything leads to. -/
theorem addMeter (h : s.Wired) (x : Meter) : (s.addMeter x).Wired :=
  h.congr rfl fun m hm => by
    have hne : m ≠ s.meters.next := by
      rintro rfl
      rw [meter, s.meters.get_next] at hm
      cases hm
    rwa [show (s.addMeter x).meter m = _ from s.meters.get_add x m, if_neg hne]

theorem updateMeter (h : s.Wired) (m : MeterRef) {f : Meter → Meter}
    (hf : ∀ x : Meter, (f x).freshDestination = x.freshDestination) : (s.updateMeter m f).Wired :=
  h.congr rfl fun k hk => by
    rw [meter, Store.updateMeter, Table.get_update]
    split
    · exact (hf _).trans hk
    · exact hk

/-- A new instrument leads where its meter lets new ones lead. -/
theorem askInstrument (h : s.Wired) (m t : MeterRef) (request : Request) :
    (s.askInstrument m t request).Wired := by
  have hmeters : ∀ k, ((s.askInstrument m t request).meter k).freshDestination =
      (s.meter k).freshDestination := by
    intro k
    rw [meter, meters_askInstrument]
    exact Table.apply_get_update Meter.freshDestination _
      (fun x => Meter.freshDestination_of_like (x.like_take _ _)) t k
  cases hanswer : s.instrumentAnswer t request with
  | error payload =>
      exact h.congr (instruments_askInstrument_of_error s m hanswer) fun k hk =>
        (hmeters k).trans hk
  | ok j =>
      have hrow := instrument_askInstrument_ite s m hanswer
      obtain rfl := instrumentAnswer_eq_next s hanswer
      constructor
      · intro i hi
        rw [hrow] at hi ⊢
        rw [hmeters]
        split at hi
        · rename_i hnext
          rw [if_pos hnext]
          exact hi
        · rename_i hnext
          rw [if_neg hnext]
          exact h.log i hi
      · intro i j hij
        rw [hrow] at hij
        split at hij
        · -- a new instrument has no target yet
          unfold Meter.freshDestination at hij
          cases hbody : (s.meter t).body <;> simp [hbody, Instrument.target?] at hij
        · rename_i hi
          obtain ⟨hj, hplace, hrequest⟩ := h.target i j hij
          rw [hrow, hrow, if_neg hi, if_neg (Table.ne_next_of_has hj),
            instruments_askInstrument_of_ok s m hanswer, Table.has_add]
          exact ⟨.inl hj, hplace, hrequest⟩

/-- An instrument may be bound to a newer one for the same request. -/
theorem bindInstrument (h : s.Wired) {i j : InstrumentRef} (hj : s.instruments.Has j)
    (hplace : i.place < j.place) (hrequest : (s.instrument j).request = (s.instrument i).request) :
    (s.bindInstrument i j).Wired := by
  unfold Store.bindInstrument
  split
  · exact h.of_eq rfl rfl
  · rename_i hbound
    have hnone : (s.instrument i).target? = none := by simpa using hbound
    have hrow : ∀ k, (s.updateInstrument i fun x => x.bind j).instrument k =
        if k = i ∧ s.instruments.Has i then (s.instrument k).bind j else s.instrument k :=
      fun k => Table.get_update _ _ _ _
    have hkept : ∀ k, ((s.updateInstrument i fun x => x.bind j).instrument k).request =
        (s.instrument k).request := by
      intro k
      rw [hrow]
      split
      · exact Instrument.request_bind _ _
      · rfl
    constructor
    · intro k hk
      have hsame : (s.updateInstrument i fun x => x.bind j).instrument k = s.instrument k := by
        rw [hrow] at hk ⊢
        split
        · rename_i hki
          rw [if_pos hki] at hk
          exact Instrument.bind_of_log hk
        · rfl
      rw [hsame] at hk ⊢
      exact h.log k hk
    · intro k l hkl
      rw [hkept, hkept, show (s.updateInstrument i fun x => x.bind j).instruments.Has l ↔ _ from
        Table.has_update _ _ _ _]
      rw [hrow] at hkl
      split at hkl
      · rename_i hki
        obtain ⟨rfl, _⟩ := hki
        obtain rfl := Instrument.eq_of_target?_bind hnone hkl
        exact ⟨hj, hplace, hrequest⟩
      · exact h.target k l hkl

/-- The instrument that is made for another one is newer, and its request is the same. -/
theorem tryInstrument (h : s.Wired) (t : MeterRef) {i : InstrumentRef} (hi : s.instruments.Has i) :
    (s.tryInstrument t i).Wired := by
  have hnoted : (s.note (.bindInstrument i t)).Wired := h.of_eq rfl rfl
  have hasked := hnoted.askInstrument t t (s.instrument i).request
  have hlater := Later.askInstrument (s.note (.bindInstrument i t)) t t (s.instrument i).request
  unfold Store.tryInstrument
  simp only
  split
  · rename_i j hanswer
    obtain rfl := instrumentAnswer_eq_next s hanswer
    have htable := instruments_askInstrument_of_ok (s.note (.bindInstrument i t)) t hanswer
    refine hasked.bindInstrument ?_ hi ?_
    · rw [htable]
      exact Table.has_next_add _ _
    · rw [(hlater.instrument hi).request, instrument, htable]
      show ((s.instruments.add ⟨(s.instrument i).request, t, _⟩).get s.instruments.next).request =
        (s.instrument i).request
      rw [Table.get_add_next]
  · exact hasked.of_eq rfl rfl

theorem tryInstruments (h : s.Wired) (t : MeterRef) {is : List InstrumentRef}
    (his : ∀ i ∈ is, s.instruments.Has i) : (s.tryInstruments t is).Wired := by
  induction is generalizing s with
  | nil => exact h
  | cons i is ih =>
      refine ih (h.tryInstrument t (his i List.mem_cons_self)) fun k hk => ?_
      exact ((Later.tryInstrument s t i).instruments k (his k (List.mem_cons_of_mem i hk))).1

end Store.Wired

/-- Every deed leaves instruments wired. -/
theorem Deed.wired {s s' : Store} (h : s.Wired) (hdeed : Deed s s') : s'.Wired := by
  cases hdeed with
  | aside _ hmeters hinstruments => exact h.of_eq hinstruments hmeters
  | addProvider => exact h.of_eq rfl rfl
  | addMeter => exact h.addMeter _
  | addCallback => exact h.of_eq rfl rfl
  | give => exact h.of_eq rfl rfl
  | keep m events =>
      exact h.updateMeter m fun x => Meter.freshDestination_of_like (Meter.like_keep x events)
  | poll => exact h.of_eq rfl rfl
  | @askMeter p e scope =>
      have hinstruments := Store.instruments_askMeter s p e scope
      cases hanswer : s.meterAnswer e scope with
      | error payload =>
          exact h.of_eq hinstruments (Store.meters_askMeter_of_error s p hanswer)
      | ok t =>
          exact (h.addMeter _).of_eq hinstruments (Store.meters_askMeter_of_ok s p hanswer)
  | loseMeter => exact h.of_eq rfl rfl
  | askInstrument request => exact h.askInstrument _ _ request
  | loseInstrument => exact h.of_eq rfl rfl
  | assign => exact h.of_eq rfl rfl
  | tellAgain => exact h.of_eq rfl rfl
  | @bindMeter e m t hserves hwaits =>
      have hnoted : (s.note (.bindMeter m t)).Wired := h.of_eq rfl rfl
      have htried := hnoted.tryInstruments t fun i hi => (hwaits.instruments i hi).1.known
      have hbound := htried.updateMeter m fun x => Meter.freshDestination_bind x t
      exact hbound.of_eq rfl rfl

theorem wired_of_deeds {s s' : Store} (h : s.Wired) (hdeeds : ReflTransGen SoundDeed s s') :
    s'.Wired := by
  induction hdeeds with
  | refl => exact h
  | tail _ hdone ih => exact hdone.deed.wired ih

theorem wired_initial (environment : Environment) : (Store.initial environment).Wired where
  log _ hi := by cases hi
  target _ _ hij := by cases hij

theorem wired_of_reachable {s : Store} (h : Reachable s) : s.Wired := by
  obtain ⟨environment, hdeeds⟩ := deeds_of_reachable h
  exact wired_of_deeds (wired_initial environment) hdeeds

namespace Store

variable {s : Store}

/-- The chain of every instrument has an end, which was asked for by the same request. -/
theorem exists_end (h : s.Wired) (i : InstrumentRef) :
    ∃ e, s.instrumentEnd? i = some e ∧ (s.instrument e).request = (s.instrument i).request := by
  have hsome : (s.instrumentEnd? i).isSome = true := by
    refine chase_isSome_of_rank (fun i => s.instruments.size - i.place) (fun x y hxy => ?_) _ i ?_
    · obtain ⟨hknown, hplace, _⟩ := h.target x y hxy
      have hlt : y.place < s.instruments.size := hknown
      omega
    · omega
  obtain ⟨e, he⟩ := Option.isSome_iff_exists.1 hsome
  have hkept : ∀ x, Leads (fun r => (s.instrument r).target?) i x →
      (s.instrument x).request = (s.instrument i).request := by
    intro x hx
    induction hx with
    | refl => rfl
    | tail _ hxy ih => exact (h.target _ _ hxy).2.2.trans ih
  exact ⟨e, he, hkept e (instrumentEnd?_eq_some.1 he).1⟩

end Store

/-! ## Meters and their instruments -/

namespace Store

variable {s s' : Store}

/-- The chain of every meter of a sound store has an end. -/
theorem exists_meterEnd (h : Sound s) (m : MeterRef) : ∃ t, s.meterEnd? m = some t := by
  refine Option.isSome_iff_exists.1 ?_
  refine chase_isSome_of_rank (fun m => s.meters.size - m.place) (fun x y hxy => ?_) _ m ?_
  · obtain ⟨hknown, horder, _⟩ := h.bindings.made x y (.inl hxy)
    have hlt : y.place < s.meters.size := hknown
    omega
  · omega

/-- An instrument that has a target was handed on with its meter: the target was issued by the
target of the meter. -/
def Abreast (s : Store) : Prop :=
  ∀ i j, (s.instrument i).target? = some j →
    (s.meter (s.instrument i).issuer).target? = some (s.instrument j).issuer

theorem target?_tryInstruments (t : MeterRef) {is : List InstrumentRef} (hnodup : is.Nodup)
    (hwaits : ∀ i ∈ is, s.InstrumentWaits i) {k l : InstrumentRef}
    (h : ((s.tryInstruments t is).instrument k).target? = some l) :
    (s.instrument k).target? = some l ∨
      k ∈ is ∧ ((s.tryInstruments t is).instrument l).issuer = t := by
  induction is generalizing s with
  | nil => exact .inl h
  | cons i is ih =>
      obtain ⟨hi, hnodup⟩ := List.nodup_cons.1 hnodup
      have hhead := hwaits i List.mem_cons_self
      have htail : ∀ k ∈ is, (s.tryInstrument t i).InstrumentWaits k := fun k hk =>
        hhead.tryInstrument (hwaits k (List.mem_cons_of_mem i hk)) fun heq => hi (heq ▸ hk)
      rcases ih hnodup htail h with hbefore | ⟨hmem, hissuer⟩
      · rcases target?_tryInstrument t hhead hbefore with hold | ⟨rfl, hknown, hissuer⟩
        · exact .inl hold
        · have hlater := Later.tryInstruments (s.tryInstrument t k) t is
          exact .inr ⟨List.mem_cons_self, (hlater.instrument hknown).issuer.trans hissuer⟩
      · exact .inr ⟨List.mem_cons_of_mem i hmem, hissuer⟩

namespace Abreast

theorem of_eq (h : s.Abreast) (hmeters : s'.meters = s.meters)
    (hinstruments : s'.instruments = s.instruments) : s'.Abreast := by
  intro i j hij
  rw [instrument, hinstruments] at hij ⊢
  rw [instrument, hinstruments, meter, hmeters]
  exact h i j hij

/-- Where nothing is taken back, what has to be seen to are the new targets of instruments. -/
theorem of_later (h : s.Abreast) (hwired : s.Wired) (hlater : Later s s')
    (hnew : ∀ i j, (s'.instrument i).target? = some j → (s.instrument i).target? = some j ∨
      (s'.meter (s'.instrument i).issuer).target? = some (s'.instrument j).issuer) :
    s'.Abreast := by
  intro i j hij
  rcases hnew i j hij with hold | hnew
  · have hmeter := h i j hold
    rw [(hlater.instrument (has_of_instrumentTarget hold)).issuer,
      (hlater.instrument (hwired.target i j hold).1).issuer]
    exact (hlater.meter (has_of_meterTarget hmeter)).target _ hmeter
  · exact hnew

/-- The instruments of a meter get targets just before the meter does. -/
theorem bindMeter (h : s.Abreast) (hwired : s.Wired) {m t : MeterRef} (hwaits : s.MeterWaits m)
    (hne : m ≠ t) : (s.bindMeter m t).Abreast := by
  have hwaits' : ∀ i ∈ (s.meter m).instruments, (s.note (.bindMeter m t)).InstrumentWaits i :=
    fun i hi => (hwaits.instruments i hi).1.congr rfl
  have htargets := fun k l => target?_tryInstruments t hwaits.nodup hwaits' (k := k) (l := l)
  have htried := (Later.note s (.bindMeter m t)).trans
    (.tryInstruments (s.note (.bindMeter m t)) t (s.meter m).instruments)
  have hsame : ((s.note (.bindMeter m t)).tryInstruments t (s.meter m).instruments).meter m =
      s.meter m := meter_tryInstruments hne _
  have hend : s.bindMeter m t = (((s.note (.bindMeter m t)).tryInstruments t
    (s.meter m).instruments).updateMeter m fun x => x.bind t).log _ := rfl
  rw [hend]
  generalize (s.note (.bindMeter m t)).tryInstruments t (s.meter m).instruments = s₁
    at htargets htried hsame
  have hnone : (s₁.meter m).target? = none := by
    rw [hsame]
    exact hwaits.target?
  refine h.of_later hwired
    ((htried.trans (.updateMeter (Meter.grows_bind hnone t))).trans (.log _ _)) fun i j hij => ?_
  refine (htargets i j hij).imp_right fun ⟨hi, hissuer⟩ => ?_
  -- an instrument that has got a target stands on the list of the meter
  obtain ⟨hknown, hmeter⟩ := hwaits.instruments i hi
  have hissuer' : (s₁.instrument i).issuer = m :=
    (htried.instrument hknown.known).issuer.trans hmeter
  show ((s₁.updateMeter m fun x => x.bind t).meter (s₁.instrument i).issuer).target? =
    some (s₁.instrument j).issuer
  rw [hissuer, hissuer', meter, updateMeter,
    Table.get_update_self _ _ (htried.meters m hwaits.known).1]
  show ((s₁.meter m).bind t).target? = some t
  rw [hsame]
  exact hwaits.target?_bind t

end Abreast

end Store

/-- Every deed leaves instruments abreast of their meters. -/
theorem Deed.abreast {s s' : Store} (hwired : s.Wired) (h : s.Abreast) (hdeed : Deed s s') :
    s'.Abreast := by
  cases hdeed with
  | aside _ hmeters hinstruments => exact h.of_eq hmeters hinstruments
  | addMeter => exact h.of_later hwired (.addMeter s _) fun _ _ => .inl
  | keep m events =>
      exact h.of_later hwired (.updateMeter (Meter.grows_keep _ events)) fun _ _ => .inl
  | @askMeter p e scope =>
      refine h.of_later hwired (.askMeter s p e scope) fun i j hij => .inl ?_
      rwa [Store.instrument, Store.instruments_askMeter] at hij
  | @askInstrument m t request =>
      exact h.of_later hwired (.askInstrument s m t request) fun i j hij =>
        .inl (Store.target?_askInstrument m t request hij)
  | bindMeter _ hwaits hne => exact h.bindMeter hwired hwaits hne
  | _ => exact h.of_eq rfl rfl

theorem abreast_of_deeds {s s' : Store} (hwired : s.Wired) (h : s.Abreast)
    (hdeeds : ReflTransGen SoundDeed s s') : s'.Abreast := by
  induction hdeeds with
  | refl => exact h
  | tail hdeeds hdone ih => exact hdone.deed.abreast (wired_of_deeds hwired hdeeds) ih

theorem abreast_of_reachable {s : Store} (h : Reachable s) : s.Abreast := by
  obtain ⟨environment, hdeeds⟩ := deeds_of_reachable h
  exact abreast_of_deeds (wired_initial environment) (fun _ _ hij => by cases hij) hdeeds

end DeferredMetrics
