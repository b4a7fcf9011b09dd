import DeferredMetrics.Proofs.Lineage

set_option autoImplicit false

/-! # Instruments and the end of a binding

A new instrument begins a line, if a caller asked for it, or goes to the end of one, if it was made
for a deferred instrument that is bound to it (`Lineage.askInstrument`, `Lineage.tryInstrument`).
When the instruments of the open meter are bound, it is closed (`Lineage.closeMeter`), and when all
is done, another provider of the family may be told its target (`Lineage.bindTarget`). -/

namespace DeferredMetrics

section Issued

variable {Q : ProviderRef → Prop} {start s s' : Store} {own : Kin}
  {o : Option (MeterRef × MeterRef)} {t : MeterRef} {request : Request}
  {i? : Option InstrumentRef}

theorem Household.issued (h : Household Q s) (hi : s.Issued s' t request i?) : Household Q s' :=
  h.congr hi.has_provider hi.size_providers hi.target?_provider
    fun q hq => hi.willing q (h.willing q hq)

theorem MeterKin.issued {held : MeterRef → Prop} (h : MeterKin Q start held own o s)
    (hi : s.Issued s' t request i?) (j : InstrumentRef) :
    MeterKin Q start held (own.addInstrument j) o s' := by
  have hsame : MeterKin Q start held own o s' := h.congr hi.isDeferred_provider
    hi.issued_provider hi.has_meter
    (fun m => (hi.like_meter m).issuer) fun m _ => Store.heir_congr o (hi.like_meter m).target
  exact ⟨hsame.known, hsame.listed, hsame.new, hsame.old, hsame.lines⟩

/-- A meter of the family has a new instrument. -/
theorem InstrumentKin.issued {held held' : InstrumentRef → Prop}
    (h : InstrumentKin start held own o s) (hlater : Later start s)
    (hi : s.Issued s' t request i?) (ht : own.meters t) (hknown : s.meters.Has t)
    (hbound : ∀ i, i? = some i → (s.instrument i).target? = none ∧
      (s.instrument i).destination.isDeferred = true ∧
      s.heir o (s.instrument i).issuer = some t ∧ request = (s.instrument i).request)
    (hlines : Lines (fun i => (s'.instrument i).target?) held'
      (own.addInstrument s.instruments.next).instruments) :
    InstrumentKin start held' (own.addInstrument s.instruments.next) o s' := by
  have hnext := hi.instrument_next
  have hold : ∀ i, own.instruments i → i ≠ s.instruments.next :=
    fun i hown => Table.ne_next_of_has (h.known i hown).1
  have hheir : ∀ m, s'.heir o m = s.heir o m :=
    fun m => Store.heir_congr o (hi.like_meter m).target
  constructor
  case known =>
    rintro i (rfl | hown)
    · rw [hi.has_instrument, hnext]
      refine ⟨.inr rfl, ht, fun hdeferred => ?_⟩
      rw [(hi.like_meter t).deferred] at hdeferred
      exact (hi.mem_instruments t hknown _).2 (.inr ⟨rfl, hdeferred, rfl⟩)
    · obtain ⟨hhas, hissuer, hlisted⟩ := h.known i hown
      rw [hi.has_instrument, (hi.instrument_kept hhas).2]
      refine ⟨.inl hhas, hissuer, fun hdeferred => ?_⟩
      rw [(hi.like_meter _).deferred] at hdeferred
      exact (hi.mem_instruments _ hknown i).2 (.inl (hlisted hdeferred))
  case listed =>
    intro m hm i hmem
    rcases (hi.mem_instruments m hknown i).1 hmem with hmem | ⟨_, _, rfl⟩
    · exact .inr (h.listed m hm i hmem)
    · exact .inl rfl
  case new =>
    intro i hhas hstart
    exact ((hi.has_instrument i).1 hhas).symm.imp_right fun hhas => h.new i hhas hstart
  case old =>
    rintro i (rfl | hown) hstart
    · exact absurd rfl (Table.ne_next_of_has (hlater.instruments _ hstart).1)
    · exact h.old i hown hstart
  case lines => exact hlines
  case passed =>
    rintro i j (rfl | hown) htarget
    · rw [hnext, Meter.target?_freshDestination] at htarget
      cases htarget
    · have hhas := (h.known i hown).1
      rw [hheir, (hi.instrument_kept hhas).1, (hi.instrument_kept hhas).2]
      -- the one that is bound now passes to the new one, the others as before
      by_cases hbind : i? = some i
      · obtain ⟨hnone, hdeferred, hto, rfl⟩ := hbound i hbind
        rw [hi.instrument_bound hbind, Instrument.target?_bind hdeferred] at htarget
        obtain rfl := Option.some.inj htarget
        rw [hnext]
        exact ⟨hto, rfl⟩
      · rw [hi.instrument_of_ne hhas hbind] at htarget
        have hj := (h.known j (h.lines.closed i j hown htarget)).1
        rw [(hi.instrument_kept hj).1, (hi.instrument_kept hj).2]
        exact h.passed i j hown htarget
  case fresh =>
    rintro i (rfl | hown) hnone
    · rw [hnext]
      exact (hi.freshDestination_meter t).symm
    · have hhas := (h.known i hown).1
      by_cases hbind : i? = some i
      · rw [hi.instrument_bound hbind,
          Instrument.target?_bind (hbound i hbind).2.1] at hnone
        cases hnone
      · rw [hi.instrument_of_ne hhas hbind] at hnone ⊢
        rw [hi.freshDestination_meter]
        exact h.fresh i hown hnone

/-- What is pending when a meter of the family has a new instrument: that, if the meter is open, and
no longer the one that was bound. -/
theorem Progress.issued {w w' : Pending} (h : Progress Q own w s) (hi : s.Issued s' t request i?)
    (hknown : s.meters.Has t) (hown : ∀ i, own.instruments i → s.instruments.Has i)
    (hlisted : ∀ m, own.meters m → ∀ i ∈ (s.meter m).instruments, own.instruments i)
    (hbound : ∀ i, i? = some i → (s.instrument i).destination.isDeferred = true)
    (hmeters : w'.meters = w.meters) (hopened : w'.opened = w.opened)
    (hnodup : w'.instruments.Nodup)
    (hinner : ∀ i ∈ w'.instruments, i ∈ w.instruments ∧ i? ≠ some i ∨
      i = s.instruments.next ∧ w.opened.map Prod.fst = some t)
    (hrest : ∀ i ∈ w.instruments, i ∈ w'.instruments ∨ i? = some i)
    (hnew : (s.heir w.opened t).isSome = true → s.instruments.next ∈ w'.instruments) :
    Progress Q (own.addInstrument s.instruments.next) w' s' := by
  have hheir : ∀ m, s'.heir w'.opened m = s.heir w.opened m := by
    intro m
    rw [hopened]
    exact Store.heir_congr _ (hi.like_meter m).target
  constructor
  case nodup => exact hmeters ▸ h.nodup
  case left =>
    intro m hm
    rw [hheir]
    exact h.left m (hmeters ▸ hm)
  case opened =>
    intro m t' hm
    obtain ⟨hm, hnone⟩ := h.opened m t' (hopened ▸ hm)
    exact ⟨hm, (hi.like_meter m).target.trans hnone⟩
  case nodupInner => exact hnodup
  case inner =>
    intro i hmem
    rw [hopened]
    rcases hinner i hmem with ⟨hmem, hne⟩ | ⟨rfl, hopen⟩
    · obtain ⟨hi_own, hnone, hissuer⟩ := h.inner i hmem
      rw [hi.instrument_of_ne (hown i hi_own) hne]
      exact ⟨.inr hi_own, hnone, hissuer⟩
    · rw [hi.instrument_next]
      exact ⟨.inl rfl, Meter.target?_freshDestination _ _ _, hopen⟩
  case meters =>
    intro q hq hbound m hm
    rw [hi.target?_provider] at hbound
    rw [hi.issued_provider] at hm
    rw [hmeters, hheir]
    exact h.meters q hq hbound m hm
  case instruments =>
    intro m hm hsome i hmem
    rw [hheir] at hsome
    rcases (hi.mem_instruments m hknown i).1 hmem with hmem | ⟨rfl, _, rfl⟩
    · have hhas := hown i (hlisted m hm i hmem)
      -- what is bound now is pending no longer
      by_cases hbind : i? = some i
      · rw [hi.instrument_bound hbind, Instrument.target?_bind (hbound i hbind)]
        exact .inr rfl
      · rw [hi.instrument_of_ne hhas hbind]
        exact (h.instruments m hm hsome i hmem).imp_left
          fun hmem => (hrest i hmem).resolve_right hbind
    · exact .inl (hnew hsome)

end Issued

/-- Nothing below the open meter is pending any more, and its heir becomes its target. -/
theorem Progress.close {Q : ProviderRef → Prop} {s s' : Store} {own : Kin} {left : List MeterRef}
    {o : Option (MeterRef × MeterRef)} (h : Progress Q own ⟨left, o, []⟩ s)
    (hproviders : s'.providers = s.providers) (hinstruments : s'.instruments = s.instruments)
    (hheir : ∀ m, s'.heir none m = s.heir o m)
    (hlists : ∀ m, (s'.meter m).instruments = (s.meter m).instruments) :
    Progress Q own ⟨left, none, []⟩ s' where
  nodup := h.nodup
  left m hm := ⟨(h.left m hm).1, (hheir m).trans (h.left m hm).2⟩
  opened := nofun
  nodupInner := List.nodup_nil
  inner := by simp
  meters q hq hbound m hm := by
    rw [Store.provider, hproviders] at hbound hm
    rw [hheir]
    exact h.meters q hq hbound m hm
  instruments m hm hbound i hi := by
    rw [hheir] at hbound
    rw [hlists] at hi
    rw [Store.instrument, hinstruments]
    exact h.instruments m hm hbound i hi

/-! ## A provider is told its target -/

section BindTarget

variable {Q : ProviderRef → Prop} {s : Store} {d p : ProviderRef}

theorem Store.provider_bindTarget (hknown : s.providers.Has d) (q : ProviderRef) :
    (s.updateProvider d fun q => q.bind p).provider q =
      if q = d then (s.provider d).bind p else s.provider q := by
  by_cases hq : q = d
  · rw [hq, if_pos rfl]
    exact s.providers.get_update_self _ hknown
  · rw [if_neg hq]
    exact s.providers.get_update_of_ne _ (Ne.symm hq)

/-- A family stays one when one of its providers is told a target in it whose chain ends at another
provider. -/
theorem Household.bindTarget (h : Household Q s) (hd : Q d) (hp : Q p)
    (hdeferred : (s.provider d).isDeferred = true) (htarget : (s.provider d).target? = none)
    (hacyclic : s.providerEnd? p ≠ some d) :
    Household Q (s.updateProvider d fun q => q.bind p) := by
  have hrow := Store.provider_bindTarget (p := p) (h.known d hd)
  have hstep : ((s.updateProvider d fun q => q.bind p).provider d).target? = some p := by
    rw [hrow, if_pos rfl, Provider.target?_bind hdeferred]
  refine ⟨fun q hq => (Table.has_update _ _ _ _).2 (h.known q hq), ?_, ?_, ?_⟩
  · intro q t hq ht
    by_cases hqd : q = d
    · rw [hqd, hstep] at ht
      exact Option.some.inj ht ▸ hp
    · rw [hrow, if_neg hqd] at ht
      exact h.closed q t hq ht
  · intro q hq
    obtain ⟨e, he⟩ := h.ends q hq
    by_cases hed : e = d
    · -- the chain went to `d` and goes on from there now
      obtain ⟨e', he'⟩ := h.ends p hp
      have hon := Store.providerEnd?_bind htarget he' (fun heq => hacyclic (heq ▸ he')) p
      have hlead : s.HandsOn q d := hed ▸ (Store.providerEnd?_eq_some.1 he).1
      have hlater : Later s (s.updateProvider d fun q => q.bind p) :=
        .updateProvider (Provider.grows_bind htarget p)
      obtain ⟨hrest, hlast⟩ := Store.providerEnd?_eq_some.1 hon
      refine ⟨e', Store.providerEnd?_eq_some.2 ⟨?_, hlast⟩⟩
      exact ((Store.handsOn_later hlead hlater).tail hstep).trans hrest
    · exact ⟨e, Store.providerEnd?_bind htarget he hed p⟩
  · intro q hq n ask
    rw [hrow]
    by_cases hqd : q = d
    · rw [if_pos hqd]
      refine Provider.refusal_of_isDeferred ?_ n ask
      rw [Provider.isDeferred_of_freshBody (Provider.grows_bind htarget p).freshBody]
      exact hdeferred
    · rw [if_neg hqd]
      exact h.willing q hq n ask

end BindTarget

/-! ## The beginning -/

section Initial

variable {Q : ProviderRef → Prop} {s : Store} {K : Kin}

theorem Household.initial (hknown : ∀ q, Q q → s.providers.Has q)
    (htarget : ∀ q, Q q → (s.provider q).target? = none)
    (hwilling : ∀ q, Q q → ∀ n ask, (s.provider q).refusal n ask = none) : Household Q s where
  known := hknown
  closed q p hq hp := by
    rw [htarget q hq] at hp
    cases hp
  ends q hq := ⟨q, Store.providerEnd?_eq_some.2 (endsAt_self (htarget q hq))⟩
  willing := hwilling

/-- Meters without targets, each the only one of its line. -/
theorem MeterKin.initial (h : Sound s)
    (hmeters : ∀ m, K.meters m ↔ ∃ q, Q q ∧ m ∈ (s.provider q).issued)
    (htarget : ∀ m, K.meters m → (s.meter m).target? = none) :
    MeterKin Q s K.meters K none s where
  known m hm := by
    obtain ⟨q, hq, hmem⟩ := (hmeters m).1 hm
    obtain ⟨hhas, hissuer⟩ := h.tree.issued q m hmem
    exact ⟨hhas, q, hq, hissuer, fun _ => hmem⟩
  listed q hq m hm := (hmeters m).2 ⟨q, hq, hm⟩
  new m hm hnew := absurd hm hnew
  old m hm _ := by
    obtain ⟨q, _, hmem⟩ := (hmeters m).1 hm
    exact ⟨q, hmem⟩
  lines := .alone fun m hm => (s.heir_none m).trans (htarget m hm)

/-- Instruments of meters without targets, each the only one of its line. -/
theorem InstrumentKin.initial (h : Sound s) (htarget : ∀ m, K.meters m → (s.meter m).target? = none)
    (hinstruments : ∀ i, K.instruments i ↔ ∃ m, K.meters m ∧ i ∈ (s.meter m).instruments) :
    InstrumentKin s K.instruments K none s := by
  have hnone : ∀ i, K.instruments i → (s.instrument i).target? = none := by
    intro i hi
    obtain ⟨m, hm, hmem⟩ := (hinstruments i).1 hi
    exact h.instruments.waiting m i hmem (htarget m hm) (by simp)
  constructor
  case known =>
    intro i hi
    obtain ⟨m, hm, hmem⟩ := (hinstruments i).1 hi
    obtain ⟨hhas, hissuer, _⟩ := h.instruments.issued m i hmem
    rw [show (s.instrument i).issuer = m from hissuer]
    exact ⟨hhas, hm, fun _ => hmem⟩
  case listed => exact fun m hm i hi => (hinstruments i).2 ⟨m, hm, hi⟩
  case new => exact fun i hi hnew => absurd hi hnew
  case old =>
    intro i hi _
    obtain ⟨m, _, hmem⟩ := (hinstruments i).1 hi
    exact ⟨m, hmem⟩
  case lines => exact .alone hnone
  case passed =>
    intro i j hi hj
    rw [hnone i hi] at hj
    cases hj
  case fresh =>
    intro i hi hfree
    obtain ⟨m, hm, hmem⟩ := (hinstruments i).1 hi
    obtain ⟨_, hissuer, hdeferred⟩ := h.instruments.issued m i hmem
    rw [show (s.instrument i).issuer = m from hissuer]
    exact Instrument.destination_eq_fresh hdeferred hfree (Meter.isDeferred_of_instruments hmem)

/-- Where nobody has a target, no binding has begun. -/
theorem Progress.initial (hproviders : ∀ q, Q q → (s.provider q).target? = none)
    (hmeters : ∀ m, K.meters m → (s.meter m).target? = none) : Progress Q K .nothing s where
  nodup := List.nodup_nil
  left := nofun
  opened := nofun
  nodupInner := List.nodup_nil
  inner := nofun
  meters q hq hbound := by
    rw [hproviders q hq] at hbound
    cases hbound
  instruments m hm hbound := by
    rw [show s.heir Pending.nothing.opened m = none from (s.heir_none m).trans (hmeters m hm)]
      at hbound
    cases hbound

end Initial

namespace Pending

variable (w : Pending) (m : MeterRef) (i : InstrumentRef)

theorem meters_meet : (w.meet m i).meters = w.meters := by
  unfold meet
  split <;> rfl

theorem opened_meet : (w.meet m i).opened = w.opened := by
  unfold meet
  split <;> rfl

theorem meet_of_open (h : w.opened.map Prod.fst = some m) :
    (w.meet m i).instruments = w.instruments ++ [i] := by
  rw [meet, if_pos h]

theorem meet_of_closed (h : w.opened.map Prod.fst ≠ some m) : w.meet m i = w := if_neg h

@[simp] theorem nothing_meet : nothing.meet m i = nothing :=
  nothing.meet_of_closed m i (Option.some_ne_none m).symm

theorem mem_meet (j : InstrumentRef) : j ∈ (w.meet m i).instruments ↔
    j ∈ w.instruments ∨ j = i ∧ w.opened.map Prod.fst = some m := by
  by_cases hopen : w.opened.map Prod.fst = some m
  · simp [w.meet_of_open m i hopen, hopen]
  · simp [w.meet_of_closed m i hopen, hopen]

theorem nodup_meet (h : w.instruments.Nodup) (hi : i ∉ w.instruments) :
    (w.meet m i).instruments.Nodup := by
  unfold meet
  split
  · exact List.concat_eq_append ▸ h.concat hi
  · exact h

end Pending

namespace Lineage

variable {Q : ProviderRef → Prop} {start s : Store} {held own : Kin} {w : Pending}
  {m t : MeterRef} {request : Request}

theorem has_meter (h : Lineage Q start held own w s) (hm : own.meters m) : s.meters.Has m :=
  (h.meters.known m hm).1

theorem has_instrument (h : Lineage Q start held own w s) {i : InstrumentRef}
    (hi : own.instruments i) : s.instruments.Has i :=
  (h.instruments.known i hi).1

theorem not_own_next_instrument (h : Lineage Q start held own w s) :
    ¬ own.instruments s.instruments.next :=
  fun hi => Table.ne_next_of_has (h.has_instrument hi) rfl

/-- A meter is deferred if its provider is. -/
theorem isDeferred_meter (h : Lineage Q start held own w s) {p : ProviderRef}
    (hissuer : (s.meter t).issuer = some p) :
    (s.meter t).body.isDeferred = (s.provider p).isDeferred :=
  Provider.isDeferred_of_fits (h.sound.tree.fits t p hissuer).2

/-- A meter that has a target will have no other. -/
theorem heir_of_target (h : Lineage Q start held own w s) (htarget : (s.meter m).target? = some t) :
    s.heir w.opened m = some t := by
  refine (if_neg fun hopen => ?_).trans htarget
  obtain ⟨⟨m', t'⟩, hopened, rfl⟩ := Option.map_eq_some_iff.1 hopen
  rw [(h.progress.opened _ t' hopened).2] at htarget
  cases htarget

/-- What a meter of the family leads to is of the family. -/
theorem own_of_leads (h : Lineage Q start held own w s) (hm : own.meters m)
    (hlead : Leads (fun x => (s.meter x).target?) m t) : own.meters t := by
  induction hlead with
  | refl => exact hm
  | tail _ hnext ih => exact h.meters.lines.closed _ _ ih (h.heir_of_target hnext)

theorem own_end (h : Lineage Q start held own w s) (hm : own.meters m)
    (ht : s.meterEnd? m = some t) : own.meters t :=
  h.own_of_leads hm (Store.meterEnd?_eq_some.1 ht).1

/-- A meter of the family answers what it is asked for. -/
theorem instrumentAnswer (h : Lineage Q start held own w s) (ht : own.meters t)
    (request : Request) :
    ∃ e, (s.meter t).issuer = some e ∧
      s.instrumentAnswer t request = .ok s.instruments.next := by
  obtain ⟨_, e, he, hissuer, _⟩ := h.meters.known t ht
  refine ⟨e, hissuer, ?_⟩
  rw [Store.instrumentAnswer, Store.instrumentRefusal, hissuer, Option.bind_some,
    h.providers.willing e he]

/-- A caller is given an instrument of the end of a chain. -/
theorem askInstrument (h : Lineage Q start held own w s) (hm : own.meters m)
    (ht : s.meterEnd? m = some t) (request : Request) :
    Lineage Q start (held.addInstrument s.instruments.next)
      (own.addInstrument s.instruments.next) (w.meet t s.instruments.next)
      (s.askInstrument m t request) := by
  have htown := h.own_end hm ht
  have htknown := h.has_meter htown
  have hend := (Store.meterEnd?_eq_some.1 ht).2
  obtain ⟨e, hissuer, hanswer⟩ := h.instrumentAnswer htown request
  have hi := Store.issued_askInstrument m hissuer hanswer
  have hlines : Lines (fun i => ((s.askInstrument m t request).instrument i).target?)
      (held.addInstrument s.instruments.next).instruments
      (own.addInstrument s.instruments.next).instruments :=
    h.instruments.lines.begin h.not_own_next_instrument
      (fun i hown => by rw [hi.instrument_of_ne (h.has_instrument hown) (by simp)])
      (by rw [hi.instrument_next]; exact Meter.target?_freshDestination _ _ _)
  have hopened := w.opened_meet t s.instruments.next
  constructor
  case sound =>
    rw [hopened]
    exact h.sound.askInstrument m t request
  case later => exact h.later.trans (.askInstrument s m t request)
  case books => exact h.books.issued h.later htknown hi
  case providers => exact h.providers.issued hi
  case meters =>
    rw [hopened]
    exact h.meters.issued hi _
  case instruments =>
    rw [hopened]
    exact h.instruments.issued h.later hi htown htknown (by simp) hlines
  case progress =>
    have hfresh : s.instruments.next ∉ w.instruments :=
      fun hmem => h.not_own_next_instrument (h.progress.inner _ hmem).1
    refine h.progress.issued hi htknown (fun i => h.has_instrument) h.instruments.listed (by simp)
      (w.meters_meet _ _) hopened (w.nodup_meet _ _ h.progress.nodupInner hfresh) (fun i hmem => ?_)
      (fun i hmem => .inl ((w.mem_meet _ _ i).2 (.inl hmem))) fun hsome => ?_
    · exact ((w.mem_meet _ _ i).1 hmem).imp_left fun hmem => ⟨hmem, by simp⟩
    · -- a caller may get an instrument of the open meter before the binding has come to those
      refine (w.mem_meet _ _ _).2 (.inr ⟨rfl, by_contra fun hopen => ?_⟩)
      rw [Store.heir, if_neg hopen, show (s.meter t).target? = none from hend] at hsome
      cases hsome

/-- The meter that is open waits for a target. -/
theorem deferred_of_opened (h : Lineage Q start held own w s) (hopened : w.opened = some (m, t)) :
    (s.meter m).body.isDeferred = true := by
  obtain ⟨d, p, _, _, _, hd, hp, _⟩ := (h.sound.bindings.made m t (.inr hopened)).history
  exact (h.isDeferred_meter hd).trans (Provider.isDeferred_of_target hp)

/-- The next instrument of the open meter is bound to a new one of the meter that the open meter
will be bound to. -/
theorem tryInstrument {left : List MeterRef} {i : InstrumentRef} {inner : List InstrumentRef}
    (h : Lineage Q start held own ⟨left, some (m, t), i :: inner⟩ s)
    (htarget : (s.meter t).target? = none) :
    Lineage Q start held (own.addInstrument s.instruments.next) ⟨left, some (m, t), inner⟩
      (s.tryInstrument t i) := by
  obtain ⟨hown, hnone, hissuer⟩ := h.progress.inner i List.mem_cons_self
  obtain rfl : m = (s.instrument i).issuer := Option.some.inj hissuer
  obtain ⟨hmown, _⟩ := h.progress.opened _ t rfl
  have hheir : s.heir (some ((s.instrument i).issuer, t)) (s.instrument i).issuer = some t :=
    if_pos rfl
  have htown := h.meters.lines.closed _ t hmown hheir
  have htknown := h.has_meter htown
  -- the new instrument belongs to the meter `t`, which is not the open one
  have hmt : (s.instrument i).issuer ≠ t := by
    intro heq
    have horder := h.meters.lines.order _ t hmown hheir
    rw [heq] at horder
    exact Nat.lt_irrefl _ horder
  have hwaits : s.InstrumentWaits i := by
    refine ⟨h.has_instrument hown, ?_⟩
    rw [h.instruments.fresh i hown hnone, Meter.freshDestination]
    have hdeferred := h.deferred_of_opened rfl
    cases hbody : (s.meter (s.instrument i).issuer).body <;> simp_all [MeterBody.isDeferred]
  have hdeferred : (s.instrument i).destination.isDeferred = true := by
    rw [hwaits.waiting]
    rfl
  obtain ⟨e, hte, hanswer⟩ := h.instrumentAnswer htown (s.instrument i).request
  have hi := Store.issued_tryInstrument hwaits hte hanswer
  have hlines : Lines (fun k => ((s.tryInstrument t i).instrument k).target?) held.instruments
      (own.addInstrument s.instruments.next).instruments :=
    h.instruments.lines.extend h.not_own_next_instrument hown hnone hwaits.known
      (fun k hk hne => by
        rw [hi.instrument_of_ne (h.has_instrument hk) fun heq => hne (Option.some.inj heq).symm])
      (by rw [hi.instrument_bound rfl, Instrument.target?_bind hdeferred])
      (by rw [hi.instrument_next]; exact Meter.target?_freshDestination _ _ _)
  obtain ⟨hnotin, hnodup⟩ := List.nodup_cons.1 h.progress.nodupInner
  refine ⟨h.sound.tryInstrument t hwaits.known rfl, h.later.trans (.tryInstrument s t i),
    h.books.issued h.later htknown hi, h.providers.issued hi, h.meters.issued hi _, ?_, ?_⟩
  · refine h.instruments.issued h.later hi htown htknown (fun k hk => ?_) hlines
    obtain rfl := Option.some.inj hk
    exact ⟨hnone, hdeferred, hheir, rfl⟩
  · refine h.progress.issued hi htknown (fun k => h.has_instrument) h.instruments.listed
      (fun k hk => Option.some.inj hk ▸ hdeferred) rfl rfl hnodup (fun k hk => ?_) (fun k hk => ?_)
      fun hsome => ?_
    · refine .inl ⟨List.mem_cons_of_mem _ hk, fun heq => hnotin ?_⟩
      exact Option.some.inj heq ▸ hk
    · exact (List.mem_cons.1 hk).symm.imp_right fun heq => congrArg some heq.symm
    · have hfree : s.heir (some ((s.instrument i).issuer, t)) t = none :=
        (if_neg fun heq => hmt (Option.some.inj heq)).trans htarget
      rw [show s.heir _ t = none from hfree] at hsome
      cases hsome

/-- The open meter gets its target when all its instruments are bound. -/
theorem closeMeter {left : List MeterRef} (h : Lineage Q start held own ⟨left, some (m, t), []⟩ s) :
    Lineage Q start held own ⟨left, none, []⟩ (s.updateMeter m fun x => x.bind t) := by
  obtain ⟨hmown, hnone⟩ := h.progress.opened m t rfl
  have hdeferred := h.deferred_of_opened rfl
  have hself : (s.updateMeter m fun x => x.bind t).meter m = (s.meter m).bind t :=
    Table.get_update_self _ _ (h.has_meter hmown)
  have hother : ∀ k, k ≠ m → (s.updateMeter m fun x => x.bind t).meter k = s.meter k :=
    fun k hk => Table.get_update_of_ne _ _ (Ne.symm hk)
  -- who hands on to whom has been settled when the meter was opened
  have hheir : ∀ k, (s.updateMeter m fun x => x.bind t).heir none k = s.heir (some (m, t)) k := by
    intro k
    rw [Store.heir_none]
    by_cases hk : k = m
    · rw [hk, hself, SoundBut.target?_bindMeter hdeferred]
      exact (if_pos rfl).symm
    · rw [hother k hk]
      exact (if_neg fun heq => hk (Option.some.inj heq).symm).symm
  have hrow : ∀ k, ((s.updateMeter m fun x => x.bind t).meter k).issuer = (s.meter k).issuer ∧
      ((s.updateMeter m fun x => x.bind t).meter k).instruments = (s.meter k).instruments ∧
      ((s.updateMeter m fun x => x.bind t).meter k).body.isDeferred =
        (s.meter k).body.isDeferred ∧
      ((s.updateMeter m fun x => x.bind t).meter k).freshDestination =
        (s.meter k).freshDestination ∧
      ((s.updateMeter m fun x => x.bind t).meter k).log.created = (s.meter k).log.created := by
    intro k
    by_cases hk : k = m
    · rw [hk, hself]
      refine ⟨(Meter.grows_bind hnone t).issuer, SoundBut.instruments_bindMeter _ _,
        SoundBut.isDeferred_bindMeter _ _, ?_, ?_⟩ <;>
      cases hbody : (s.meter m).body <;>
      simp [Meter.bind, hbody, Meter.freshDestination, Meter.log]
    · rw [hother k hk]
      exact ⟨rfl, rfl, rfl, rfl, rfl⟩
  have hhas : ∀ k, (s.updateMeter m fun x => x.bind t).meters.Has k ↔ s.meters.Has k :=
    fun k => Table.has_update _ _ _ _
  have hbooks : start.Books (s.updateMeter m fun x => x.bind t) := h.books.congr
    (fun _ => ⟨rfl, fun _ => rfl⟩) hhas
    (fun k => ⟨(hrow k).1, (hrow k).2.2.2.1, (hrow k).2.2.2.2⟩) rfl
  exact {
    sound := h.sound.closeMeter hnone hdeferred
    later := h.later.trans (.updateMeter (Meter.grows_bind hnone t))
    books := hbooks
    providers := ⟨h.providers.known, h.providers.closed, h.providers.ends, h.providers.willing⟩
    meters := h.meters.congr (fun _ => rfl) (fun _ => rfl) hhas (fun k => (hrow k).1)
      fun k _ => hheir k
    instruments := h.instruments.congr (fun k => h.has_meter) rfl rfl (fun _ hk => hk)
      (fun _ hk => .inl hk) (fun k _ => ⟨(hrow k).2.1, (hrow k).2.2.1, (hrow k).2.2.2.1⟩)
      fun k _ _ ht' => (hheir k).trans ht'
    progress := h.progress.close rfl rfl hheir fun k => (hrow k).2.1 }

/-- A deferred provider of the family is told its target, which is of the family too. -/
theorem bindTarget {d p : ProviderRef} (h : Lineage Q start held own .nothing s) (hd : Q d)
    (hp : Q p) (hdeferred : (s.provider d).isDeferred = true)
    (htarget : (s.provider d).target? = none) (hacyclic : s.providerEnd? p ≠ some d) :
    Lineage Q start held own ⟨(s.provider d).issued, none, []⟩
      (s.updateProvider d fun q => q.bind p) := by
  have hsound : Sound s := h.sound
  have hrow := Store.provider_bindTarget (p := p) (h.providers.known d hd)
  have hbody := (Provider.grows_bind htarget p).freshBody
  have hkept : ∀ q, ((s.updateProvider d fun q => q.bind p).provider q).isDeferred =
        (s.provider q).isDeferred ∧
      ((s.updateProvider d fun q => q.bind p).provider q).issued = (s.provider q).issued := by
    intro q
    rw [hrow]
    by_cases hq : q = d
    · rw [if_pos hq, hq]
      exact ⟨Provider.isDeferred_of_freshBody hbody, Provider.issued_bind _ _⟩
    · rw [if_neg hq]
      exact ⟨rfl, rfl⟩
  have hbooks : start.Books (s.updateProvider d fun q => q.bind p) := by
    refine h.books.congr (fun q => ?_) (fun _ => .rfl) (fun _ => ⟨rfl, rfl, rfl⟩) rfl
    rw [hrow]
    by_cases hq : q = d
    · -- a deferred provider keeps no book
      rw [if_pos hq, hq]
      refine ⟨Provider.isRecording_of_freshBody hbody, fun hrecording => ?_⟩
      rw [Provider.isDeferred_of_isRecording hrecording] at hdeferred
      cases hdeferred
    · rw [if_neg hq]
      exact ⟨rfl, fun _ => rfl⟩
  refine ⟨hsound.bindTarget (h.providers.known p hp) htarget,
    h.later.trans (.updateProvider (Provider.grows_bind htarget p)), hbooks,
    h.providers.bindTarget hd hp hdeferred htarget hacyclic, ?_, ?_, ?_⟩
  · exact h.meters.congr (fun q => (hkept q).1) (fun q => (hkept q).2) (fun _ => .rfl)
      (fun _ => rfl) fun _ _ => rfl
  · exact ⟨h.instruments.known, h.instruments.listed, h.instruments.new, h.instruments.old,
      h.instruments.lines, h.instruments.passed, h.instruments.fresh⟩
  · refine ⟨hsound.tree.nodup d, ?_, ?_, List.nodup_nil, by simp, ?_, h.progress.instruments⟩
    · intro m hm
      refine ⟨h.meters.listed d hd m hm, (Store.heir_none _ m).trans ?_⟩
      exact hsound.tree.waiting d m hm htarget
    · intro m t hopened
      cases hopened
    · intro q hq hbound m hm
      -- everything below `d` is to be bound now, and nothing was pending below the others
      rw [(hkept q).2] at hm
      by_cases hqd : q = d
      · exact .inl (hqd ▸ hm)
      · rw [hrow, if_neg hqd] at hbound
        exact .inr ((h.progress.meters q hq hbound m hm).resolve_left List.not_mem_nil)

/-- The family of some providers that wait for their targets or will never have one: everything
below them is held by callers. -/
theorem initial (h : Sound s) (hknown : ∀ q, Q q → s.providers.Has q)
    (htarget : ∀ q, Q q → (s.provider q).target? = none)
    (hwilling : ∀ q, Q q → ∀ n ask, (s.provider q).refusal n ask = none) {K : Kin}
    (hmeters : ∀ m, K.meters m ↔ ∃ q, Q q ∧ m ∈ (s.provider q).issued)
    (hinstruments : ∀ i, K.instruments i ↔ ∃ m, K.meters m ∧ i ∈ (s.meter m).instruments) :
    Lineage Q s K K .nothing s := by
  have hmeter : ∀ m, K.meters m → (s.meter m).target? = none := by
    intro m hm
    obtain ⟨q, hq, hmem⟩ := (hmeters m).1 hm
    exact h.tree.waiting q m hmem (htarget q hq)
  exact ⟨h, .refl s, .refl s, .initial hknown htarget hwilling, .initial h hmeters hmeter,
    .initial h hmeter hinstruments, .initial htarget hmeter⟩

/-! ## Chains -/

/-- The chain of a meter of the family has an end. -/
theorem exists_meterEnd (h : Lineage Q start held own w s) (hm : own.meters m) :
    ∃ t, s.meterEnd? m = some t := by
  obtain ⟨e, _, hends⟩ := h.meters.lines.exists_end (fun x hx => h.has_meter hx) hm
  obtain ⟨t, ht⟩ : ∃ t, EndsAt (fun x => (s.meter x).target?) m t := ends_of_later
    (fun x y hxy => h.heir_of_target hxy) ⟨e, hends⟩
  exact ⟨t, Store.meterEnd?_eq_some.2 ht⟩

/-- The chain of an instrument of the family has an end, which is of the family. -/
theorem exists_instrumentEnd (h : Lineage Q start held own w s) {i : InstrumentRef}
    (hi : own.instruments i) : ∃ j, s.instrumentEnd? i = some j ∧ own.instruments j := by
  obtain ⟨j, hj, hends⟩ := h.instruments.lines.exists_end (fun x hx => h.has_instrument hx) hi
  exact ⟨j, Store.instrumentEnd?_eq_some.2 hends, hj⟩

/-- What an instrument of the family leads to is of the family, and was asked for by the same
request. -/
theorem leads_request (h : Lineage Q start held own w s) {i j : InstrumentRef}
    (hi : own.instruments i) (hlead : Leads (fun x => (s.instrument x).target?) i j) :
    own.instruments j ∧ (s.instrument j).request = (s.instrument i).request := by
  induction hlead with
  | refl => exact ⟨hi, rfl⟩
  | tail _ hnext ih =>
      obtain ⟨hown, hrequest⟩ := ih
      obtain ⟨_, hrequest'⟩ := h.instruments.passed _ _ hown hnext
      exact ⟨h.instruments.lines.closed _ _ hown hnext, hrequest'.trans hrequest⟩

/-- One instrument that callers hold leads to the end of a chain. -/
theorem head_of_instrument (h : Lineage Q start held own w s) {j : InstrumentRef}
    (hj : own.instruments j) (hend : (s.instrument j).target? = none) :
    ∃! i, held.instruments i ∧ s.instrumentEnd? i = some j := by
  obtain ⟨i, ⟨hi, hends⟩, hunique⟩ := h.instruments.lines.existsUnique_head hj hend
  refine ⟨i, ⟨hi, Store.instrumentEnd?_eq_some.2 hends⟩, fun k hk => ?_⟩
  exact hunique k ⟨hk.1, Store.instrumentEnd?_eq_some.1 hk.2⟩

/-- A meter of the family that is not deferred is new. -/
theorem new_meter (h : Lineage Q start held own w s) (hstart : Sound start) (hm : own.meters m)
    {q : ProviderRef} (hissuer : (s.meter m).issuer = some q)
    (hq : (s.provider q).isDeferred = false) : ¬ start.meters.Has m := by
  intro hold
  obtain ⟨d, hd⟩ := h.meters.old m hm hold
  have hdeferred : (start.provider d).isDeferred = true := Provider.isDeferred_of_issued hd
  obtain ⟨_, hissued⟩ := hstart.tree.issued d m hd
  have hdq : some d = some q := by
    rw [← hissuer, (h.later.meter hold).issuer]
    exact hissued.symm
  obtain rfl := Option.some.inj hdq
  have hgrows := h.later.provider (hstart.tree.fits m d hissued).1
  rw [Provider.isDeferred_of_freshBody hgrows.freshBody, hdeferred] at hq
  cases hq

/-- An instrument of the family of a meter that is not deferred is new. -/
theorem new_instrument (h : Lineage Q start held own w s) (hstart : Sound start)
    {j : InstrumentRef} (hj : own.instruments j) {q : ProviderRef}
    (hissuer : (s.meter (s.instrument j).issuer).issuer = some q)
    (hq : (s.provider q).isDeferred = false) : ¬ start.instruments.Has j := by
  intro hold
  obtain ⟨m, hm⟩ := h.instruments.old j hj hold
  have hjm : (s.instrument j).issuer = m := by
    rw [(h.later.instrument hold).issuer]
    exact (hstart.instruments.issued m j hm).2.1
  -- a meter with instruments is deferred, and so is its issuer
  have hdeferred : (start.meter m).body.isDeferred = true := Meter.isDeferred_of_instruments hm
  obtain ⟨d, hd⟩ : ∃ d, (start.meter m).issuer = some d := by
    cases hd : (start.meter m).issuer with
    | some d => exact ⟨d, rfl⟩
    | none =>
        rw [show (start.meter m).body.isDeferred = false from hstart.tree.alone m hd] at hdeferred
        cases hdeferred
  have hknown : start.meters.Has m := Store.has_of_meterIssuer hd
  obtain ⟨hdknown, hfits⟩ := hstart.tree.fits m d hd
  have hdq : some d = some q := by
    rw [← hissuer, hjm, (h.later.meter hknown).issuer]
    exact hd.symm
  obtain rfl := Option.some.inj hdq
  rw [Provider.isDeferred_of_freshBody (h.later.provider hdknown).freshBody] at hq
  rw [show (start.meter m).body.isDeferred = (start.provider d).isDeferred from
    Provider.isDeferred_of_fits hfits, hq] at hdeferred
  cases hdeferred

/-! ## When nothing is pending -/

/-- One meter that callers hold leads to the end of a chain. -/
theorem head_of_meter (h : Lineage Q start held own .nothing s) (hm : own.meters t)
    (hend : (s.meter t).target? = none) : ∃! m, held.meters m ∧ s.meterEnd? m = some t := by
  have hlines : Lines (fun x => (s.meter x).target?) held.meters own.meters :=
    h.meters.lines.congr fun x _ => (s.heir_none x).symm
  obtain ⟨m, ⟨hm, hends⟩, hunique⟩ := hlines.existsUnique_head hm hend
  refine ⟨m, ⟨hm, Store.meterEnd?_eq_some.2 hends⟩, fun k hk => ?_⟩
  exact hunique k ⟨hk.1, Store.meterEnd?_eq_some.1 hk.2⟩

/-- A meter of the family that has a target is bound to one of the same scope, which a provider has
issued that the provider of the meter hands on to. -/
theorem bound_meter (h : Lineage Q start held own w s) (hm : own.meters m)
    (htarget : (s.meter m).target? = some t) :
    own.meters t ∧ (s.meter t).scope = (s.meter m).scope ∧
      ∃ q q', Q q ∧ (s.meter m).issuer = some q ∧ (s.meter t).issuer = some q' ∧
        s.HandsOn q q' := by
  have hmade := h.sound.bindings.made m t (.inl htarget)
  obtain ⟨d, p, e, _, _, hd, hp, he, hlead, _⟩ := hmade.history
  obtain ⟨_, q, hq, hmq, _⟩ := h.meters.known m hm
  obtain rfl : q = d := Option.some.inj (hmq.symm.trans hd)
  have htown := h.meters.lines.closed m t hm (h.heir_of_target htarget)
  exact ⟨htown, hmade.scope, q, e, hq, hd, he, .head hp hlead⟩

/-- A meter of the family that has no target was issued by the end of a chain. -/
theorem end_of_unbound (h : Lineage Q start held own .nothing s) (hm : own.meters m)
    (hnone : (s.meter m).target? = none) {q : ProviderRef} (hq : Q q)
    (hissuer : (s.meter m).issuer = some q) : (s.provider q).target? = none := by
  cases htarget : (s.provider q).target? with
  | none => rfl
  | some p =>
      obtain ⟨_, q', _, hmq, hlisted⟩ := h.meters.known m hm
      obtain rfl : q' = q := Option.some.inj (hmq.symm.trans hissuer)
      have hbound := (h.progress.meters q' hq (by rw [htarget]; rfl) m
        (hlisted (Provider.isDeferred_of_target htarget))).resolve_left List.not_mem_nil
      have hfree : s.heir Pending.nothing.opened m = none := (s.heir_none m).trans hnone
      rw [hfree] at hbound
      cases hbound

/-- What a meter of the family leads to is of the same scope, and issued by a provider that the
provider of the meter hands on to. -/
theorem leads_meter (h : Lineage Q start held own w s) (hm : own.meters m) {q : ProviderRef}
    (hissuer : (s.meter m).issuer = some q)
    (hlead : Leads (fun x => (s.meter x).target?) m t) :
    own.meters t ∧ (s.meter t).scope = (s.meter m).scope ∧
      ∃ q', (s.meter t).issuer = some q' ∧ s.HandsOn q q' := by
  induction hlead with
  | refl => exact ⟨hm, rfl, q, hissuer, .refl⟩
  | tail _ hnext ih =>
      obtain ⟨hown, hscope, q', hq', hlead⟩ := ih
      obtain ⟨hown', hscope', q₁, q₂, _, hq₁, hq₂, hon⟩ := h.bound_meter hown hnext
      obtain rfl : q₁ = q' := Option.some.inj (hq₁.symm.trans hq')
      exact ⟨hown', hscope'.trans hscope, q₂, hq₂, hlead.trans hon⟩

/-- Every meter of the family leads to one of the same scope that the end of the chain of its
provider has issued. -/
theorem meter_end (h : Lineage Q start held own .nothing s) (hm : own.meters m) :
    ∃ t q e, s.meterEnd? m = some t ∧ own.meters t ∧ (s.meter t).scope = (s.meter m).scope ∧
      Q q ∧ (s.meter m).issuer = some q ∧ s.providerEnd? q = some e ∧
      (s.meter t).issuer = some e := by
  have hlines : Lines (fun x => (s.meter x).target?) held.meters own.meters :=
    h.meters.lines.congr fun x _ => (s.heir_none x).symm
  obtain ⟨t, _, hends⟩ := hlines.exists_end (fun x hx => h.has_meter hx) hm
  obtain ⟨_, q, hq, hissuer, _⟩ := h.meters.known m hm
  obtain ⟨htown, hscope, e, he, hlead⟩ := h.leads_meter hm hissuer hends.1
  have hend := h.end_of_unbound htown hends.2 (h.providers.leads hq hlead) he
  exact ⟨t, q, e, Store.meterEnd?_eq_some.2 hends, htown, hscope, hq, hissuer,
    Store.providerEnd?_eq_some.2 ⟨hlead, hend⟩, he⟩

/-- What an instrument of the family leads to was issued by a meter that the meter of the instrument
leads to. -/
theorem leads_instrument (h : Lineage Q start held own .nothing s) {i j : InstrumentRef}
    (hi : own.instruments i) (hlead : Leads (fun x => (s.instrument x).target?) i j) :
    Leads (fun x => (s.meter x).target?) (s.instrument i).issuer (s.instrument j).issuer := by
  induction hlead with
  | refl => exact .refl
  | tail hlead hnext ih =>
      obtain ⟨hpassed, _⟩ := h.instruments.passed _ _ (h.leads_request hi hlead).1 hnext
      exact ih.tail ((s.heir_none _).symm.trans hpassed)

/-- Every instrument of the family leads to one of the same request that the end of the chain of its
meter has issued. -/
theorem instrument_end (h : Lineage Q start held own .nothing s) {i : InstrumentRef}
    (hi : own.instruments i) :
    ∃ j, s.instrumentEnd? i = some j ∧ own.instruments j ∧
      (s.instrument j).request = (s.instrument i).request ∧
      s.meterEnd? (s.instrument i).issuer = some (s.instrument j).issuer ∧
      (s.instrument j).destination = (s.meter (s.instrument j).issuer).freshDestination := by
  obtain ⟨j, _, hends⟩ :=
    h.instruments.lines.exists_end (fun x hx => h.has_instrument hx) hi
  obtain ⟨hjown, hrequest⟩ := h.leads_request hi hends.1
  have hlead := h.leads_instrument hi hends.1
  obtain ⟨hjknown, hjissuer, hlisted⟩ := h.instruments.known j hjown
  have hfresh := h.instruments.fresh j hjown hends.2
  have hend : (s.meter (s.instrument j).issuer).target? = none := by
    cases htarget : (s.meter (s.instrument j).issuer).target? with
    | none => rfl
    | some t =>
        have hbound := h.progress.instruments _ hjissuer
          (by rw [h.heir_of_target htarget]; rfl) j (hlisted (Meter.isDeferred_of_target htarget))
        rw [show (s.instrument j).target? = none from hends.2] at hbound
        exact absurd (hbound.resolve_left List.not_mem_nil) (by simp)
  exact ⟨j, Store.instrumentEnd?_eq_some.2 hends, hjown, hrequest,
    Store.meterEnd?_eq_some.2 ⟨hlead, hend⟩, hfresh⟩

/-- An instrument that was got from the meter `m` leads to one of the meter that `m` leads to. -/
theorem instrument_end_of_leads (h : Lineage Q start held own .nothing s) {i : InstrumentRef}
    (hi : own.instruments i) {m : MeterRef}
    (hlead : Leads (fun x => (s.meter x).target?) m (s.instrument i).issuer) :
    ∃ j, s.instrumentEnd? i = some j ∧ own.instruments j ∧
      (s.instrument j).request = (s.instrument i).request ∧
      s.meterEnd? m = some (s.instrument j).issuer := by
  obtain ⟨j, hj, hjown, hrequest, hissuer, _⟩ := h.instrument_end hi
  obtain ⟨hlead', hlast⟩ := Store.meterEnd?_eq_some.1 hissuer
  exact ⟨j, hj, hjown, hrequest, Store.meterEnd?_eq_some.2 ⟨hlead.trans hlead', hlast⟩⟩

end Lineage

end DeferredMetrics
