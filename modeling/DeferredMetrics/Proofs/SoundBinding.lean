import DeferredMetrics.Proofs.SoundSteps
import DeferredMetrics.Proofs.Upgrade

set_option autoImplicit false

/-! # Binding keeps stores sound

The steps of a binding in their order: a deferred provider is told its target, each of its meters
is opened, the instruments of the open meter are bound, and the meter is closed.
`Sound.bindProvider` puts them together. -/

namespace DeferredMetrics

/-- A deferred instrument without a target waits for one. -/
theorem Instrument.destination_of_waiting {i : Instrument}
    (hdeferred : i.destination.isDeferred = true) (hnone : i.target? = none) :
    i.destination = .deferred none := by
  unfold target? at hnone
  cases hi : i.destination <;> simp_all [Destination.isDeferred]

namespace SoundBut

variable {o : Option (MeterRef × MeterRef)} {s : Store}

/-! ## The instruments of an open meter -/

theorem log (h : SoundBut o s) (m : Message) : SoundBut o (s.log m) := h.see (.log m)

theorem isDeferred_bind (i : Instrument) (j : InstrumentRef) :
    (i.bind j).destination.isDeferred = i.destination.isDeferred := by
  unfold Instrument.bind
  split
  · rename_i hi
    rw [hi]
    rfl
  · rfl

theorem issuer_bind (i : Instrument) (j : InstrumentRef) : (i.bind j).issuer = i.issuer := by
  unfold Instrument.bind
  split <;> rfl

/-- An instrument of the open meter may be bound. -/
theorem bindInstrument (h : SoundBut o s) {i : InstrumentRef} (j : InstrumentRef)
    (hopen : o.map Prod.fst = some (s.instrument i).issuer) :
    SoundBut o (s.bindInstrument i j) := by
  have hlater := Later.bindInstrument s i j
  unfold Store.bindInstrument at hlater ⊢
  split
  · exact h.log _
  · rename_i hnone
    rw [if_neg hnone] at hlater
    refine ⟨h.tree, ⟨h.instruments.nodup, ?_, ?_⟩, ?_, h.owners, h.names.later hlater rfl⟩
    · intro m i' hmem
      obtain ⟨hhas, hissuer, hdeferred⟩ := h.instruments.issued m i' hmem
      show (s.instruments.update i fun x => x.bind j).Has i' ∧
        ((s.instruments.update i fun x => x.bind j).get i').issuer = m ∧
        ((s.instruments.update i fun x => x.bind j).get i').destination.isDeferred = true
      rw [Table.has_update, Table.get_update]
      refine ⟨hhas, ?_⟩
      split
      · rw [issuer_bind, isDeferred_bind]
        exact ⟨hissuer, hdeferred⟩
      · exact ⟨hissuer, hdeferred⟩
    · intro m i' hmem htarget hnot
      show ((s.instruments.update i fun x => x.bind j).get i').target? = none
      rw [Table.get_update]
      split
      · rename_i heq
        -- the instrument stands under the open meter only
        rw [heq.1] at hmem
        rw [hopen, Store.instrument, (h.instruments.issued m i hmem).2.1] at hnot
        exact absurd rfl hnot
      · exact h.instruments.waiting m i' hmem htarget hnot
    · exact h.bindings.later hlater (fun _ => rfl) (fun _ => rfl)
        ⟨[], (List.append_nil _).symm, by simp⟩

theorem tryInstrument (h : SoundBut o s) (t : MeterRef) {i : InstrumentRef}
    (hknown : s.instruments.Has i) (hopen : o.map Prod.fst = some (s.instrument i).issuer) :
    SoundBut o (s.tryInstrument t i) := by
  have hnote : SoundBut o (s.note (.bindInstrument i t)) := h.note (by simp)
  have hask := hnote.askInstrument t t (s.instrument i).request
  have hlater := Later.askInstrument (s.note (.bindInstrument i t)) t t (s.instrument i).request
  unfold Store.tryInstrument
  simp only
  split
  · apply hask.bindInstrument
    rw [hopen, (hlater.instrument hknown).issuer]
    rfl
  · exact hask.log _

theorem tryInstruments (h : SoundBut o s) (t : MeterRef) (is : List InstrumentRef)
    (his : ∀ i ∈ is, s.instruments.Has i ∧ o.map Prod.fst = some (s.instrument i).issuer) :
    SoundBut o (s.tryInstruments t is) := by
  induction is generalizing s with
  | nil => exact h
  | cons i is ih =>
      obtain ⟨hknown, hopen⟩ := his i List.mem_cons_self
      apply ih (h.tryInstrument t hknown hopen)
      intro i' hi'
      obtain ⟨hknown', hopen'⟩ := his i' (List.mem_cons_of_mem _ hi')
      have hlater := Later.tryInstrument s t i
      refine ⟨(hlater.instruments i' hknown').1, ?_⟩
      rw [hopen', (hlater.instrument hknown').issuer]

/-! ## One meter -/

theorem isDeferred_bindMeter (m : Meter) (t : MeterRef) :
    (m.bind t).body.isDeferred = m.body.isDeferred := by
  cases hm : m.body <;> simp [Meter.bind, hm, MeterBody.isDeferred]

theorem instruments_bindMeter (m : Meter) (t : MeterRef) :
    (m.bind t).instruments = m.instruments := by
  cases hm : m.body <;> simp [Meter.bind, hm, Meter.instruments]

theorem issuer_bindMeter (m : Meter) (t : MeterRef) : (m.bind t).issuer = m.issuer := by
  unfold Meter.bind
  split <;> rfl

theorem fits_bindMeter {p : Provider} {m : Meter} (t : MeterRef) (h : p.Fits m.body) :
    p.Fits (m.bind t).body := by
  unfold Meter.bind
  split
  · rename_i hm
    rw [hm] at h
    cases h
    constructor
  · exact h

theorem target?_bindMeter {m : Meter} (h : m.body.isDeferred = true) (t : MeterRef) :
    (m.bind t).target? = some t := by
  unfold Meter.bind
  cases hm : m.body <;> simp_all [MeterBody.isDeferred, Meter.target?]

/-- A meter that is told its target, which was just made for it, is open. -/
theorem openMeter (h : Sound s) {m t : MeterRef} {d p e : ProviderRef} (before : List Call)
    (htarget : (s.meter m).target? = none) (hknown : s.meters.Has t) (horder : m.place < t.place)
    (hscope : (s.meter t).scope = (s.meter m).scope) (hd : (s.meter m).issuer = some d)
    (hp : (s.provider d).target? = some p) (he : (s.meter t).issuer = some e)
    (hlead : s.HandsOn p e)
    (hcalls : s.calls.toList = before ++ [.meter p (s.meter m).scope, .meterReturned t]) :
    SoundBut (some (m, t)) (s.note (.bindMeter m t)) := by
  have hlater : Later s (s.note (.bindMeter m t)) := .note s _
  have hnew : (s.note (.bindMeter m t)).calls.toList = s.calls.toList ++ [.bindMeter m t] := by
    simp [Store.note]
  have hnever : ∀ t', Call.bindMeter m t' ∉ s.calls.toList := by
    intro t' hmem
    rcases h.bindings.told m t' hmem with hbound | hopen
    · rw [htarget] at hbound
      cases hbound
    · cases hopen
  have hinstruments : InstrumentTree (some m) s.meters s.instruments :=
    ⟨h.instruments.nodup, h.instruments.issued,
      fun m' i hmem hnone _ => h.instruments.waiting m' i hmem hnone (by simp)⟩
  refine ⟨h.tree, hinstruments, ⟨h.bindings.known, ?_, ?_⟩, h.owners, h.names.later hlater rfl⟩
  · intro m' t' hm'
    rcases hm' with hbound | hopen
    · refine (h.bindings.made m' t' (.inl hbound)).later hlater ⟨_, hnew, ?_⟩
      intro t'' hmem
      -- the meter `m'` has a target, and `m` has none
      have heq : m' = m ∧ t'' = t := by simpa using hmem
      rw [heq.1] at hbound
      exact absurd (htarget.symm.trans hbound) (by simp)
    · obtain ⟨rfl, rfl⟩ : m = m' ∧ t = t' := by simpa using hopen
      refine ⟨hknown, horder, hscope, d, p, e, before, [], hd, hp, he, hlead, ?_, ?_⟩
      · rw [hnew, hcalls, List.append_assoc]
        rfl
      · intro t'
        refine ⟨fun hmem => hnever t' ?_, by simp⟩
        rw [hcalls]
        exact List.mem_append_left _ hmem
  · intro m' t' hmem
    rw [hnew, List.mem_append, List.mem_singleton] at hmem
    rcases hmem with hmem | hmem
    · exact .inl ((h.bindings.told m' t' hmem).resolve_right (by simp))
    · cases hmem
      exact .inr rfl

section CloseMeter

variable {m t : MeterRef}

/-- The meters stay under their providers when the open one gets its target. -/
theorem meterTree_closeMeter (h : SoundBut (some (m, t)) s) :
    MeterTree s.providers (s.meters.update m fun x => x.bind t) := by
  have hmade := h.bindings.made m t (.inr rfl)
  have hself : (s.meters.update m fun x => x.bind t).get m = (s.meter m).bind t :=
    Table.get_update_self _ _ hmade.has
  have hother : ∀ m', m' ≠ m → (s.meters.update m fun x => x.bind t).get m' = s.meters.get m' :=
    fun m' hne => Table.get_update_of_ne _ _ (Ne.symm hne)
  have hissuer : ∀ m', ((s.meters.update m fun x => x.bind t).get m').issuer =
      (s.meters.get m').issuer :=
    Table.apply_get_update Meter.issuer _ (fun x => issuer_bindMeter x t) m
  constructor
  case fits =>
    intro m' e he
    rw [hissuer] at he
    obtain ⟨hhas, hfits⟩ := h.tree.fits m' e he
    refine ⟨hhas, ?_⟩
    by_cases hm : m' = m
    · rw [hm, hself]
      exact fits_bindMeter t (hm ▸ hfits)
    · rw [hother m' hm]
      exact hfits
  case alone =>
    intro m' hnone
    rw [hissuer] at hnone
    by_cases hm : m' = m
    · rw [hm, hself, isDeferred_bindMeter]
      exact hm ▸ h.tree.alone m' hnone
    · rw [hother m' hm]
      exact h.tree.alone m' hnone
  case nodup => exact h.tree.nodup
  case issued =>
    intro p m' hmem
    rw [Table.has_update, hissuer]
    exact h.tree.issued p m' hmem
  case waiting =>
    intro p m' hmem hnone
    by_cases hm : m' = m
    · -- the provider that issued `m` has a target already
      obtain ⟨d, p', _, _, _, hd, hp', _⟩ := hmade.history
      have hp : (s.meter m).issuer = some p := hm ▸ (h.tree.issued p m' hmem).2
      obtain rfl : d = p := Option.some.inj (hd.symm.trans hp)
      exact absurd (hnone.symm.trans hp') (by simp)
    · rw [hother m' hm]
      exact h.tree.waiting p m' hmem hnone

/-- The meter that was open is no exception any more when it gets its target. -/
theorem instrumentTree_closeMeter (h : SoundBut (some (m, t)) s)
    (hdeferred : (s.meter m).body.isDeferred = true) :
    InstrumentTree none (s.meters.update m fun x => x.bind t) s.instruments := by
  have hself : (s.meters.update m fun x => x.bind t).get m = (s.meter m).bind t :=
    Table.get_update_self _ _ (h.bindings.made m t (.inr rfl)).has
  have hinstruments : ∀ m', ((s.meters.update m fun x => x.bind t).get m').instruments =
      (s.meters.get m').instruments :=
    Table.apply_get_update Meter.instruments _ (fun x => instruments_bindMeter x t) m
  constructor
  case nodup =>
    intro m'
    rw [hinstruments]
    exact h.instruments.nodup m'
  case issued =>
    intro m' i hmem
    rw [hinstruments] at hmem
    exact h.instruments.issued m' i hmem
  case waiting =>
    intro m' i hmem hnone _
    rw [hinstruments] at hmem
    by_cases hm : m' = m
    · rw [hm, hself, target?_bindMeter hdeferred] at hnone
      cases hnone
    · rw [Table.get_update_of_ne _ _ (Ne.symm hm)] at hnone
      exact h.instruments.waiting m' i hmem hnone fun heq => hm (Option.some.inj heq).symm

/-- The open meter gets its target, and nothing is open any more. -/
theorem closeMeter (h : SoundBut (some (m, t)) s) (htarget : (s.meter m).target? = none)
    (hdeferred : (s.meter m).body.isDeferred = true) :
    Sound (s.updateMeter m fun x => x.bind t) := by
  have hmade := h.bindings.made m t (.inr rfl)
  have hlater : Later s (s.updateMeter m fun x => x.bind t) :=
    .updateMeter (Meter.grows_bind htarget t)
  have hself : ((s.updateMeter m fun x => x.bind t).meter m).target? = some t :=
    (congrArg Meter.target? (Table.get_update_self _ _ hmade.has)).trans
      (target?_bindMeter hdeferred t)
  have hother : ∀ m', m' ≠ m →
      ((s.updateMeter m fun x => x.bind t).meter m').target? = (s.meter m').target? :=
    fun m' hne => congrArg Meter.target? (Table.get_update_of_ne _ _ (Ne.symm hne))
  refine ⟨h.meterTree_closeMeter, h.instrumentTree_closeMeter hdeferred,
    ⟨h.bindings.known, ?_, ?_⟩, h.owners, h.names.later hlater rfl⟩
  · intro m' t' hm'
    have hbound := hm'.resolve_right (by simp)
    have hmade' : s.MadeFor m' t' := by
      by_cases hm : m' = m
      · obtain rfl : t = t' := Option.some.inj (hself.symm.trans (hm ▸ hbound))
        exact hm ▸ hmade
      · exact h.bindings.made m' t' (.inl ((hother m' hm).symm.trans hbound))
    exact hmade'.later hlater ⟨[], (List.append_nil _).symm, by simp⟩
  · intro m' t' hmem
    rcases h.bindings.told m' t' hmem with hbound | hopen
    · have hm : m' ≠ m := by
        rintro rfl
        exact absurd (htarget.symm.trans hbound) (by simp)
      exact .inl ((hother m' hm).trans hbound)
    · obtain ⟨rfl, rfl⟩ : m = m' ∧ t = t' := by simpa using hopen
      exact .inl hself

end CloseMeter

end SoundBut

namespace Store

variable {s : Store} {p e d : ProviderRef} {m t : MeterRef}

theorem meter_tryInstruments (hne : m ≠ t) (is : List InstrumentRef) :
    (tryInstruments t s is).meter m = s.meter m := by
  rw [meter, meters_tryInstruments]
  exact Table.get_update_of_ne _ _ (Ne.symm hne)

/-- A meter waits as well when another one has been asked for. -/
theorem MeterWaits.askMeter (h : s.MeterWaits m) (scope : Scope) :
    (s.askMeter p e scope).MeterWaits m := by
  have hsame := meter_askMeter (p := p) (e := e) h.known scope
  have hinstruments := instruments_askMeter s p e scope
  refine ⟨(Later.askMeter s p e scope).meters m h.known |>.1, ?_, ?_, ?_⟩
  · rw [hsame]
    exact h.waiting
  · rw [hsame]
    exact h.nodup
  · intro i hi
    rw [hsame] at hi
    obtain ⟨hwaits, hissuer⟩ := h.instruments i hi
    refine ⟨hwaits.congr hinstruments, ?_⟩
    rw [instrument, hinstruments]
    exact hissuer

end Store

theorem Later.bindMeter {s : Store} {m t : MeterRef} (htarget : (s.meter m).target? = none)
    (hne : m ≠ t) : Later s (s.bindMeter m t) := by
  have htried := (Later.note s (.bindMeter m t)).trans (.tryInstruments _ t (s.meter m).instruments)
  have hnone : ((Store.tryInstruments t (s.note (.bindMeter m t))
      (s.meter m).instruments).meter m).target? = none := by
    rw [Store.meter_tryInstruments hne]
    exact htarget
  exact (htried.trans (.updateMeter (Meter.grows_bind hnone t))).trans (.log _ _)

theorem Later.tryMeter {s : Store} {p e : ProviderRef} {m : MeterRef}
    (hwaits : s.MeterWaits m) : Later s (s.tryMeter p e m) := by
  have hask := Later.askMeter s p e (s.meter m).scope
  cases h : s.meterAnswer e (s.meter m).scope with
  | error payload =>
      rw [Store.tryMeter_of_error h]
      exact hask.trans (.log _ _)
  | ok t =>
      have hne : m ≠ t := Store.meterAnswer_eq_next s h ▸ Table.ne_next_of_has hwaits.known
      rw [Store.tryMeter_of_ok h]
      refine hask.trans (.bindMeter ?_ hne)
      rw [Store.meter_askMeter hwaits.known]
      exact hwaits.target?

namespace SoundBut

variable {s : Store}

/-- A meter without a target is open when it is told what has been asked for it. -/
theorem openAsked (h : Sound s) {p e d : ProviderRef} {m t : MeterRef} (hm : s.meters.Has m)
    (htarget : (s.meter m).target? = none) (hd : (s.meter m).issuer = some d)
    (hp : (s.provider d).target? = some p) (he : s.providerEnd? p = some e)
    (hanswer : s.meterAnswer e (s.meter m).scope = .ok t) :
    SoundBut (some (m, t)) ((s.askMeter p e (s.meter m).scope).note (.bindMeter m t)) := by
  have hknown := h.bindings.has_end (h.bindings.known d p hp) he
  have hlater := Later.askMeter s p e (s.meter m).scope
  have hserves := Store.serves_askMeter (p := p) hanswer
  have hsame : (s.askMeter p e (s.meter m).scope).meter m = s.meter m := Store.meter_askMeter hm _
  have horder : m.place < t.place := by
    rw [Store.meterAnswer_eq_next s hanswer]
    exact hm
  have hscope : ((s.askMeter p e (s.meter m).scope).meter t).scope = (s.meter m).scope := by
    rw [Store.meter_askMeter_of_ok hanswer]
  have hask := h.askMeter (p := p) (s.meter m).scope hknown
  refine hask.openMeter s.calls.toList (by rw [hsame]; exact htarget) hserves.known horder
    (by rw [hscope, hsame]) (by rw [hsame]; exact hd) (Store.target?_later hp hlater)
    hserves.issuer (Store.handsOn_later (Store.providerEnd?_eq_some.1 he).1 hlater) ?_
  rw [Store.calls_askMeter, hanswer, hsame]
  rfl

/-- Trying a meter that waits keeps a store sound. -/
theorem tryMeter (h : Sound s) {p e d : ProviderRef} {m : MeterRef} (hwaits : s.MeterWaits m)
    (hd : (s.meter m).issuer = some d) (hp : (s.provider d).target? = some p)
    (he : s.providerEnd? p = some e) : Sound (s.tryMeter p e m) := by
  have hask := h.askMeter (p := p) (s.meter m).scope
    (h.bindings.has_end (h.bindings.known d p hp) he)
  cases hanswer : s.meterAnswer e (s.meter m).scope with
  | error payload =>
      rw [Store.tryMeter_of_error hanswer]
      exact hask.log _
  | ok t =>
      have hne : m ≠ t := Store.meterAnswer_eq_next s hanswer ▸ Table.ne_next_of_has hwaits.known
      have hsame : (s.askMeter p e (s.meter m).scope).meter m = s.meter m :=
        Store.meter_askMeter hwaits.known _
      have hopen := h.openAsked hwaits.known hwaits.target? hd hp he hanswer
      have htried := hopen.tryInstruments t
        ((s.askMeter p e (s.meter m).scope).meter m).instruments fun i hi => by
          obtain ⟨hhas, hissuer, _⟩ := hask.instruments.issued m i hi
          exact ⟨hhas, congrArg some hissuer.symm⟩
      have hmeter : (Store.tryInstruments t
          ((s.askMeter p e (s.meter m).scope).note (.bindMeter m t))
          ((s.askMeter p e (s.meter m).scope).meter m).instruments).meter m = s.meter m :=
        (Store.meter_tryInstruments hne _).trans hsame
      have hclosed := htried.closeMeter (by rw [hmeter]; exact hwaits.target?) (by
        obtain ⟨is, his⟩ := hwaits.waiting
        rw [hmeter, his]
        rfl)
      rw [Store.tryMeter_of_ok hanswer]
      exact hclosed.log _

theorem tryMeters (h : Sound s) {p e d : ProviderRef} {ms : List MeterRef} (hwait : s.AllWait ms)
    (hd : ∀ m ∈ ms, (s.meter m).issuer = some d) (hp : (s.provider d).target? = some p)
    (he : s.providerEnd? p = some e) :
    Sound (s.tryMeters p e ms) ∧ Later s (s.tryMeters p e ms) := by
  induction ms generalizing s with
  | nil => exact ⟨h, .refl s⟩
  | cons m ms ih =>
      have hm := hwait.waits m List.mem_cons_self
      have hhead := h.tryMeter hm (hd m List.mem_cons_self) hp he
      have hlater : Later s (s.tryMeter p e m) := .tryMeter hm
      obtain ⟨hsound, hlater'⟩ := ih hhead hwait.tail
        (fun k hk => by
          have hknown := (hwait.waits k (List.mem_cons_of_mem _ hk)).known
          rw [(hlater.meter hknown).issuer]
          exact hd k (List.mem_cons_of_mem _ hk))
        ((hlater.provider (Store.has_of_providerTarget hp)).target p hp)
        ((Store.providerEnd?_tryMeter hm.known p).trans he)
      exact ⟨hsound, hlater.trans hlater'⟩

/-! ## A whole provider -/

theorem meters_eq_issued {q : Provider} (h : q.isDeferred = true) : q.meters = q.issued := by
  cases q <;> simp_all [Provider.isDeferred, Provider.meters, Provider.issued]

/-- The meters that a deferred provider keeps are those that it has issued. -/
theorem issued_of_mem_meters (h : Sound s) {d : ProviderRef}
    (hdeferred : (s.provider d).isDeferred = true) {m : MeterRef} (hm : m ∈ (s.provider d).meters) :
    s.meters.Has m ∧ (s.meter m).issuer = some d := by
  rw [meters_eq_issued hdeferred] at hm
  exact h.tree.issued d m hm

/-- In a sound store, everything below a deferred provider without a target waits. -/
theorem providerWaits (h : Sound s) {d : ProviderRef} (hknown : s.providers.Has d)
    (hdeferred : (s.provider d).isDeferred = true) (htarget : (s.provider d).target? = none) :
    s.ProviderWaits d := by
  obtain ⟨q, hq⟩ : ∃ q, s.provider d = .deferred q := by
    cases hd : s.provider d <;> simp_all [Provider.isDeferred]
  have hissued := meters_eq_issued hdeferred
  refine ⟨hknown, ⟨q.meters, ?_⟩, ⟨hissued ▸ h.tree.nodup d, ?_⟩⟩
  · rw [hq] at htarget ⊢
    obtain ⟨target, ms⟩ := q
    simp only [Provider.target?] at htarget
    rw [htarget]
  · intro m hm
    rw [hissued] at hm
    obtain ⟨hhas, hissuer⟩ := h.tree.issued d m hm
    have hnone := h.tree.waiting d m hm htarget
    obtain ⟨x, hx⟩ : ∃ x, (s.meter m).body = .deferred x :=
      (h.tree.fits m d hissuer).2.body_of_deferred hq
    refine ⟨hhas, ⟨x.instruments, ?_⟩, h.instruments.nodup m, ?_⟩
    · have htarget' : x.target = none := by
        have hmeter : (s.meter m).target? = none := hnone
        rwa [Meter.target?, hx] at hmeter
      rw [hx, ← htarget']
    · intro i hi
      obtain ⟨hi_has, hi_issuer, hi_deferred⟩ := h.instruments.issued m i hi
      refine ⟨⟨hi_has, ?_⟩, hi_issuer⟩
      exact Instrument.destination_of_waiting hi_deferred
        (h.instruments.waiting m i hi hnone (by simp))

end SoundBut

namespace Store

/-- The store in which the registration `r` has written the provider `p` down and bound its deferred
provider to it, and nothing below that. -/
def assign (s : Store) (r : RegistrationRef) (p : ProviderRef) : Store :=
  ((s.writeProvider r p).note (.bindProvider (s.registration r).deferred p)).updateProvider
    (s.registration r).deferred fun q => q.bind p

end Store

theorem Provider.issued_bind (q : Provider) (p : ProviderRef) : (q.bind p).issued = q.issued := by
  cases q <;> rfl

theorem Provider.target?_bind {q : Provider} (h : q.isDeferred = true) (p : ProviderRef) :
    (q.bind p).target? = some p := by
  cases q <;> simp_all [isDeferred, bind, target?]

theorem Later.assign {s : Store} {r : RegistrationRef} (p : ProviderRef)
    (htarget : (s.provider (s.registration r).deferred).target? = none) :
    Later s (s.assign r p) :=
  (Later.updateRegistration (f := fun o => { o with provider := some p }) ⟨rfl, fun h => h⟩).trans
    ((Later.note _ _).trans (.updateProvider (Provider.grows_bind htarget p)))

namespace SoundBut

variable {s : Store}

/-- A known provider may be written down. -/
theorem writeProvider {o : Option (MeterRef × MeterRef)} (h : SoundBut o s) {r : RegistrationRef}
    {p : ProviderRef} (hp : s.providers.Has p) : SoundBut o (s.writeProvider r p) := by
  have hlater : Later s (s.writeProvider r p) := .updateRegistration ⟨rfl, fun h => h⟩
  have hdeferred : ∀ r', ((s.writeProvider r p).registrations.get r').deferred =
      (s.registrations.get r').deferred := by
    intro r'
    show ((s.registrations.update r _).get r').deferred = _
    rw [Table.get_update]
    split <;> rfl
  have hhas : ∀ r', (s.writeProvider r p).registrations.Has r' ↔ s.registrations.Has r' :=
    fun r' => Table.has_update _ _ _ _
  have howners : Owners s.providers (s.writeProvider r p).registrations := by
    constructor
    case known =>
      intro r' hr'
      rw [hdeferred]
      exact h.owners.known r' ((hhas r').1 hr')
    case deferred =>
      intro r' hr'
      rw [hdeferred]
      exact h.owners.deferred r' ((hhas r').1 hr')
    case distinct =>
      intro r₁ r₂ h₁ h₂ heq
      rw [hdeferred, hdeferred] at heq
      exact h.owners.distinct r₁ r₂ ((hhas r₁).1 h₁) ((hhas r₂).1 h₂) heq
    case slots =>
      intro r' q hslot
      change ((s.registrations.update r fun o => { o with provider := some p }).get r').provider =
        some q at hslot
      rw [Table.get_update] at hslot
      split at hslot
      · cases hslot
        exact hp
      · exact h.owners.slots r' q hslot
  refine ⟨h.tree, h.instruments, ?_, howners, h.names.later hlater rfl⟩
  exact h.bindings.later hlater (fun _ => rfl) (fun _ => rfl)
    ⟨[], (List.append_nil _).symm, by simp⟩

/-- A provider without a target may be bound to a known one. -/
theorem bindTarget (h : Sound s) {d p : ProviderRef} (hp : s.providers.Has p)
    (htarget : (s.provider d).target? = none) : Sound (s.updateProvider d fun q => q.bind p) := by
  have hlater : Later s (s.updateProvider d fun q => q.bind p) :=
    .updateProvider (Provider.grows_bind htarget p)
  have hhas : ∀ q, (s.providers.update d fun q => q.bind p).Has q ↔ s.providers.Has q :=
    fun q => Table.has_update _ _ _ _
  have hissued : ∀ q, ((s.providers.update d fun q => q.bind p).get q).issued =
      (s.providers.get q).issued :=
    Table.apply_get_update Provider.issued _ (fun q => q.issued_bind p) d
  have htree : MeterTree (s.providers.update d fun q => q.bind p) s.meters := by
    constructor
    case fits =>
      intro m e he
      obtain ⟨hknown, hfits⟩ := h.tree.fits m e he
      exact ⟨(hhas e).2 hknown, Provider.fits_of_freshBody (hlater.provider hknown).freshBody hfits⟩
    case alone => exact h.tree.alone
    case nodup =>
      intro q
      rw [hissued]
      exact h.tree.nodup q
    case issued =>
      intro q m hmem
      rw [hissued] at hmem
      exact h.tree.issued q m hmem
    case waiting =>
      intro q m hmem hnone
      rw [hissued] at hmem
      apply h.tree.waiting q m hmem
      -- no provider loses its target
      cases hq : (s.providers.get q).target? with
      | none => rfl
      | some t =>
          have hkept := (hlater.provider (Store.has_of_providerTarget hq)).target t hq
          exact absurd (hnone.symm.trans hkept) (by simp)
  refine ⟨htree, h.instruments, ⟨?_, ?_, ?_⟩,
    h.owners.later hlater.providers (Registration.likes _), h.names.later hlater rfl⟩
  · intro q t ht
    rw [show (s.updateProvider d fun q => q.bind p).providers.Has t ↔ _ from hhas t]
    rw [Store.provider_updateProvider] at ht
    split at ht
    · cases hq : s.provider q with
      | deferred x =>
          rw [hq] at ht
          rwa [← Option.some.inj ht]
      | _ =>
          rw [hq] at ht
          cases ht
    · exact h.bindings.known q t ht
  · intro m t hm
    exact (h.bindings.made m t hm).later hlater ⟨[], (List.append_nil _).symm, by simp⟩
  · exact h.bindings.told

/-- Assigning a known provider keeps a store sound. -/
theorem assign (h : Sound s) {r : RegistrationRef} {p : ProviderRef} (hp : s.providers.Has p)
    (htarget : (s.provider (s.registration r).deferred).target? = none) : Sound (s.assign r p) := by
  have hwritten := h.writeProvider (r := r) hp
  have hnoted : Sound ((s.writeProvider r p).note (.bindProvider (s.registration r).deferred p)) :=
    hwritten.note (by simp)
  exact hnoted.bindTarget hp htarget

/-- A new registration with a deferred provider that no other registration has. -/
theorem addRegistration (h : Sound s) {x : Registration} (hslot : x.provider = none)
    (hknown : s.providers.Has x.deferred) (hdeferred : (s.provider x.deferred).isDeferred = true)
    (hfresh : ∀ r, s.registrations.Has r → (s.registration r).deferred ≠ x.deferred) :
    Sound (s.addRegistration x) := by
  have hlater : Later s (s.addRegistration x) := .addRegistration s x
  have hrow := s.registrations.get_add x
  have howners : Owners s.providers (s.registrations.add x) := by
    constructor
    case known =>
      intro r hr
      rw [hrow]
      split
      · exact hknown
      · rename_i hr'
        exact h.owners.known r (((Table.has_add _ _ _).1 hr).resolve_right hr')
    case deferred =>
      intro r hr
      rw [hrow]
      split
      · exact hdeferred
      · rename_i hr'
        exact h.owners.deferred r (((Table.has_add _ _ _).1 hr).resolve_right hr')
    case distinct =>
      intro r r' hr hr' heq
      rw [hrow, hrow] at heq
      -- the deferred provider of the new registration belongs to no other
      split at heq <;> split at heq
      · rename_i h₁ h₂
        exact h₁.trans h₂.symm
      · rename_i _ h₂
        have hold := ((Table.has_add _ _ _).1 hr').resolve_right h₂
        exact absurd heq.symm (hfresh r' hold)
      · rename_i h₁ _
        have hold := ((Table.has_add _ _ _).1 hr).resolve_right h₁
        exact absurd heq (hfresh r hold)
      · rename_i h₁ h₂
        exact h.owners.distinct r r' (((Table.has_add _ _ _).1 hr).resolve_right h₁)
          (((Table.has_add _ _ _).1 hr').resolve_right h₂) heq
    case slots =>
      intro r q hq
      rw [hrow] at hq
      split at hq
      · rw [hslot] at hq
        cases hq
      · exact h.owners.slots r q hq
  refine ⟨h.tree, h.instruments, ?_, howners, h.names.later hlater rfl⟩
  exact h.bindings.later hlater (fun _ => rfl) (fun _ => rfl)
    ⟨[], (List.append_nil _).symm, by simp⟩

end SoundBut

end DeferredMetrics
