import DeferredMetrics.Proofs.Books
import DeferredMetrics.Proofs.Lines

set_option autoImplicit false

/-! # Lineage

A family of providers is bound to one another while callers ask for meters and instruments. What
the providers of the family issue stands in lines: what callers hold is at the heads, and what was
made for a bound object comes after it. `Lineage` says so, and how far a binding that has begun has
come (`Pending`). There is one lemma for each thing that is done: a request, a meter that is opened,
an instrument that is bound, a meter that is closed, and a provider that is told its target. When
nothing is pending, every handle leads to an object of the provider at the end of its chain, and no
two handles to the same (`Lineage.meter_end`, `Lineage.instrument_end`). -/

namespace DeferredMetrics

/-- Some meters and some instruments. -/
structure Kin where
  meters : MeterRef → Prop
  instruments : InstrumentRef → Prop

namespace Kin

/-- One meter more. -/
def addMeter (K : Kin) (t : MeterRef) : Kin := { K with meters := fun m => m = t ∨ K.meters m }

/-- One instrument more. -/
def addInstrument (K : Kin) (j : InstrumentRef) : Kin :=
  { K with instruments := fun i => i = j ∨ K.instruments i }

/-- One row more is one more handle. -/
theorem exists_row_iff {α β γ : Type} {P : α → β → γ → Prop} {a : α} {b : β} {c : γ} (x : α) :
    (∃ y z, (x = a ∧ y = b ∧ z = c) ∨ P x y z) ↔ x = a ∨ ∃ y z, P x y z := by
  constructor
  · rintro ⟨y, z, ⟨rfl, _⟩ | hx⟩
    · exact .inl rfl
    · exact .inr ⟨y, z, hx⟩
  · rintro (rfl | ⟨y, z, hx⟩)
    · exact ⟨b, c, .inl ⟨rfl, rfl, rfl⟩⟩
    · exact ⟨y, z, .inr hx⟩

end Kin

/-- What a binding that has begun has still to do: the meters that it has not come to, the meter
that is open and the one that it will be bound to, and the instruments of the open meter that it has
not come to. -/
structure Pending where
  meters : List MeterRef
  opened : Option (MeterRef × MeterRef)
  instruments : List InstrumentRef

namespace Pending

/-- No binding has begun, or it is over. -/
def nothing : Pending := ⟨[], none, []⟩

/-- The meter `m` has the instrument `i` more; if it is open, the instrument is still to come. -/
def meet (w : Pending) (m : MeterRef) (i : InstrumentRef) : Pending :=
  if w.opened.map Prod.fst = some m then { w with instruments := w.instruments ++ [i] } else w

end Pending

/-- The meter that `m` is bound to, or will be bound to as it is open. -/
def Store.heir (s : Store) (o : Option (MeterRef × MeterRef)) (m : MeterRef) : Option MeterRef :=
  if o.map Prod.fst = some m then o.map Prod.snd else (s.meter m).target?

/-- The providers of the family are bound to one another, not in a circle, and those that chains end
at refuse nothing. -/
structure Household (Q : ProviderRef → Prop) (s : Store) : Prop where
  known : ∀ q, Q q → s.providers.Has q
  closed : ∀ q p, Q q → (s.provider q).target? = some p → Q p
  ends : ∀ q, Q q → ∃ e, s.providerEnd? q = some e
  willing : ∀ q, Q q → ∀ n ask, (s.provider q).refusal n ask = none

/-- The meters of the family: what its deferred providers have issued, and all meters that are new
since the store `start`. -/
structure MeterKin (Q : ProviderRef → Prop) (start : Store) (held : MeterRef → Prop) (own : Kin)
    (o : Option (MeterRef × MeterRef)) (s : Store) : Prop where
  known : ∀ m, own.meters m → s.meters.Has m ∧ ∃ q, Q q ∧ (s.meter m).issuer = some q ∧
    ((s.provider q).isDeferred = true → m ∈ (s.provider q).issued)
  listed : ∀ q, Q q → ∀ m ∈ (s.provider q).issued, own.meters m
  new : ∀ m, s.meters.Has m → ¬ start.meters.Has m → own.meters m
  old : ∀ m, own.meters m → start.meters.Has m → ∃ q, m ∈ (start.provider q).issued
  lines : Lines (s.heir o) held own.meters

/-- The instruments of the family: what its deferred meters have issued, and all instruments that
are new since the store `start`. -/
structure InstrumentKin (start : Store) (held : InstrumentRef → Prop) (own : Kin)
    (o : Option (MeterRef × MeterRef)) (s : Store) : Prop where
  known : ∀ i, own.instruments i → s.instruments.Has i ∧ own.meters (s.instrument i).issuer ∧
    ((s.meter (s.instrument i).issuer).body.isDeferred = true →
      i ∈ (s.meter (s.instrument i).issuer).instruments)
  listed : ∀ m, own.meters m → ∀ i ∈ (s.meter m).instruments, own.instruments i
  new : ∀ i, s.instruments.Has i → ¬ start.instruments.Has i → own.instruments i
  old : ∀ i, own.instruments i → start.instruments.Has i → ∃ m, i ∈ (start.meter m).instruments
  lines : Lines (fun i => (s.instrument i).target?) held own.instruments
  passed : ∀ i j, own.instruments i → (s.instrument i).target? = some j →
    s.heir o (s.instrument i).issuer = some (s.instrument j).issuer ∧
      (s.instrument j).request = (s.instrument i).request
  fresh : ∀ i, own.instruments i → (s.instrument i).target? = none →
    (s.instrument i).destination = (s.meter (s.instrument i).issuer).freshDestination

/-- A binding has come to everything below a bound provider but what is pending. -/
structure Progress (Q : ProviderRef → Prop) (own : Kin) (w : Pending) (s : Store) : Prop where
  nodup : w.meters.Nodup
  left : ∀ m ∈ w.meters, own.meters m ∧ s.heir w.opened m = none
  opened : ∀ m t, w.opened = some (m, t) → own.meters m ∧ (s.meter m).target? = none
  nodupInner : w.instruments.Nodup
  inner : ∀ i ∈ w.instruments, own.instruments i ∧ (s.instrument i).target? = none ∧
    w.opened.map Prod.fst = some (s.instrument i).issuer
  meters : ∀ q, Q q → (s.provider q).target?.isSome = true → ∀ m ∈ (s.provider q).issued,
    m ∈ w.meters ∨ (s.heir w.opened m).isSome = true
  instruments : ∀ m, own.meters m → (s.heir w.opened m).isSome = true →
    ∀ i ∈ (s.meter m).instruments, i ∈ w.instruments ∨ (s.instrument i).target?.isSome = true

/-- What the family `Q` has issued since `start` stands in lines with the heads `held`, as far as a
binding with the rest `w` has come. -/
structure Lineage (Q : ProviderRef → Prop) (start : Store) (held own : Kin) (w : Pending)
    (s : Store) : Prop where
  sound : SoundBut w.opened s
  later : Later start s
  books : start.Books s
  providers : Household Q s
  meters : MeterKin Q start held.meters own w.opened s
  instruments : InstrumentKin start held.instruments own w.opened s
  progress : Progress Q own w s

/-! ## What does not matter -/

section Congr

variable {Q : ProviderRef → Prop} {start s s' : Store} {held own : Kin} {w : Pending}
  {o : Option (MeterRef × MeterRef)}

theorem Store.heir_none (s : Store) (m : MeterRef) : s.heir none m = (s.meter m).target? :=
  if_neg (Option.some_ne_none m).symm

theorem Store.heir_congr (o : Option (MeterRef × MeterRef)) {m : MeterRef}
    (h : (s'.meter m).target? = (s.meter m).target?) : s'.heir o m = s.heir o m := by
  rw [heir, heir, h]

/-- The heir of a meter that is open is what it was told. -/
theorem Store.heir_bindMeter_self (s : Store) (m t : MeterRef) :
    (s.note (.bindMeter m t)).heir (some (m, t)) m = some t := if_pos rfl

theorem Store.heir_bindMeter_of_ne (s : Store) {m t x : MeterRef} (hx : x ≠ m) :
    (s.note (.bindMeter m t)).heir (some (m, t)) x = s.heir none x := by
  rw [heir_none]
  exact if_neg fun heq => hx (Option.some.inj heq).symm

theorem Store.heir_alike (ha : Alike s s') (o : Option (MeterRef × MeterRef)) (m : MeterRef) :
    s'.heir o m = s.heir o m := heir_congr o (ha.meter m).target

theorem Household.congr (h : Household Q s) (hhas : ∀ q, s'.providers.Has q ↔ s.providers.Has q)
    (hsize : s'.providers.size = s.providers.size)
    (htarget : ∀ q, (s'.provider q).target? = (s.provider q).target?)
    (hwilling : ∀ q, Q q → ∀ n ask, (s'.provider q).refusal n ask = none) : Household Q s' where
  known q hq := (hhas q).2 (h.known q hq)
  closed q p hq hp := h.closed q p hq (htarget q ▸ hp)
  ends q hq := by
    obtain ⟨e, he⟩ := h.ends q hq
    exact ⟨e, (Store.providerEnd?_congr hsize htarget q).trans he⟩
  willing := hwilling

/-- No meter is new. -/
theorem MeterKin.congr {held : MeterRef → Prop} {o' : Option (MeterRef × MeterRef)}
    (h : MeterKin Q start held own o s)
    (hdeferred : ∀ q, (s'.provider q).isDeferred = (s.provider q).isDeferred)
    (hissued : ∀ q, (s'.provider q).issued = (s.provider q).issued)
    (hhas : ∀ m, s'.meters.Has m ↔ s.meters.Has m)
    (hissuer : ∀ m, (s'.meter m).issuer = (s.meter m).issuer)
    (hheir : ∀ m, own.meters m → s'.heir o' m = s.heir o m) : MeterKin Q start held own o' s' where
  known m hm := by
    obtain ⟨hknown, q, hq, hmq, hlisted⟩ := h.known m hm
    refine ⟨(hhas m).2 hknown, q, hq, (hissuer m).trans hmq, ?_⟩
    rw [hdeferred, hissued]
    exact hlisted
  listed q hq m hm := h.listed q hq m (hissued q ▸ hm)
  new m hknown hnew := h.new m ((hhas m).1 hknown) hnew
  old := h.old
  lines := h.lines.congr hheir

/-- No instrument is new, and a meter that is new has none. -/
theorem InstrumentKin.congr {held : InstrumentRef → Prop} {own' : Kin}
    {o' : Option (MeterRef × MeterRef)} (h : InstrumentKin start held own o s)
    (hown : ∀ m, own.meters m → s.meters.Has m)
    (hinstruments : s'.instruments = s.instruments)
    (hsame : own'.instruments = own.instruments)
    (hmore : ∀ m, own.meters m → own'.meters m)
    (hnew : ∀ m, own'.meters m →
      own.meters m ∨ ¬ s.meters.Has m ∧ (s'.meter m).instruments = [])
    (hrow : ∀ m, s.meters.Has m → (s'.meter m).instruments = (s.meter m).instruments ∧
      (s'.meter m).body.isDeferred = (s.meter m).body.isDeferred ∧
      (s'.meter m).freshDestination = (s.meter m).freshDestination)
    (hheir : ∀ m t, own.meters m → s.heir o m = some t → s'.heir o' m = some t) :
    InstrumentKin start held own' o' s' := by
  have hinstrument : ∀ i, s'.instrument i = s.instrument i :=
    fun i => congrArg (Table.get · i) hinstruments
  constructor
  case known =>
    intro i hi
    rw [hsame] at hi
    obtain ⟨hknown, hissuer, hlisted⟩ := h.known i hi
    obtain ⟨hmembers, hdeferred, _⟩ := hrow _ (hown _ hissuer)
    rw [hinstruments, hinstrument, hmembers, hdeferred]
    exact ⟨hknown, hmore _ hissuer, hlisted⟩
  case listed =>
    intro m hm i hi
    rw [hsame]
    rcases hnew m hm with hold | ⟨_, hempty⟩
    · exact h.listed m hold i ((hrow m (hown m hold)).1 ▸ hi)
    · rw [hempty] at hi
      exact absurd hi List.not_mem_nil
  case new =>
    intro i hi hstart
    rw [hinstruments] at hi
    rw [hsame]
    exact h.new i hi hstart
  case old =>
    rw [hsame]
    exact h.old
  case lines =>
    rw [hsame]
    exact h.lines.congr fun i _ => congrArg Instrument.target? (hinstrument i)
  case passed =>
    intro i j hi hj
    rw [hsame] at hi
    rw [hinstrument] at hj
    obtain ⟨hpassed, hrequest⟩ := h.passed i j hi hj
    rw [hinstrument, hinstrument]
    exact ⟨hheir _ _ (h.known i hi).2.1 hpassed, hrequest⟩
  case fresh =>
    intro i hi hnone
    rw [hsame] at hi
    rw [hinstrument] at hnone ⊢
    rw [(hrow _ (hown _ (h.known i hi).2.1)).2.2]
    exact h.fresh i hi hnone

theorem Progress.alike (h : Progress Q own w s) (ha : Alike s s') : Progress Q own w s' where
  nodup := h.nodup
  left m hm := ⟨(h.left m hm).1, (Store.heir_alike ha _ m).trans (h.left m hm).2⟩
  opened m t hm := ⟨(h.opened m t hm).1, (ha.meter m).target.trans (h.opened m t hm).2⟩
  nodupInner := h.nodupInner
  inner i hi := by
    rw [ha.instrument]
    exact h.inner i hi
  meters q hq hbound m hm := by
    rw [ha.provider] at hbound hm
    rw [Store.heir_alike ha]
    exact h.meters q hq hbound m hm
  instruments m hm hbound i hi := by
    rw [Store.heir_alike ha] at hbound
    rw [(ha.meter m).instruments] at hi
    rw [ha.instrument]
    exact h.instruments m hm hbound i hi

/-- What meters have kept does not matter. -/
theorem Lineage.alike (h : Lineage Q start held own w s) (ha : Alike s s') :
    Lineage Q start held own w s' where
  sound := ha.sound _ h.sound
  later := h.later.trans ha.later
  books := h.books.alike ha
  providers := by
    refine h.providers.congr (fun q => by rw [ha.providers]) (by rw [ha.providers])
      (fun q => by rw [ha.provider]) fun q hq n ask => ?_
    rw [ha.provider]
    exact h.providers.willing q hq n ask
  meters := h.meters.congr (fun q => by rw [ha.provider]) (fun q => by rw [ha.provider])
    (fun m => ha.meters.has m) (fun m => (ha.meter m).issuer) fun m _ => Store.heir_alike ha _ m
  instruments := by
    refine h.instruments.congr (fun m hm => (h.meters.known m hm).1) ha.instruments rfl
      (fun _ hm => hm) (fun _ hm => .inl hm) (fun m _ => ?_)
      fun m t _ ht => (Store.heir_alike ha _ m).trans ht
    exact ⟨(ha.meter m).instruments, (ha.meter m).deferred, (ha.meter m).freshDestination⟩
  progress := h.progress.alike ha

end Congr

/-! ## Requests for meters -/

theorem Household.leads {Q : ProviderRef → Prop} {s : Store} (h : Household Q s)
    {q e : ProviderRef} (hq : Q q) (hlead : s.HandsOn q e) : Q e := by
  induction hlead with
  | refl => exact hq
  | tail _ hnext ih => exact h.closed _ _ ih hnext

theorem Household.end {Q : ProviderRef → Prop} {s : Store} (h : Household Q s) {q e : ProviderRef}
    (hq : Q q) (he : s.providerEnd? q = some e) : Q e :=
  h.leads hq (Store.providerEnd?_eq_some.1 he).1

/-- A provider of the family answers what it is asked for. -/
theorem Household.meterAnswer {Q : ProviderRef → Prop} {s : Store} (h : Household Q s)
    {e : ProviderRef} (he : Q e) (scope : Scope) :
    s.meterAnswer e scope = .ok s.meters.next := by
  rw [Store.meterAnswer, h.willing e he]

section AskMeter

variable {Q : ProviderRef → Prop} {start s : Store} {own : Kin}
  {o : Option (MeterRef × MeterRef)} {q e : ProviderRef} {scope : Scope}

theorem Household.askMeter (h : Household Q s) (he : Q e) :
    Household Q (s.askMeter q e scope) := by
  have hrow := Store.provider_askMeter_of_ok (q := q) (h.known e he) (h.meterAnswer he scope)
  have htable := Store.providers_askMeter s q e scope
  refine h.congr (fun x => by rw [htable, Table.has_update]) (by rw [htable, Table.size_update])
    (fun x => ?_) fun x hx n ask => ?_
  · rw [hrow]
    split
    · exact Provider.target?_serve _ _
    · rfl
  · rw [hrow]
    split
    · rw [Provider.refusal_serve]
      exact h.willing x hx _ _
    · exact h.willing x hx n ask

theorem MeterKin.askMeter {held held' : MeterRef → Prop} {o' : Option (MeterRef × MeterRef)}
    (h : MeterKin Q start held own o s) (hlater : Later start s) (hproviders : Household Q s)
    (he : Q e)
    (hlines : Lines ((s.askMeter q e scope).heir o') held' (own.addMeter s.meters.next).meters) :
    MeterKin Q start held' (own.addMeter s.meters.next) o' (s.askMeter q e scope) := by
  have hanswer := hproviders.meterAnswer he scope
  have hprovider := Store.provider_askMeter_of_ok (q := q) (hproviders.known e he) hanswer
  have hmeter := Store.meter_askMeter_ite (q := q) hanswer
  have hhas := Store.has_askMeter (q := q) hanswer
  have hdeferred : ∀ x, ((s.askMeter q e scope).provider x).isDeferred =
      (s.provider x).isDeferred := by
    intro x
    rw [hprovider]
    split
    · exact Provider.isDeferred_serve _ _
    · rfl
  -- a recording provider also issues the meter, but does not list it as one to be bound
  have hissued : ∀ x, ((s.askMeter q e scope).provider x).issued =
      if x = e ∧ (s.provider x).isDeferred = true then (s.provider x).issued ++ [s.meters.next]
      else (s.provider x).issued := by
    intro x
    rw [hprovider]
    by_cases hx : x = e
    · rw [if_pos hx, Provider.issued_serve_meter]
      simp [hx]
    · rw [if_neg hx, if_neg fun hboth => hx hboth.1]
  constructor
  case known =>
    rintro m (rfl | hm)
    · rw [hhas, hmeter, if_pos rfl]
      refine ⟨.inr rfl, e, he, rfl, fun hdef => ?_⟩
      rw [hdeferred] at hdef
      rw [hissued, if_pos ⟨rfl, hdef⟩]
      exact List.mem_append_right _ (List.mem_singleton_self _)
    · obtain ⟨hknown, x, hx, hmx, hlisted⟩ := h.known m hm
      rw [hhas, hmeter, if_neg (Table.ne_next_of_has hknown)]
      refine ⟨.inl hknown, x, hx, hmx, fun hdef => ?_⟩
      rw [hdeferred] at hdef
      rw [hissued]
      split
      · exact List.mem_append_left _ (hlisted hdef)
      · exact hlisted hdef
  case listed =>
    intro x hx m hm
    rw [hissued] at hm
    split at hm
    · rcases List.mem_append.1 hm with hm | hm
      · exact .inr (h.listed x hx m hm)
      · exact .inl (List.mem_singleton.1 hm)
    · exact .inr (h.listed x hx m hm)
  case new =>
    intro m hknown hnew
    exact ((hhas m).1 hknown).symm.imp_right fun hold => h.new m hold hnew
  case old =>
    rintro m (rfl | hm) hstart
    · exact absurd rfl (Table.ne_next_of_has (hlater.meters _ hstart).1)
    · exact h.old m hm hstart
  case lines => exact hlines

theorem InstrumentKin.askMeter {held : InstrumentRef → Prop} {o' : Option (MeterRef × MeterRef)}
    (h : InstrumentKin start held own o s) (hown : ∀ m, own.meters m → s.meters.Has m)
    (hanswer : s.meterAnswer e scope = .ok s.meters.next)
    (hheir : ∀ m t, own.meters m → s.heir o m = some t →
      (s.askMeter q e scope).heir o' m = some t) :
    InstrumentKin start held (own.addMeter s.meters.next) o' (s.askMeter q e scope) := by
  have hmeter := Store.meter_askMeter_ite (q := q) hanswer
  have hold : ∀ m, s.meters.Has m → (s.askMeter q e scope).meter m = s.meter m :=
    fun m hm => (hmeter m).trans (if_neg (Table.ne_next_of_has hm))
  refine h.congr hown (Store.instruments_askMeter s q e scope) rfl (fun _ hm => .inr hm) ?_
    ?_ hheir
  · rintro m (rfl | hm)
    · refine .inr ⟨fun hhas => Table.ne_next_of_has hhas rfl, ?_⟩
      rw [hmeter, if_pos rfl]
      exact Store.instruments_freshBody _ _ _
    · exact .inl hm
  · intro m hm
    rw [hold m hm]
    exact ⟨rfl, rfl, rfl⟩

end AskMeter

/-- A meter comes to the family that has no heir. What was pending is pending, and nothing else. -/
theorem Progress.addMeter {Q : ProviderRef → Prop} {s s' : Store} {own : Kin} {w : Pending}
    {t : MeterRef} (h : Progress Q own w s) (hnew : s'.heir w.opened t = none)
    (hold : ∀ m, own.meters m → s'.meter m = s.meter m)
    (hlisted : ∀ q, Q q → ∀ m ∈ (s.provider q).issued, own.meters m)
    (hprovider : ∀ q, (s'.provider q).target?.isSome = true → s'.provider q = s.provider q)
    (hinstruments : s'.instruments = s.instruments) : Progress Q (own.addMeter t) w s' := by
  have hheir : ∀ m, own.meters m → s'.heir w.opened m = s.heir w.opened m :=
    fun m hm => Store.heir_congr _ (congrArg Meter.target? (hold m hm))
  have hinstrument : ∀ i, s'.instrument i = s.instrument i :=
    fun i => congrArg (Table.get · i) hinstruments
  constructor
  case nodup => exact h.nodup
  case left =>
    intro m hm
    obtain ⟨hown, hnone⟩ := h.left m hm
    exact ⟨.inr hown, (hheir m hown).trans hnone⟩
  case opened =>
    intro m t hm
    obtain ⟨hown, hnone⟩ := h.opened m t hm
    exact ⟨.inr hown, (congrArg Meter.target? (hold m hown)).trans hnone⟩
  case nodupInner => exact h.nodupInner
  case inner =>
    intro i hi
    rw [hinstrument]
    exact h.inner i hi
  case meters =>
    intro q hq hbound m hm
    have hsame := hprovider q hbound
    rw [hsame] at hbound hm
    rw [hheir m (hlisted q hq m hm)]
    exact h.meters q hq hbound m hm
  case instruments =>
    rintro m (rfl | hm) hbound i hi
    · rw [hnew] at hbound
      cases hbound
    · rw [hheir m hm] at hbound
      rw [hold m hm] at hi
      rw [hinstrument]
      exact h.instruments m hm hbound i hi

namespace Lineage

section AskMeter

variable {Q : ProviderRef → Prop} {start s : Store} {held own : Kin} {w : Pending}
  {q e : ProviderRef}

theorem not_own_next (h : Lineage Q start held own w s) : ¬ own.meters s.meters.next :=
  fun hm => Table.ne_next_of_has (h.meters.known _ hm).1 rfl

/-- A caller is given a meter of the end of a chain. -/
theorem askMeter (h : Lineage Q start held own w s) (hq : Q q) (he : s.providerEnd? q = some e)
    (scope : Scope) :
    Lineage Q start (held.addMeter s.meters.next) (own.addMeter s.meters.next) w
      (s.askMeter q e scope) := by
  have heQ := h.providers.end hq he
  have hanswer := h.providers.meterAnswer heQ scope
  have hmeter := Store.meter_askMeter_ite (q := q) hanswer
  have hold : ∀ m, own.meters m → (s.askMeter q e scope).meter m = s.meter m := fun m hm =>
    (hmeter m).trans (if_neg (Table.ne_next_of_has (h.meters.known m hm).1))
  have hheir : ∀ m, own.meters m → (s.askMeter q e scope).heir w.opened m = s.heir w.opened m :=
    fun m hm => Store.heir_congr _ (congrArg Meter.target? (hold m hm))
  -- the new meter is not the open one, so it has no heir before it is told one
  have hnew : (s.askMeter q e scope).heir w.opened s.meters.next = none := by
    rw [Store.heir, if_neg ?_, hmeter, if_pos rfl]
    · exact Store.target?_freshBody _ _ _
    · intro hopen
      obtain ⟨⟨m, t⟩, hmt, rfl⟩ := Option.map_eq_some_iff.1 hopen
      exact h.not_own_next (h.progress.opened _ t hmt).1
  have heknown := h.providers.known e heQ
  -- the provider that was asked has no target
  have hprovider : ∀ x, ((s.askMeter q e scope).provider x).target?.isSome = true →
      (s.askMeter q e scope).provider x = s.provider x := by
    intro x hbound
    rw [Store.provider_askMeter_ite q scope heknown] at hbound ⊢
    split
    · rename_i hx
      rw [if_pos hx, hx, Provider.target?_serve, show (s.provider e).target? = none
        from (Store.providerEnd?_eq_some.1 he).2] at hbound
      cases hbound
    · rfl
  exact {
    sound := h.sound.askMeter scope heknown
    later := h.later.trans (.askMeter s q e scope)
    books := h.books.askMeter h.later heknown hanswer
    providers := h.providers.askMeter heQ
    meters := h.meters.askMeter h.later h.providers heQ
      (h.meters.lines.begin h.not_own_next hheir hnew)
    instruments := h.instruments.askMeter (fun m hm => (h.meters.known m hm).1) hanswer
      fun m t hm ht => (hheir m hm).trans ht
    progress := h.progress.addMeter hnew hold h.meters.listed hprovider
      (Store.instruments_askMeter s q e scope) }

/-- What is pending when the next meter has been opened: its instruments, and the other meters. -/
theorem progress_adopt {left : List MeterRef} {m t : MeterRef}
    (h : Lineage Q start held own ⟨m :: left, none, []⟩ s) :
    Progress Q own ⟨left, some (m, t), (s.meter m).instruments⟩ (s.note (.bindMeter m t)) := by
  have hp := h.progress
  obtain ⟨hown, hnone⟩ := hp.left m List.mem_cons_self
  obtain ⟨hnotin, hnodup⟩ := List.nodup_cons.1 hp.nodup
  have hsound : Sound s := h.sound
  have htarget : (s.meter m).target? = none := (s.heir_none m).symm.trans hnone
  have hself := s.heir_bindMeter_self m t
  have hother := fun x => s.heir_bindMeter_of_ne (m := m) (t := t) (x := x)
  constructor
  case nodup => exact hnodup
  case left =>
    intro x hx
    obtain ⟨hxown, hxnone⟩ := hp.left x (List.mem_cons_of_mem _ hx)
    exact ⟨hxown, (hother x fun heq => hnotin (heq ▸ hx)).trans hxnone⟩
  case opened =>
    rintro x y heq
    obtain ⟨rfl, rfl⟩ : m = x ∧ t = y := by simpa using heq
    exact ⟨hown, htarget⟩
  case nodupInner => exact hsound.instruments.nodup m
  case inner =>
    intro i hi
    have hissuer := (hsound.instruments.issued m i hi).2.1
    refine ⟨h.instruments.listed m hown i hi, ?_, congrArg some hissuer.symm⟩
    exact hsound.instruments.waiting m i hi htarget (by simp)
  case meters =>
    intro x hx hbound k hk
    by_cases hkm : k = m
    · rw [hkm, hself]
      exact .inr rfl
    · rw [hother k hkm]
      refine (hp.meters x hx hbound k hk).imp_left fun hmem => ?_
      exact (List.mem_cons.1 hmem).resolve_left hkm
  case instruments =>
    intro k hk hbound i hi
    by_cases hkm : k = m
    · exact .inl (hkm ▸ hi)
    · rw [hother k hkm] at hbound
      exact .inr ((hp.instruments k hk hbound i hi).resolve_left List.not_mem_nil)

/-- The next meter that is to be bound is opened: it will be bound to the meter `t`, which nobody
else holds. -/
theorem adopt {left : List MeterRef} {m t : MeterRef}
    (h : Lineage Q start (held.addMeter t) own ⟨m :: left, none, []⟩ s) (ht : ¬ held.meters t)
    (horder : m.place < t.place)
    (hsound : SoundBut (some (m, t)) (s.note (.bindMeter m t))) :
    Lineage Q start held own ⟨left, some (m, t), (s.meter m).instruments⟩
      (s.note (.bindMeter m t)) := by
  obtain ⟨hown, hnone⟩ := h.progress.left m List.mem_cons_self
  have hself := s.heir_bindMeter_self m t
  have hother := fun x => s.heir_bindMeter_of_ne (m := m) (t := t) (x := x)
  -- `t` stands at the head of a line of its own; now that line comes after `m`
  have hlines := h.meters.lines.join ht hown hnone horder (fun x _ hx => hother x hx) hself
  refine ⟨hsound, h.later.trans (.note _ _), ⟨h.books.meters, h.books.created, h.books.issuers⟩,
    ⟨h.providers.known, h.providers.closed, h.providers.ends, h.providers.willing⟩,
    ⟨h.meters.known, h.meters.listed, h.meters.new, h.meters.old, hlines⟩, ?_, h.progress_adopt⟩
  refine ⟨h.instruments.known, h.instruments.listed, h.instruments.new, h.instruments.old,
    h.instruments.lines, fun i j hi hj => ?_, h.instruments.fresh⟩
  -- an instrument that has a target is not one of the meter that has none
  obtain ⟨hheir, hrequest⟩ := h.instruments.passed i j hi hj
  refine ⟨(hother _ ?_).trans hheir, hrequest⟩
  rintro heq
  rw [show (s.instrument i).issuer = m from heq, hnone] at hheir
  cases hheir

/-- The next meter that is to be bound is opened: the target of its provider is asked for a meter of
the same scope. -/
theorem openMeter {left : List MeterRef} {m : MeterRef} {d : ProviderRef}
    (h : Lineage Q start held own ⟨m :: left, none, []⟩ s) (hd : (s.meter m).issuer = some d)
    (hq : (s.provider d).target? = some q) (he : s.providerEnd? q = some e) :
    Lineage Q start held (own.addMeter s.meters.next)
      ⟨left, some (m, s.meters.next), (s.meter m).instruments⟩
      ((s.askMeter q e (s.meter m).scope).note (.bindMeter m s.meters.next)) := by
  obtain ⟨hown, hnone⟩ := h.progress.left m List.mem_cons_self
  rw [Store.heir_none] at hnone
  obtain ⟨hknown, d', hd', hmd', _⟩ := h.meters.known m hown
  obtain rfl : d' = d := Option.some.inj (hmd'.symm.trans hd)
  have hqQ := h.providers.closed d' q hd' hq
  have heQ := h.providers.end hqQ he
  have hanswer := h.providers.meterAnswer heQ (s.meter m).scope
  have hsame : (s.askMeter q e (s.meter m).scope).meter m = s.meter m :=
    Store.meter_askMeter hknown _
  have hsound : SoundBut (some (m, s.meters.next))
      ((s.askMeter q e (s.meter m).scope).note (.bindMeter m s.meters.next)) :=
    h.sound.openAsked hknown hnone hd hq he hanswer
  have hheld : ¬ held.meters s.meters.next :=
    fun hheld => h.not_own_next (h.meters.lines.own_of_held _ hheld)
  -- the new meter is first one that callers could hold, and is then given to `m`
  have hopen := (h.askMeter hqQ he (s.meter m).scope).adopt hheld hknown hsound
  rw [hsame] at hopen
  exact hopen

end AskMeter

end Lineage

end DeferredMetrics
