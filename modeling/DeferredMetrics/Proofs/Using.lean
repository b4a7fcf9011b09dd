import DeferredMetrics.Proofs.Arriving
import DeferredMetrics.Proofs.LineageSteps

set_option autoImplicit false

/-! # Using what a family has issued

What callers get who ask the providers and meters of a family, and where the samples go that they
give. A request is answered and keeps the lineage (`Lineage.requestMeter_run`,
`Lineage.requestInstrument_run`). A sample for an instrument is taken by the provider whose
instrument its chain leads to, or discarded as long as that is a deferred one
(`Lineage.takes`, `Lineage.discards`). -/

namespace DeferredMetrics

open Relation (ReflTransGen)

/-- Nothing is taken back, and registrations, the environment and the targets of providers stay as
they are. -/
structure Steady (s s' : Store) : Prop where
  later : Later s s'
  registrations : s'.registrations = s.registrations
  environment : s'.environment = s.environment
  targets : ∀ q, (s'.provider q).target? = (s.provider q).target?

namespace Steady

variable {s s' s'' : Store}

theorem refl (s : Store) : Steady s s := ⟨.refl s, rfl, rfl, fun _ => rfl⟩

theorem trans (h : Steady s s') (h' : Steady s' s'') : Steady s s'' :=
  ⟨h.later.trans h'.later, h'.registrations.trans h.registrations,
    h'.environment.trans h.environment, fun q => (h'.targets q).trans (h.targets q)⟩

theorem registration (h : Steady s s') (r : RegistrationRef) :
    s'.registration r = s.registration r :=
  congrArg (Table.get · r) h.registrations

theorem of_alike (h : Alike s s') (hregistrations : s'.registrations = s.registrations)
    (henvironment : s'.environment = s.environment) : Steady s s' :=
  ⟨h.later, hregistrations, henvironment, fun q => congrArg Provider.target? (h.provider q)⟩

theorem of_shown (h : Shown s s') : Steady s s' :=
  of_alike (.of_shown h) h.registrations h.environment

theorem of_gives (h : ReflTransGen Gives s s') : Steady s s' := by
  obtain ⟨hregistrations, _, henvironment, _⟩ := aside_of_gives h
  exact of_alike (.of_path h) hregistrations henvironment

/-- Requests leave registrations and the environment alone. -/
theorem of_aside (hlater : Later s s') (h : Aside s s')
    (htargets : ∀ q, (s'.provider q).target? = (s.provider q).target?) : Steady s s' :=
  ⟨hlater, h.registrations, h.environment, htargets⟩

theorem note (s : Store) (c : Call) : Steady s (s.note c) := ⟨.note s c, rfl, rfl, fun _ => rfl⟩

theorem log (s : Store) (m : Message) : Steady s (s.log m) := ⟨.log s m, rfl, rfl, fun _ => rfl⟩

theorem askMeter (s : Store) (q e : ProviderRef) (scope : Scope) :
    Steady s (s.askMeter q e scope) :=
  .of_aside (.askMeter s q e scope) (.askMeter s q e scope)
    (Store.providerTarget_askMeter scope)

theorem tryInstrument {e : ProviderRef} {t : MeterRef} (hissuer : (s.meter t).issuer = some e)
    (i : InstrumentRef) : Steady s (s.tryInstrument t i) :=
  .of_aside (.tryInstrument s t i) (.tryInstrument s t i)
    (Store.providerTarget_tryInstrument s t i hissuer)

end Steady

namespace Store.Issued

variable {s s' : Store} {t : MeterRef} {request : Request} {i? : Option InstrumentRef}

theorem steady (hi : s.Issued s' t request i?) (hlater : Later s s') (haside : Aside s s') :
    Steady s s' :=
  .of_aside hlater haside hi.target?_provider

end Store.Issued

/-! ## Requests -/

namespace Lineage

variable {Q : ProviderRef → Prop} {start s : Store} {held own : Kin} {w : Pending}

/-- A provider of the family answers with a new meter of the same scope. -/
theorem requestMeter_run (h : Lineage Q start held own w s) {q : ProviderRef} (hq : Q q)
    (scope : Scope) :
    ∃ e s', s.providerEnd? q = some e ∧ Shown (s.askMeter q e scope) s' ∧
      Op.requestMeter q scope s = .ok s.meters.next s' ∧ Steady s s' ∧
      Lineage Q start (held.addMeter s.meters.next) (own.addMeter s.meters.next) w s' := by
  obtain ⟨e, he⟩ := h.providers.ends q hq
  obtain ⟨s', hs', hrun⟩ := Op.requestMeter_run scope he
  rw [h.providers.meterAnswer (h.providers.end hq he)] at hrun
  exact ⟨e, s', he, hs'.shown, hrun, (Steady.askMeter s q e scope).trans (.of_shown hs'.shown),
    (h.askMeter hq he scope).alike (.of_shown hs'.shown)⟩

/-- The meter that a provider of the family has answered with. -/
theorem meter_requested (h : Lineage Q start held own w s) {s' : Store} {q e : ProviderRef}
    {scope : Scope} (hq : Q q) (he : s.providerEnd? q = some e)
    (hshown : Shown (s.askMeter q e scope) s') :
    s'.meter s.meters.next = ⟨scope, some e, (s.provider e).freshBody⟩ := by
  rw [hshown.meter, Store.meter_askMeter_ite
    (h.providers.meterAnswer (h.providers.end hq he) scope), if_pos rfl]

/-- A meter of the family answers with a new instrument. -/
theorem requestInstrument_run (h : Lineage Q start held own w s) {m : MeterRef}
    (hm : own.meters m) (request : Request) :
    ∃ t s', s.meterEnd? m = some t ∧ Shown (s.askInstrument m t request) s' ∧
      Op.requestInstrument m request s = .ok s.instruments.next s' ∧ Steady s s' ∧
      Lineage Q start (held.addInstrument s.instruments.next)
        (own.addInstrument s.instruments.next) (w.meet t s.instruments.next) s' := by
  obtain ⟨t, ht⟩ := h.exists_meterEnd hm
  have htown := h.own_end hm ht
  obtain ⟨e, hissuer, hanswer⟩ := h.instrumentAnswer htown request
  have hfits : s.MeterFits t := fun e he => (h.sound.tree.fits t e he).2
  obtain ⟨s', hs', hrun⟩ := Op.requestInstrument_run request ht hfits
  rw [hanswer] at hrun
  have hsteady := (Store.issued_askInstrument m hissuer hanswer).steady
    (.askInstrument s m t request) (.askInstrument s m t request)
  exact ⟨t, s', ht, hs'.shown, hrun, hsteady.trans (.of_shown hs'.shown),
    (h.askInstrument hm ht request).alike (.of_shown hs'.shown)⟩

/-- The instrument that a meter of the family has answered with: it is of the meter that this one
leads to. -/
theorem instrument_requested (h : Lineage Q start held own w s) {s' : Store} {m t : MeterRef}
    {request : Request} (hm : own.meters m) (ht : s.meterEnd? m = some t)
    (hshown : Shown (s.askInstrument m t request) s') (hlater : Later s s') :
    s'.instruments.Has s.instruments.next ∧
      s'.instrument s.instruments.next = ⟨request, t, (s.meter t).freshDestination⟩ ∧
      Leads (fun x => (s'.meter x).target?) m t := by
  obtain ⟨e, hissuer, hanswer⟩ := h.instrumentAnswer (h.own_end hm ht) request
  have hi := Store.issued_askInstrument m hissuer hanswer
  refine ⟨?_, (hshown.instrument _).trans hi.instrument_next, ?_⟩
  · rw [hshown.instruments, hi.has_instrument]
    exact .inr rfl
  · exact (Store.meterEnd?_eq_some.1 ht).1.mono fun _ _ hxy => Store.meterTarget?_later hxy hlater

/-- Giving samples and observing keep the lineage. -/
theorem of_goes (h : Lineage Q start held own w s) {α : Type} {op : Op α}
    (hgoes : Op.Goes Gives op s Op.Anything) :
    Steady s (op.left s) ∧ Lineage Q start held own w (op.left s) :=
  ⟨.of_gives hgoes.path, h.alike (.of_path hgoes.path)⟩

/-- The end of a chain of the family is what its meter makes of every instrument. -/
theorem destination_end (h : Lineage Q start held own w s) {i j : InstrumentRef}
    (hend : s.instrumentEnd? i = some j) (hj : own.instruments j) :
    (s.instrument j).destination = (s.meter (s.instrument j).issuer).freshDestination :=
  h.instruments.fresh j hj (Store.instrumentEnd?_eq_some.1 hend).2

/-- Samples for an instrument of the family are discarded, if the end of its chain is one of a
deferred provider. -/
theorem discards (h : Lineage Q start held own w s) {i j : InstrumentRef}
    (hend : s.instrumentEnd? i = some j) (hj : own.instruments j) {d : ProviderRef}
    (hd : (s.meter (s.instrument j).issuer).issuer = some d)
    (hdeferred : (s.provider d).isDeferred = true) : Discards s i := by
  have hbody : (s.meter (s.instrument j).issuer).body.isDeferred = true :=
    (h.isDeferred_meter hd).trans hdeferred
  obtain ⟨x, hx⟩ : ∃ x, (s.meter (s.instrument j).issuer).body = .deferred x := by
    cases hx : (s.meter (s.instrument j).issuer).body <;> simp_all [MeterBody.isDeferred]
  have hdestination : (s.instrument j).destination = .deferred none := by
    rw [h.destination_end hend hj, Meter.freshDestination, hx]
  exact Op.discards_of_end hend (by simp [hdestination]) (by simp [hdestination])

end Lineage

/-! ## What a provider has issued -/

/-- The provider `p` has issued the meter `t` since `start`. -/
structure Store.NewMeter (start s : Store) (p : ProviderRef) (t : MeterRef) : Prop where
  known : s.meters.Has t
  new : ¬ start.meters.Has t
  issuer : (s.meter t).issuer = some p

/-- A meter of the provider `p` has issued the instrument `j` since `start`. -/
structure Store.NewInstrument (start s : Store) (p : ProviderRef) (j : InstrumentRef) : Prop where
  known : s.instruments.Has j
  new : ¬ start.instruments.Has j
  issuer : (s.meter (s.instrument j).issuer).issuer = some p

/-- What the provider `p` makes of samples for the instrument `i`, which leads to its instrument
`j`: a recording provider has them in the log of the meter of `j`, an SDK sees them as samples for
`j`, and a provider that discards everything discards them. -/
inductive Store.Takes (s : Store) (p : ProviderRef) (i j : InstrumentRef) : Prop where
  | kept {q : RecordingProvider} (hp : s.provider p = .recording q)
      (hreaches : Reaches s i (s.instrument i).request (s.instrument j).issuer)
  | handed {q : SdkProvider} (hp : s.provider p = .sdk q) (hrelays : Relays s i j)
  | dropped (hp : s.provider p = .noop) (hdiscards : Discards s i)

/-- The instrument `i` leads to the new instrument `j` of the provider `p`, which was asked for by
the same request, and `p` gets the samples for `i`. -/
structure Store.Arrives (start s : Store) (p : ProviderRef) (i j : InstrumentRef) : Prop where
  leads : s.instrumentEnd? i = some j
  new : start.NewInstrument s p j
  request : (s.instrument j).request = (s.instrument i).request
  takes : s.Takes p i j

theorem Store.Takes.reaches {s : Store} {p : ProviderRef} {i j : InstrumentRef}
    (h : s.Takes p i j) (hrecording : (s.provider p).isRecording = true) :
    Reaches s i (s.instrument i).request (s.instrument j).issuer := by
  cases h with
  | kept _ hreaches => exact hreaches
  | handed hp _ => rw [hp] at hrecording; cases hrecording
  | dropped hp _ => rw [hp] at hrecording; cases hrecording

/-- What the provider `p`, which hands nothing on, has issued since `start`: one meter for each
meter and one instrument for each instrument in `held` that leads to it. If it is a recording
provider, that is what it and its meters have on their lists. -/
structure Store.OneForEach (start s : Store) (p : ProviderRef) (held : Kin) : Prop where
  meters : ∀ t, start.NewMeter s p t → ∃! m, held.meters m ∧ s.meterEnd? m = some t
  instruments : ∀ j, start.NewInstrument s p j →
    ∃! i, held.instruments i ∧ s.instrumentEnd? i = some j
  listed : (s.provider p).isRecording = true →
    ∃ new, (s.provider p).meters = (start.provider p).meters ++ new ∧
      Lists new (start.NewMeter s p)
  created : (s.provider p).isRecording = true → ∀ t, start.NewMeter s p t →
    ∃ js : List InstrumentRef,
      Lists js (fun j => start.NewInstrument s p j ∧ (s.instrument j).issuer = t) ∧
      (s.meter t).log.created =
        js.map fun j => ((s.instrument j).request.kind, (s.instrument j).request.descriptor)

namespace Lineage

variable {Q : ProviderRef → Prop} {start s : Store} {held own : Kin} {w : Pending}

/-- The provider of the end of a chain gets the samples, if it is not deferred. -/
theorem takes (h : Lineage Q start held own w s) {i j : InstrumentRef}
    (hend : s.instrumentEnd? i = some j) (hj : own.instruments j)
    (hrequest : (s.instrument j).request = (s.instrument i).request) {p : ProviderRef}
    (hissuer : (s.meter (s.instrument j).issuer).issuer = some p)
    (hreal : (s.provider p).isDeferred = false) : s.Takes p i j := by
  have hdestination := h.destination_end hend hj
  have hfits : (s.provider p).Fits (s.meter (s.instrument j).issuer).body :=
    (h.sound.tree.fits _ p hissuer).2
  cases hp : s.provider p with
  | recording q =>
      obtain ⟨x, hx⟩ := hfits.body_of_recording hp
      rw [Meter.freshDestination, hx] at hdestination
      exact .kept hp (hrequest ▸ Op.reaches_of_log hend hdestination ⟨x, hx⟩)
  | sdk q =>
      rw [Meter.freshDestination, hfits.body_of_sdk hp] at hdestination
      exact .handed hp (Op.relays_of_sdk hend hdestination)
  | noop =>
      rw [Meter.freshDestination, hfits.body_of_noop hp] at hdestination
      exact .dropped hp (Op.discards_of_end hend (by simp [hdestination])
        (by simp [hdestination]))
  | deferred q =>
      rw [hp] at hreal
      cases hreal

/-- An instrument of the family arrives where its chain ends, if that is not deferred. -/
theorem arrives (h : Lineage Q start held own w s) (hstart : Sound start) {i j : InstrumentRef}
    (hend : s.instrumentEnd? i = some j) (hj : own.instruments j)
    (hrequest : (s.instrument j).request = (s.instrument i).request) {p : ProviderRef}
    (hissuer : (s.meter (s.instrument j).issuer).issuer = some p)
    (hreal : (s.provider p).isDeferred = false) : start.Arrives s p i j where
  leads := hend
  new := ⟨h.has_instrument hj, h.new_instrument hstart hj hissuer hreal, hissuer⟩
  request := hrequest
  takes := h.takes hend hj hrequest hissuer hreal

/-- A meter of a provider that is not deferred has no target. -/
theorem target?_of_issuer (h : Lineage Q start held own w s) {t : MeterRef}
    {p : ProviderRef} (hp : (s.provider p).isDeferred = false)
    (hissuer : (s.meter t).issuer = some p) : (s.meter t).target? = none := by
  cases htarget : (s.meter t).target? with
  | none => rfl
  | some t' =>
      have hdeferred := Meter.isDeferred_of_target htarget
      rw [h.isDeferred_meter hissuer, hp] at hdeferred
      cases hdeferred

/-- When nothing is pending, a provider that is not deferred has issued one object for each handle
that leads to it. -/
theorem oneForEach (h : Lineage Q start held own .nothing s) {p : ProviderRef}
    (hp : (s.provider p).isDeferred = false) : start.OneForEach s p held where
  meters t ht := h.head_of_meter (h.meters.new t ht.known ht.new) (h.target?_of_issuer hp ht.issuer)
  instruments j hj := by
    have hown := h.instruments.new j hj.known hj.new
    refine h.head_of_instrument hown ?_
    cases htarget : (s.instrument j).target? with
    | none => rfl
    | some k =>
        have hbound : s.heir none (s.instrument j).issuer = some (s.instrument k).issuer :=
          (h.instruments.passed j k hown htarget).1
        rw [s.heir_none, h.target?_of_issuer hp hj.issuer] at hbound
        cases hbound
  listed hrecording := by
    obtain ⟨new, hlist, hnew⟩ := h.books.meters p hrecording
    refine ⟨new, hlist, hnew.congr fun t => ⟨fun ht => ⟨ht.known, ht.new, ht.issuer⟩, ?_⟩⟩
    rintro ⟨hknown, hnew, hissuer⟩
    exact ⟨hknown, hnew, hissuer⟩
  created hrecording t ht := by
    have hlog : (s.meter t).freshDestination = .log := by
      obtain ⟨q, hq⟩ := Provider.exists_of_isRecording hrecording
      obtain ⟨x, hx⟩ : ∃ x, (s.meter t).body = .recording x :=
        (h.sound.tree.fits t p ht.issuer).2.body_of_recording hq
      rw [Meter.freshDestination, hx]
    obtain ⟨js, hjs, hcreated⟩ := h.books.created t ht.known ht.new hlog
    refine ⟨js, hjs.congr fun j => ⟨?_, ?_⟩, hcreated⟩
    · rintro ⟨hj, hissuer⟩
      exact ⟨hj.known, hj.new, hissuer⟩
    · rintro ⟨hknown, hnew, rfl⟩
      exact ⟨⟨hknown, hnew, ht.issuer⟩, rfl⟩

end Lineage

end DeferredMetrics
