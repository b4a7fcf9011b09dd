import DeferredMetrics.Proofs.Using
import DeferredMetrics.Proofs.Waiting
import DeferredMetrics.Proofs.Wiring

set_option autoImplicit false

/-! # Registrations that come to nothing

A registration is *mute* if no provider can take effect in it but those that discard everything: it
has none or such a one, and its configuration names none or such a one (`Store.Mute`). What is
asked of it, or of a discarding provider itself, is always answered, and what comes of it is mute
again: meters and instruments that discard what they get, or that wait for a target and can only
get one that does (`MuteMeter`, `MuteInstrument`). Offers and discoveries leave the registration
mute, whether they come in time or not (`Mute.install`, `Mute.getProvider`). -/

namespace DeferredMetrics

open Relation (ReflTransGen)

namespace Provider

theorem eq_noop_of_freshBody {p : Provider} (h : p.freshBody = .noop) : p = .noop := by
  cases p <;> first | rfl | cases h

theorem noop_of_grows {p p' : Provider} (h : p.Grows p') (hnoop : p = .noop) : p' = .noop := by
  refine eq_noop_of_freshBody ?_
  rw [h.freshBody, hnoop]
  rfl

/-- A deferred provider refuses nothing, and a discarding one neither. -/
theorem refusal_of_idle {p : Provider} (h : p.isDeferred = true ∨ p = .noop) (n : Nat) (ask : Ask) :
    p.refusal n ask = none := by
  rcases h with h | rfl
  · exact refusal_of_isDeferred h n ask
  · rfl

theorem quiet_of_idle {p : Provider} (h : p.isDeferred = true ∨ p = .noop) : p.Quiet := by
  cases p with
  | noop => trivial
  | deferred q => trivial
  | recording q => simp [isDeferred] at h
  | sdk q => simp [isDeferred] at h

end Provider

/-- What is read after a value was set is that value, or what was read before. -/
theorem Discovery.value?_configure {d : Discovery} {environment : Environment} {key v : String}
    {value : Option String}
    (h : Discovery.value? { d with source := d.source.configure key value } environment = some v) :
    d.value? environment = some v ∨ value = some v := by
  unfold value? Source.configure at h
  unfold value?
  cases hsource : d.source with
  | environment =>
      rw [hsource] at h
      exact .inl h
  | settings values =>
      rw [hsource] at h
      cases value with
      | some v' =>
          simp only [Roster.get?_insert] at h
          split at h
          · exact .inr h
          · exact .inl h
      | none =>
          simp only [Roster.get?_erase] at h
          split at h
          · cases h
          · exact .inl h

/-- The configuration of the registration names no provider, or a discarding one. -/
def Store.NamesNoop (s : Store) (r : RegistrationRef) : Prop :=
  ∀ value, (s.registration r).discovery.value? s.environment = some value →
    (trim value).isEmpty = true ∨ trim value = Registry.noopName

/-- A registration in which only discarding providers are and can be in effect. -/
structure Store.Mute (s : Store) (r : RegistrationRef) : Prop where
  sound : Sound s
  known : s.registrations.Has r
  agrees : s.AgreesOn r
  slot : ∀ p, (s.registration r).provider = some p → s.provider p = .noop
  configured : s.NamesNoop r
  factory : (s.registry (s.registration r).discovery.registry).get? Registry.noopName = some .noop

/-- The deferred provider of the mute registration `r`, or one that discards everything. -/
structure Store.MuteProvider (s : Store) (r : RegistrationRef) (q : ProviderRef) : Prop where
  known : s.providers.Has q
  kind : q = (s.registration r).deferred ∨ s.provider q = .noop

/-- A meter of such a provider. -/
structure Store.MuteMeter (s : Store) (r : RegistrationRef) (m : MeterRef) : Prop where
  known : s.meters.Has m
  issuer : ∃ q, (s.meter m).issuer = some q ∧ s.MuteProvider r q

/-- An instrument of such a meter. -/
structure Store.MuteInstrument (s : Store) (r : RegistrationRef) (i : InstrumentRef) : Prop where
  known : s.instruments.Has i
  issuer : s.MuteMeter r (s.instrument i).issuer

namespace Store

variable {s s' : Store} {r : RegistrationRef} {q : ProviderRef} {m : MeterRef} {i : InstrumentRef}

theorem Mute.muteDeferred (h : s.Mute r) : s.MuteProvider r (s.registration r).deferred :=
  ⟨h.sound.owners.known r h.known, .inl rfl⟩

/-! ## What stays mute -/

theorem MuteProvider.later (h : s.MuteProvider r q) (hr : s.registrations.Has r)
    (hlater : Later s s') : s'.MuteProvider r q := by
  obtain ⟨hknown, hgrows⟩ := hlater.providers q h.known
  exact ⟨hknown, h.kind.imp (fun hq => hq.trans (hlater.registration hr).deferred.symm)
    (Provider.noop_of_grows hgrows)⟩

theorem MuteMeter.later (h : s.MuteMeter r m) (hr : s.registrations.Has r) (hlater : Later s s') :
    s'.MuteMeter r m := by
  obtain ⟨q, hissuer, hq⟩ := h.issuer
  exact ⟨(hlater.meters m h.known).1, q, (hlater.meter h.known).issuer.trans hissuer,
    hq.later hr hlater⟩

theorem MuteInstrument.later (h : s.MuteInstrument r i) (hr : s.registrations.Has r)
    (hlater : Later s s') : s'.MuteInstrument r i := by
  refine ⟨(hlater.instruments i h.known).1, ?_⟩
  rw [(hlater.instrument h.known).issuer]
  exact h.issuer.later hr hlater

/-- The registration stays mute, no callback is called, and no name is given. -/
structure StaysMute (r : RegistrationRef) (s s' : Store) : Prop where
  mute : s'.Mute r
  later : Later s s'
  callbacks : s'.callbacks = s.callbacks
  directory : s'.directory = s.directory

theorem StaysMute.trans {s'' : Store} (h : StaysMute r s s') (h' : StaysMute r s' s'') :
    StaysMute r s s'' :=
  ⟨h'.mute, h.later.trans h'.later, h'.callbacks.trans h.callbacks,
    h'.directory.trans h.directory⟩

namespace Mute

/-- A registration is mute as long as registrations, registries and the targets of providers stay as
they are. -/
theorem steady (h : s.Mute r) (hsound : Sound s') (hsteady : Steady s s')
    (hregistries : s'.registries = s.registries) : s'.Mute r := by
  have hrow := hsteady.registration r
  constructor
  case sound => exact hsound
  case known =>
    rw [hsteady.registrations]
    exact h.known
  case agrees =>
    refine h.agrees.congr ?_ ?_ ?_ (hsteady.targets _)
    · rw [hrow]
    · rw [hrow]
    · rw [gate, hrow]
      rfl
  case slot =>
    intro p hp
    rw [hrow] at hp
    have hpknown := h.sound.owners.slots r p hp
    exact Provider.noop_of_grows (hsteady.later.provider hpknown) (h.slot p hp)
  case configured =>
    unfold NamesNoop
    rw [hrow, hsteady.environment]
    exact h.configured
  case factory =>
    rw [registry, hregistries, hrow]
    exact h.factory

theorem refl (h : s.Mute r) : StaysMute r s s := ⟨h, .refl s, rfl, rfl⟩

theorem stays (h : s.Mute r) (hsound : Sound s') (hsteady : Steady s s')
    (hregistries : s'.registries = s.registries) (hcallbacks : s'.callbacks = s.callbacks)
    (hdirectory : s'.directory = s.directory) : StaysMute r s s' :=
  ⟨h.steady hsound hsteady hregistries, hsteady.later, hcallbacks, hdirectory⟩

/-! ## Where mute objects lead -/

/-- The kinds of mute providers. -/
theorem idle (h : s.Mute r) (hq : s.MuteProvider r q) :
    (s.provider q).isDeferred = true ∨ s.provider q = .noop := by
  refine hq.kind.imp_left fun heq => ?_
  rw [heq]
  exact h.sound.owners.deferred r h.known

theorem target (h : s.Mute r) (hq : s.MuteProvider r q) {p : ProviderRef}
    (hp : (s.provider q).target? = some p) : s.provider p = .noop := by
  rcases hq.kind with rfl | hnoop
  · exact h.slot p (h.agrees.target.symm.trans hp)
  · rw [hnoop] at hp
    cases hp

theorem leads (h : s.Mute r) (hq : s.MuteProvider r q) {e : ProviderRef} (hlead : s.HandsOn q e) :
    s.MuteProvider r e := by
  induction hlead with
  | refl => exact hq
  | tail _ hnext ih => exact ⟨h.sound.bindings.known _ _ hnext, .inr (h.target ih hnext)⟩

/-- The chain of a mute provider ends at once or after one target. -/
theorem exists_providerEnd (h : s.Mute r) (hq : s.MuteProvider r q) :
    ∃ e, s.providerEnd? q = some e ∧ s.MuteProvider r e := by
  cases htarget : (s.provider q).target? with
  | none => exact ⟨q, providerEnd?_eq_some.2 (endsAt_self htarget), hq⟩
  | some p =>
      have hnoop := h.target hq htarget
      have hend : s.providerEnd? p = some p :=
        providerEnd?_eq_some.2 (endsAt_self (show (s.provider p).target? = none by rw [hnoop]; rfl))
      exact ⟨p, (providerEnd?_of_target htarget).trans hend, h.sound.bindings.known q p htarget,
        .inr hnoop⟩

theorem meterTarget (h : s.Mute r) (hm : s.MuteMeter r m) {t : MeterRef}
    (ht : (s.meter m).target? = some t) : s.MuteMeter r t := by
  have hmade := h.sound.bindings.made m t (.inl ht)
  obtain ⟨d, p, e, _, _, hd, hp, he, hlead, _⟩ := hmade.history
  obtain ⟨q, hissuer, hq⟩ := hm.issuer
  obtain rfl : q = d := Option.some.inj (hissuer.symm.trans hd)
  exact ⟨hmade.known, e, he, h.leads hq (.head hp hlead)⟩

theorem leads_meter (h : s.Mute r) (hm : s.MuteMeter r m) {t : MeterRef}
    (hlead : Leads (fun x => (s.meter x).target?) m t) : s.MuteMeter r t := by
  induction hlead with
  | refl => exact hm
  | tail _ hnext ih => exact h.meterTarget ih hnext

/-- Instruments of mute meters lead to such, and never to a log. -/
theorem leads_instrument (h : s.Mute r) (hwired : s.Wired) (habreast : s.Abreast)
    (hi : s.MuteInstrument r i) {j : InstrumentRef}
    (hlead : Leads (fun x => (s.instrument x).target?) i j) : s.MuteInstrument r j := by
  induction hlead with
  | refl => exact hi
  | tail _ hnext ih =>
      exact ⟨(hwired.target _ _ hnext).1, h.meterTarget ih.issuer (habreast _ _ hnext)⟩

theorem destination_ne_log (h : s.Mute r) (hwired : s.Wired) (hi : s.MuteInstrument r i) :
    (s.instrument i).destination ≠ .log := by
  intro hlog
  obtain ⟨q, hissuer, hq⟩ := hi.issuer.issuer
  have hfits := (h.sound.tree.fits _ q hissuer).2
  have hfresh := hwired.log i hlog
  have hbody : (s.meters.get (s.instrument i).issuer).freshDestination = .log := hfresh
  unfold Meter.freshDestination at hbody
  have hidle : (s.providers.get q).isDeferred = true ∨ s.providers.get q = .noop := h.idle hq
  generalize (s.meters.get (s.instrument i).issuer).body = body at hfits hbody
  generalize s.providers.get q = p at hfits hidle
  cases hfits <;> simp [Provider.isDeferred] at hidle hbody

/-! ## Requests -/

/-- A mute provider answers with a mute meter of the scope. -/
theorem requestMeter (h : s.Mute r) (hq : s.MuteProvider r q) (scope : Scope) :
    ∃ m s', Op.requestMeter q scope s = .ok m s' ∧ StaysMute r s s' ∧ s'.MuteMeter r m ∧
      (s'.meter m).scope = scope := by
  obtain ⟨e, he, hmute⟩ := h.exists_providerEnd hq
  have hidle := h.idle hmute
  have hanswer : s.meterAnswer e scope = .ok s.meters.next := by
    rw [meterAnswer, Provider.refusal_of_idle hidle]
  obtain ⟨s', hs', hrun⟩ := Op.requestMeter_run scope he
  obtain rfl := hs'.same (Provider.quiet_of_idle hidle)
  rw [hanswer] at hrun
  have haside := Aside.askMeter s q e scope
  have hstays : StaysMute r s (s.askMeter q e scope) :=
    h.stays (h.sound.askMeter scope hmute.known) (.askMeter s q e scope) haside.registries
      haside.callbacks (directory_askMeter s q e scope).1
  have hrow := meter_askMeter_ite (q := q) hanswer s.meters.next
  rw [if_pos rfl] at hrow
  refine ⟨_, _, hrun, hstays, ⟨(has_askMeter hanswer _).2 (.inr rfl), e, ?_, ?_⟩, ?_⟩
  · rw [hrow]
  · exact hmute.later h.known hstays.later
  · rw [hrow]

/-- A mute meter answers with a mute instrument for the request. -/
theorem requestInstrument (h : s.Mute r) (hm : s.MuteMeter r m) (request : Request) :
    ∃ i s', Op.requestInstrument m request s = .ok i s' ∧ StaysMute r s s' ∧
      s'.MuteInstrument r i ∧ (s'.instrument i).request = request := by
  obtain ⟨t, ht⟩ := exists_meterEnd h.sound m
  have hmute := h.leads_meter hm (meterEnd?_eq_some.1 ht).1
  obtain ⟨e, hissuer, he⟩ := hmute.issuer
  have hidle := h.idle he
  have hanswer : s.instrumentAnswer t request = .ok s.instruments.next := by
    rw [instrumentAnswer, instrumentRefusal, hissuer, Option.bind_some,
      Provider.refusal_of_idle hidle]
  have hquiet : s.QuietMeter t := by
    intro e' he'
    rw [hissuer, Option.some.injEq] at he'
    exact he' ▸ Provider.quiet_of_idle hidle
  obtain ⟨s', hs', hrun⟩ :=
    Op.requestInstrument_run request ht fun e he => (h.sound.tree.fits t e he).2
  obtain rfl := hs'.same hquiet
  rw [hanswer] at hrun
  have haside := Aside.askInstrument s m t request
  have hsteady :=
    (issued_askInstrument m hissuer hanswer).steady (.askInstrument s m t request) haside
  have hstays : StaysMute r s (s.askInstrument m t request) :=
    h.stays (h.sound.askInstrument m t request) hsteady haside.registries haside.callbacks
      (directory_askInstrument s m t request).1
  have hrow := (instrument_askInstrument_ite s m hanswer s.instruments.next).trans (if_pos rfl)
  refine ⟨_, _, hrun, hstays, ⟨?_, ?_⟩, ?_⟩
  · rw [instruments_askInstrument_of_ok s m hanswer]
    exact Table.has_next_add _ _
  · rw [hrow]
    exact hmute.later h.known hstays.later
  · rw [hrow]

/-- Samples for a mute instrument are taken. -/
theorem record (h : s.Mute r) (hwired : s.Wired) (i : InstrumentRef) (sample : Sample)
    (attributes : AttributeSet) :
    ∃ s', Op.record i sample attributes s = .ok () s' ∧ StaysMute r s s' := by
  obtain ⟨e, he, _⟩ := exists_end hwired i
  have hrun := Op.record_run he sample attributes
  have hpath := (Op.gives_record (s := s) i sample attributes).path
  rw [Op.left_of_ok hrun] at hpath
  obtain ⟨_, hdirectory, _, hregistries⟩ := aside_of_gives hpath
  have hsound := (Alike.of_path hpath).sound none h.sound
  have hcallbacks := callbacks_of_stills h.sound (Op.goes_record (s := s) i sample attributes).path
  rw [Op.left_of_ok hrun] at hcallbacks
  exact ⟨_, hrun, h.stays hsound (.of_gives hpath) hregistries hcallbacks hdirectory⟩

/-- There is nothing to observe on a mute instrument. -/
theorem observe (h : s.Mute r) (hwired : s.Wired) (habreast : s.Abreast)
    (hi : s.MuteInstrument r i) :
    Op.observe i s = .ok [] (s.note (.observe i)) ∧ StaysMute r s (s.note (.observe i)) := by
  obtain ⟨e, he, _⟩ := exists_end hwired i
  have hmute := h.leads_instrument hwired habreast hi (instrumentEnd?_eq_some.1 he).1
  refine ⟨Op.observe_of_elsewhere he (.inl (h.destination_ne_log hwired hmute)), ?_⟩
  exact h.stays (h.sound.note (by simp)) (.note s _) rfl rfl rfl

/-! ## Offers and discoveries -/

/-- A mute registration that takes a provider that discards everything is mute. -/
theorem finish (h : s.Mute r) {p : ProviderRef} (hp : s.providers.Has p)
    (hnoop : s.provider p = .noop) (hwait : s.ProviderWaits (s.registration r).deferred)
    (hend : s.providerEnd? p = some p) (hne : p ≠ (s.registration r).deferred)
    (discovered : Bool) :
    StaysMute r s (((s.writeProvider r p).bindProvider (s.registration r).deferred p p).finish r
      discovered) := by
  have haside := Aside.bindProvider (s.writeProvider r p) (s.registration r).deferred p p
  obtain ⟨hsound, hlater⟩ := sound_bindProvider h.sound h.known hp hwait hend hne
  have htarget := target?_bindProvider h.sound h.known hwait hend hne (s.registration r).deferred
  have hdirectory : ((s.writeProvider r p).bindProvider (s.registration r).deferred p p).directory =
      s.directory := directory_tryMeters _ p p _
  have hrow := registration_finish r h.known haside.registrations discovered
  rw [if_pos rfl] at hrow htarget
  generalize (s.writeProvider r p).bindProvider (s.registration r).deferred p p = t at *
  have hlater' := hlater.trans (later_finish t r discovered)
  refine ⟨⟨sound_finish hsound r discovered, (hlater'.registrations r h.known).1,
    agreesOn_finish h.known haside.registrations htarget discovered, fun q hq => ?_, ?_, ?_⟩,
    hlater', haside.callbacks, hdirectory⟩
  · rw [hrow] at hq
    obtain rfl := Option.some.inj hq
    exact Provider.noop_of_grows (hlater'.provider hp) hnoop
  · unfold NamesNoop
    rw [hrow, show (t.finish r discovered).environment = s.environment from haside.environment]
    exact h.configured
  · rw [hrow, registry, show (t.finish r discovered).registries = s.registries from
      haside.registries]
    exact h.factory

/-- An offered provider that discards everything takes effect or is dropped, and some such provider
is in effect then. -/
theorem install (h : s.Mute r) {p : ProviderRef} (hp : s.providers.Has p)
    (hnoop : s.provider p = .noop) (discovered : Bool) :
    ∃ won s', Op.install r p discovered s = .ok won s' ∧ StaysMute r s s' ∧
      (s'.registration r).provider.isSome = true := by
  have hgate := h.agrees.gate
  cases hfired : (s.gate r).fired with
  | true =>
      rw [hfired] at hgate
      cases discovered with
      | true => exact ⟨false, s, Op.install_of_fired p hfired, h.refl, hgate.symm⟩
      | false =>
          have hlog : StaysMute r s (s.log .refused) :=
            h.stays (h.sound.log _) (.log s _) rfl rfl rfl
          exact ⟨false, _, Op.setProvider_of_fired p hfired, hlog, hgate.symm⟩
  | false =>
      rw [hfired] at hgate
      have hslot : (s.registration r).provider = none := by simpa using hgate.symm
      have hdeferred : (s.provider (s.registration r).deferred).isDeferred = true :=
        h.sound.owners.deferred r h.known
      have hwait := h.sound.providerWaits (h.sound.owners.known r h.known) hdeferred
        (h.agrees.target.trans hslot)
      have hend : s.providerEnd? p = some p :=
        providerEnd?_eq_some.2 (endsAt_self (show (s.provider p).target? = none by rw [hnoop]; rfl))
      have hne : p ≠ (s.registration r).deferred := by
        rintro rfl
        rw [hnoop] at hdeferred
        cases hdeferred
      obtain ⟨s', hs', hrun⟩ := Op.install_run discovered hfired hwait hend hne
      -- nothing is shown of it, so what is left is known exactly
      obtain rfl := hs'.same (by rw [hnoop]; trivial)
      have hrow := registration_finish r h.known (registrations_bindProvider s r p p) discovered
      rw [if_pos rfl] at hrow
      refine ⟨true, _, hrun, h.finish hp hnoop hwait hend hne discovered, ?_⟩
      exact (congrArg (fun o => o.provider.isSome) hrow).trans rfl

theorem retrace (h : s.Mute r) (seen : Array Event) : StaysMute r s { s with trace := seen } :=
  h.stays (h.sound.of_eq rfl rfl rfl rfl rfl rfl)
    ⟨.of_eq rfl rfl rfl rfl rfl, rfl, rfl, fun _ => rfl⟩ rfl rfl rfl

/-- There is a new provider that discards everything. -/
theorem addNoop (h : s.Mute r) : StaysMute r s (s.addProvider .noop) := by
  refine h.stays (h.sound.addProvider rfl rfl) ⟨.addProvider s _, rfl, rfl, fun q => ?_⟩ rfl rfl rfl
  rw [provider, show (s.addProvider .noop).providers = s.providers.add .noop from rfl,
    Table.get_add]
  split
  · rename_i hq
    rw [hq, provider, s.providers.get_next]
    rfl
  · rfl

/-- If there is anything to discover, it is a new provider that discards everything. -/
theorem resolve (h : s.Mute r) (depth : Nat) (hnames : ¬ s.NamesNone r) :
    ∃ seen, Op.resolve (depth + 1) r s = .ok (.ok (some s.providers.next))
      (({ s with trace := seen } : Store).addProvider .noop) := by
  obtain ⟨value, hvalue, hsome⟩ : ∃ value,
      (s.registration r).discovery.value? s.environment = some value ∧
        (trim value).isEmpty ≠ true := by
    simpa only [NamesNone, not_forall, exists_prop] using hnames
  have hnoop : trim value = Registry.noopName := (h.configured value hvalue).resolve_left hsome
  have hlookUp := Op.lookUp_run s r
  rw [hvalue] at hlookUp
  generalize s.lookedUp r = seen at hlookUp
  let s₁ : Store := { s with trace := seen }
  have hfactory : (s₁.registry (s.registration r).discovery.registry).get? (trim value) =
      some .noop := by
    rw [hnoop]
    exact h.factory
  have hmade : Op.instantiate (depth + 1) (s.registration r).discovery.registry
      (s.registration r).discovery.key (trim value) s₁ =
        .ok (.ok s.providers.next) (s₁.addProvider .noop) := by
    rw [Op.instantiate, Op.bind_of_ok (Op.get_run s₁)]
    simp only [hfactory]
    rfl
  refine ⟨seen, ?_⟩
  rw [Op.resolve, Op.bind_of_ok (Op.get_run s), Op.bind_of_ok hlookUp]
  simp only
  rw [if_neg hsome, Op.bind_of_ok hmade]
  rfl

/-- The provider in effect is mute, also if it is found only now. -/
theorem getProvider (h : s.Mute r) (depth : Nat) :
    ∃ q s', Op.getProvider (depth + 1) r s = .ok (.ok q) s' ∧ StaysMute r s s' ∧
      s'.MuteProvider r q := by
  cases hslot : (s.registration r).provider with
  | some p =>
      exact ⟨p, s, Op.getProvider_of_some _ hslot, h.refl,
        h.sound.owners.slots r p hslot, .inr (h.slot p hslot)⟩
  | none =>
      by_cases hnone : s.NamesNone r
      · have hrun := Op.getProvider_of_namesNone (depth + 1) hslot hnone
        exact ⟨_, _, hrun, h.retrace _, h.muteDeferred.later h.known (h.retrace _).later⟩
      · obtain ⟨seen, hresolve⟩ := h.resolve depth hnone
        have hadded := (h.retrace seen).trans (h.retrace seen).mute.addNoop
        have hnew : (({ s with trace := seen } : Store).addProvider .noop).provider
            s.providers.next = .noop := s.providers.get_add_next _
        obtain ⟨won, s', hinstall, hstays, hsome⟩ :=
          hadded.mute.install (s.providers.has_next_add _) hnew true
        obtain ⟨q, hq⟩ := Option.isSome_iff_exists.1 hsome
        refine ⟨q, s', ?_, hadded.trans hstays, hstays.mute.sound.owners.slots r q hq,
          .inr (hstays.mute.slot q hq)⟩
        rw [Op.getProvider, Op.bind_of_ok (Op.registered_run hslot)]
        simp only
        rw [Op.bind_of_ok hresolve]
        simp only
        rw [Op.bind_of_ok hinstall, Op.bind_of_ok (Op.registered_run hq)]
        rfl

/-- A value that names no other provider may be configured. -/
theorem configure (h : s.Mute r) (key : String) (value : Option String)
    (hvalue : ∀ v, value = some v → (trim v).isEmpty = true ∨ trim v = Registry.noopName) :
    ∃ s', Op.configure r key value s = .ok () s' ∧ StaysMute r s s' := by
  let f : Registration → Registration := fun o =>
    { o with discovery.source := o.discovery.source.configure key value }
  have hsilent : Silent s (s.updateRegistration r f) :=
    .updateRegistration s r fun _ => ⟨rfl, rfl, rfl⟩
  have hrow : (s.updateRegistration r f).registration r = f (s.registration r) :=
    Table.get_update_self _ _ h.known
  refine ⟨_, rfl, ⟨hsilent.sound h.sound, (hsilent.has r).2 h.known, ?_, ?_, ?_, ?_⟩,
    hsilent.later, rfl, rfl⟩
  · obtain ⟨hdeferred, hprovider, hgate⟩ := hsilent.registration r
    exact h.agrees.congr hdeferred hprovider hgate rfl
  · intro p hp
    exact h.slot p ((hsilent.registration r).provider.symm.trans hp)
  · intro v hv
    have hread : (f (s.registration r)).discovery.value? s.environment = some v := hrow ▸ hv
    exact (Discovery.value?_configure hread).elim (h.configured v) (hvalue v)
  · show (s.registry ((s.updateRegistration r f).registration r).discovery.registry).get? _ = _
    rw [hrow]
    exact h.factory

end Mute

end Store

end DeferredMetrics
