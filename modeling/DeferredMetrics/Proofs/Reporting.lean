import DeferredMetrics.Proofs.Messages
import DeferredMetrics.Proofs.Settling

set_option autoImplicit false

/-! # The log of an installation agrees with the objects

The numbers in the messages of an installation are counted while it goes on, from which children
were refused. The main statement, `setProvider_reports`, says that they are what can be read off the
objects when it is over: of the children on the list of a node, so many are bound, and for each
other one there is an error. It holds of every provider, also of one that leads back to the deferred
provider that is installed. -/

namespace DeferredMetrics

namespace Store

/-- How many of the meters have a target. -/
def boundMeters (s : Store) (ms : List MeterRef) : Nat :=
  ms.countP fun m => (s.meter m).target?.isSome

/-- How many of the instruments have a target. -/
def boundInstruments (s : Store) (is : List InstrumentRef) : Nat :=
  is.countP fun i => (s.instrument i).target?.isSome

end Store

/-- What is logged of a trial that ends in the store `s'`: an error for the meter if it was refused,
else an error for each instrument that was, and then the numbers that `s'` shows of the meter. -/
def MeterTrial.reportIn (s' : Store) (x : MeterTrial) : List Message :=
  match x.answer with
  | .ok _ => x.instruments.flatMap InstrumentTrial.report ++
      [.meterBound x.scope.name (s'.boundInstruments (s'.meter x.meter).instruments)
        (s'.meter x.meter).instruments.length]
  | .error (.text reason) => [.childFailed .meter x.scope.name reason]
  | .error .other => [.childFailed .meter x.scope.name "<non-string panic payload>"]

/-- The log of an installation in the registration `r` that has led from `s` to `s'` by the trials
`xs`. -/
structure Reports (s : Store) (r : RegistrationRef) (xs : List MeterTrial) (s' : Store) : Prop where
  /-- What each meter has come to, in order, then the provider, then the installation. -/
  messages : s'.messages = s.messages ++ xs.flatMap (MeterTrial.reportIn s') ++
    [.providerBound (s'.boundMeters (s'.provider (s.registration r).deferred).meters)
      (s'.provider (s.registration r).deferred).meters.length, .installed false]
  /-- Each meter of the provider is bound, or there is an error for it. -/
  meters : s'.boundMeters (s'.provider (s.registration r).deferred).meters +
      (xs.flatMap (MeterTrial.reportIn s')).countP (Message.failsFor .meter) =
    (s'.provider (s.registration r).deferred).meters.length
  /-- Each instrument of a meter that is bound is bound, or there is an error for it. -/
  instruments : ∀ x ∈ xs, ∀ t, x.answer = .ok t →
    s'.boundInstruments (s'.meter x.meter).instruments +
        (x.reportIn s').countP (Message.failsFor .instrument) =
      (s'.meter x.meter).instruments.length
  /-- The lists are those from before. -/
  provider : (s'.provider (s.registration r).deferred).meters =
    (s.provider (s.registration r).deferred).meters
  meter : ∀ x ∈ xs, (s'.meter x.meter).instruments = (s.meter x.meter).instruments

/-- Where the places of a list hold what a function says, as many satisfy a test as say so. -/
theorem countP_of_map_eq {α β : Type} {xs : List α} {ys : List β} {f : α → β} (hmap : xs.map f = ys)
    {test : β → Bool} {test' : α → Bool} (h : ∀ x ∈ xs, test (f x) = test' x) :
    ys.countP test = xs.countP test' := by
  rw [← hmap, List.countP_map]
  exact List.countP_congr fun x hx => by rw [Function.comp_apply, h x hx]

theorem Except.isSome_toOption {ε α : Type} (x : Except ε α) : x.toOption.isSome = x.isOk := by
  cases x <;> rfl

namespace Rebinding

variable {s s' : Store} {r : RegistrationRef} {p e : ProviderRef} {xs : List MeterTrial}

/-- As many meters are bound as were not refused. -/
theorem boundMeters_eq (h : Rebinding s r p e xs s') :
    s'.boundMeters (s.provider (s.registration r).deferred).meters =
      xs.countP fun x => x.answer.isOk :=
  countP_of_map_eq h.meters fun x hx => by
    rw [h.meterTarget x hx, Except.isSome_toOption]

/-- All instruments of a meter that was not refused were tried. -/
theorem length_instruments (h : Rebinding s r p e xs s') {x : MeterTrial} (hx : x ∈ xs)
    {t : MeterRef} (hanswer : x.answer = .ok t) :
    x.instruments.length = (s.meter x.meter).instruments.length := by
  rw [← (h.faithful x hx).tried t hanswer, MeterTrial.tried, List.length_map]

/-- As many instruments of a meter that was not refused are bound as were not refused. -/
theorem boundInstruments_eq (h : Rebinding s r p e xs s') {x : MeterTrial} (hx : x ∈ xs)
    {t : MeterRef} (hanswer : x.answer = .ok t) :
    s'.boundInstruments (s.meter x.meter).instruments =
      x.instruments.countP fun y => y.answer.isOk :=
  countP_of_map_eq ((h.faithful x hx).tried t hanswer) fun y hy => by
    rw [h.instrumentTarget x hx y hy, Except.isSome_toOption]

/-- The numbers that were counted are those that the objects show. -/
theorem reportIn_eq (h : Rebinding s r p e xs s')
    (hlists : ∀ x ∈ xs, (s'.meter x.meter).instruments = (s.meter x.meter).instruments)
    {x : MeterTrial} (hx : x ∈ xs) : x.reportIn s' = x.report := by
  unfold MeterTrial.reportIn MeterTrial.report
  cases hanswer : x.answer with
  | error payload => cases payload <;> rfl
  | ok t =>
      simp only
      rw [hlists x hx, h.boundInstruments_eq hx hanswer, h.length_instruments hx hanswer]

/-- What the installation has done to the objects makes its log true. -/
theorem reports (h : Rebinding s r p e xs s')
    (hprovider : (s'.provider (s.registration r).deferred).meters =
      (s.provider (s.registration r).deferred).meters)
    (hlists : ∀ x ∈ xs, (s'.meter x.meter).instruments = (s.meter x.meter).instruments)
    (hmessages : s'.messages = s.messages ++ xs.flatMap MeterTrial.report ++
      [.providerBound (xs.countP fun x => x.answer.isOk) xs.length, .installed false]) :
    Reports s r xs s' := by
  have hreport : xs.flatMap (MeterTrial.reportIn s') = xs.flatMap MeterTrial.report :=
    List.flatMap_congr fun x hx => h.reportIn_eq hlists hx
  have hlength := congrArg List.length h.meters
  rw [List.length_map] at hlength
  refine ⟨?_, ?_, fun x hx t hanswer => ?_, hprovider, hlists⟩
  · rw [hmessages, hreport, hprovider, h.boundMeters_eq, hlength]
  · rw [hreport, hprovider, h.boundMeters_eq, ← hlength]
    exact countP_add_failures MeterTrial.failures_report xs
  · have hcount := countP_add_failures InstrumentTrial.failures_report x.instruments
    rw [h.reportIn_eq hlists hx, hlists x hx, h.boundInstruments_eq hx hanswer,
      ← h.length_instruments hx hanswer, MeterTrial.report, hanswer]
    -- the last message of the meter is no error
    simp only
    rw [List.countP_append]
    exact hcount

end Rebinding

/-! ## The installation -/

/-- Binding the deferred provider of `r` is assigning its target, trying its meters, and logging how
many were not refused. -/
theorem Store.bindProvider_eq_log (s : Store) (r : RegistrationRef) (p e : ProviderRef) :
    (s.writeProvider r p).bindProvider (s.registration r).deferred p e =
      ((s.assign r p).tryMeters p e (s.provider (s.registration r).deferred).meters).log
        (.providerBound ((Store.meterTrials p e (s.assign r p)
            (s.provider (s.registration r).deferred).meters).countP fun x => x.answer.isOk)
          (s.provider (s.registration r).deferred).meters.length) := rfl

/-- A deferred provider that gets its target keeps its list. -/
theorem Store.meters_assign {s : Store} {r : RegistrationRef} (p : ProviderRef)
    (hwait : s.ProviderWaits (s.registration r).deferred) :
    ((s.assign r p).provider (s.registration r).deferred).meters =
      (s.provider (s.registration r).deferred).meters := by
  obtain ⟨ms, hms⟩ := hwait.waiting
  show (Table.get (s.providers.update _ fun q => q.bind p) _).meters = _
  rw [Table.get_update_self _ _ hwait.known, hms]
  show (Provider.bind (s.provider _) p).meters = _
  rw [hms]
  rfl

namespace Store.Sane

variable {s : Store} {r : RegistrationRef} {p e : ProviderRef}

/-- A provider whose chain ends elsewhere is installed, and the log of that is true. -/
theorem reports_setProvider (h : s.Sane) (hr : s.registrations.Has r) (hp : s.providers.Has p)
    (hslot : (s.registration r).provider = none) (he : s.providerEnd? p = some e)
    (hne : e ≠ (s.registration r).deferred) :
    ∃ xs s', Op.setProvider r p s = .ok true s' ∧ Rebinding s r p e xs s' ∧ Reports s r xs s' := by
  have hwait := h.waits hr hslot
  obtain ⟨hready, _⟩ := Store.ready_assign hwait he hne
  obtain ⟨s₁, hs₁, hrun⟩ := Op.install_run false (h.undecided r hr hslot).1 hwait he hne
  have hshown := hs₁.shown
  have hrebinding := Rebinding.of_tryMeters h.sound hr hp hwait he hne hshown false
  rw [Store.bindProvider_eq_log] at hshown
  have htried := Store.metersTried_tryMeters (p := p) (e := e) hready
  have hmessages := Store.messages_tryMeters (p := p) (e := e) hready
  have hlength := congrArg List.length (Store.map_meter_meterTrials (s := s.assign r p) (p := p)
    (e := e) (s.provider (s.registration r).deferred).meters)
  rw [List.length_map] at hlength
  refine ⟨_, _, hrun, hrebinding, hrebinding.reports ?_ ?_ ?_⟩
  · -- the end of the chain keeps what it is asked for, and the deferred provider is another one
    show (s₁.provider _).meters = _
    rw [hshown.provider]
    show (Table.get (Store.tryMeters p e (s.assign r p) _).providers _).meters = _
    rw [Store.providers_tryMeters hready, Table.get_update_of_ne _ _ hne]
    exact Store.meters_assign p hwait
  · intro x hx
    show (s₁.meter x.meter).instruments = _
    rw [hshown.meter]
    show (Store.meter (Store.tryMeters p e (s.assign r p) _) x.meter).instruments = _
    cases hanswer : x.answer with
    | error payload =>
        rw [(htried.refused x hx payload hanswer).1]
        rfl
    | ok t =>
        rw [htried.bound x hx t hanswer, SoundBut.instruments_bindMeter]
        rfl
  · show (s₁.log _).messages = _
    rw [Store.messages_log, hshown.messages, Store.messages_log, hmessages, hlength,
      List.append_assoc]
    rfl

/-- A provider that leads back is installed if there are no meters, and the log of that is true. -/
theorem reports_setProvider_back (h : s.Sane) (hr : s.registrations.Has r)
    (hslot : (s.registration r).provider = none)
    (hcircular : ∀ e, s.providerEnd? p = some e → e = (s.registration r).deferred)
    (hmeters : (s.provider (s.registration r).deferred).meters = []) :
    ∃ s', Op.setProvider r p s = .ok true s' ∧ Reports s r [] s' := by
  have hlist : ((((s.assign r p).log (.providerBound 0 0)).finish r false).provider
      (s.registration r).deferred).meters = [] :=
    (Store.meters_assign p (h.waits hr hslot)).trans hmeters
  refine ⟨_, (h.setProvider_back hr hslot hcircular).1 hmeters, ?_, ?_, nofun, ?_, nofun⟩
  · show (((s.assign r p).log _).log _).messages = _
    rw [Store.messages_log, Store.messages_log, hlist, List.append_assoc, List.flatMap_nil,
      List.append_nil]
    rfl
  · rw [hlist]
    rfl
  · rw [hlist, hmeters]

end Store.Sane

/-- Offering a provider to a registration that has none, in any store that can be reached, logs for
each meter in the order of creation what has become of it, then the numbers of the provider, then
the installation; and the numbers are those of the objects afterwards. Only a provider that leads
back to a deferred provider with meters is not installed: that call does not return, and logs
nothing. -/
theorem setProvider_reports {s : Store} {r : RegistrationRef} {p : ProviderRef} (h : Reachable s)
    (hr : s.registrations.Has r) (hp : s.providers.Has p)
    (hslot : (s.registration r).provider = none) :
    (∀ e, s.providerEnd? p = some e → e ≠ (s.registration r).deferred →
      ∃ xs s', Op.setProvider r p s = .ok true s' ∧ Rebinding s r p e xs s' ∧ Reports s r xs s') ∧
    ((∀ e, s.providerEnd? p = some e → e = (s.registration r).deferred) →
      ((s.provider (s.registration r).deferred).meters = [] →
        ∃ s', Op.setProvider r p s = .ok true s' ∧ Reports s r [] s') ∧
      ((s.provider (s.registration r).deferred).meters ≠ [] →
        ∃ s', Op.setProvider r p s = .error .waiting s' ∧ s'.messages = s.messages)) := by
  have hsane := h.sane
  refine ⟨fun e he hne => hsane.reports_setProvider hr hp hslot he hne,
    fun hcircular => ⟨hsane.reports_setProvider_back hr hslot hcircular, fun hmeters => ?_⟩⟩
  obtain ⟨scope, hrun⟩ := (hsane.setProvider_back hr hslot hcircular).2 hmeters
  exact ⟨_, hrun, rfl⟩

/-- A registration that nobody has asked for a meter. -/
def Store.unasked : Store :=
  Scenario.after 1 none (.initial .empty) [.registration "r" none (.settings []) none]

theorem reachable_unasked : Reachable .unasked := .after _ _ (.initial _) (by decide)

theorem setProvider_reports_poisoned :
    (∃ xs s', Op.setProvider ⟨0⟩ ⟨1⟩ .poisoned = .ok true s' ∧
      Rebinding .poisoned ⟨0⟩ ⟨1⟩ ⟨1⟩ xs s' ∧ Reports .poisoned ⟨0⟩ xs s') ∧
    (∃ s', Op.setProvider ⟨0⟩ ⟨0⟩ .poisoned = .error .waiting s' ∧
      s'.messages = Store.poisoned.messages) ∧
    ∃ s', Op.setProvider ⟨0⟩ ⟨0⟩ .unasked = .ok true s' ∧ Reports .unasked ⟨0⟩ [] s' := by
  have hoffer := fun (p : ProviderRef) hp => setProvider_reports (p := p) (r := ⟨0⟩)
    reachable_poisoned (by decide +kernel) hp (by decide +kernel)
  exact ⟨(hoffer ⟨1⟩ (by decide +kernel)).1 ⟨1⟩ (by decide +kernel) (by decide +kernel),
    ((hoffer ⟨0⟩ (by decide +kernel)).2 (by decide +kernel)).2 (by decide +kernel),
    ((setProvider_reports reachable_unasked (by decide +kernel) (by decide +kernel)
      (by decide +kernel)).2 (by decide +kernel)).1 (by decide +kernel)⟩

/-- Of two meters one is refused, and so is one of the two instruments of the other. -/
example : ((Op.setProvider ⟨0⟩ ⟨1⟩).left .poisoned).messages =
    [.childFailed .instrument "hits" "full", .meterBound "kept" 1 2,
      .childFailed .meter "refused" "down", .providerBound 1 2, .installed false] := by
  decide +kernel

end DeferredMetrics
