import DeferredMetrics.Proofs.Handover

set_option autoImplicit false

/-! # When a provider is offered does not matter

A program on a registration whose configuration names no provider leaves the same backend, and goes
on with the same replies, whether a fresh recording provider is offered in the midst of it or at
its beginning, but for the samples that were given before the offer: they are lost. The main
statement is `offer_independent`. Both runs are depicted by one ledger, the one of the program
without these samples. -/

namespace DeferredMetrics

/-- Nothing has been asked of the registration `r`, its configuration names no provider, nobody has
asked anything of the recording provider `p`, and no meter and no instrument has a name. -/
structure Store.Untouched (s : Store) (r : RegistrationRef) (p : ProviderRef) : Prop where
  deferred : s.provider (s.registration r).deferred = .freshDeferred
  idle : s.NamesNone r
  fresh : s.provider p = .freshRecording none
  meters : s.directory.meters = .empty
  instruments : s.directory.instruments = .empty

variable {s : Store} {r : RegistrationRef} {d p : ProviderRef} {names : Directory} {a : Ledger}

/-- A provider that has issued nothing is depicted by the blank ledger. -/
theorem depicts_blank (h : Sound s) (hknown : s.providers.Has d)
    (hfresh : s.provider d = .freshDeferred)
    (hmeters : s.directory.meters = .empty) (hinstruments : s.directory.instruments = .empty) :
    Depicts d s (.blank s) where
  sound := h
  known := hknown
  plain := by
    rw [hfresh]
    rfl
  nodup := by
    rw [hfresh]
    exact .nil
  meters := by
    rw [hfresh]
    exact fun _ => .none
  meterNames _ := by
    rw [hmeters]
    exact .none
  instrumentNames _ := by
    rw [hinstruments]
    exact .none
  callbacks := rfl
  callbackNames := rfl

/-- A reachable store in which nothing has been asked of a registration awaits a provider. -/
theorem waiting_blank (h : Reachable s) (huntouched : s.Untouched r p) (hr : s.registrations.Has r)
    (hp : s.providers.Has p) :
    Waiting s.directory r (s.registration r).deferred p s (.blank s) := by
  have hsound := reachable_sound h
  have hknown := hsound.owners.known r hr
  have htarget : (s.provider (s.registration r).deferred).target? = none := by
    rw [huntouched.deferred]
    rfl
  have hend := Store.providerEnd?_eq_some.2 (endsAt_self htarget)
  have hagreed := reachable_agreed h r hr (by rw [hend]; rfl)
  have hslot : (s.registration r).provider = none := hagreed.target.symm.trans htarget
  constructor
  case toDepicts =>
    exact depicts_blank hsound hknown huntouched.deferred huntouched.meters huntouched.instruments
  case deferred => exact hsound.owners.deferred r hr
  case owner => rfl
  case awaits =>
    refine ⟨hr, hslot, ?_, huntouched.idle, hp, huntouched.fresh⟩
    rw [hagreed.gate, hslot]
    rfl
  case registrations => rfl
  case providers => rfl

/-- The step that offers the awaited provider makes the program live. -/
theorem Waiting.offer (depth : Nat) (processWide : Option RegistrationRef)
    (h : Waiting names r d p s a)
    {registration provider : String} (hr : names.registrations.get? registration = some r)
    (hp : (names.providers.get? provider).map NamedProvider.ref = some p) :
    Live names r d p
      (Scenario.step depth processWide s (.setProvider registration provider)).2 a := by
  have hclear : Waiting names r d p { s with trace := #[] } a := h.retrace #[] a.trace
  obtain ⟨q, hname, hq⟩ := Option.map_eq_some_iff.1 hp
  rw [← hclear.providers] at hname
  rw [← hclear.registrations] at hr
  obtain ⟨s', hrun, hlive⟩ := hclear.setProvider
  have hperform : Op.perform depth processWide (.setProvider registration provider)
      { s with trace := #[] } = .ok (if processWide = some r then .nothing else .flag true) s' := by
    rw [Op.perform, Op.bind_of_ok (Op.named_of_some hr),
      Op.bind_of_ok (Op.providerNamed_of_some hname), hq, Op.bind_of_ok hrun]
    rfl
  rw [Scenario.step_left, Op.left_of_ok hperform]
  exact hlive

/-- Offering a fresh recording provider after some steps of a program or before them, without the
samples among them, comes to the same for the rest of the program: its replies are the same, with
what is seen, and in the end the backend holds the same meters, instruments and events in the same
order. -/
theorem offer_independent (h : Reachable s) (huntouched : s.Untouched r p)
    {registration provider : String} (hr : s.directory.registrations.get? registration = some r)
    (hp : (s.directory.providers.get? provider).map NamedProvider.ref = some p)
    (depth : Nat) (processWide : Option RegistrationRef) {before later : List Step}
    (hbefore : ∀ x ∈ before, x.handles s.directory r (s.registration r).deferred = true)
    (hlater : ∀ x ∈ later, x.handles s.directory r (s.registration r).deferred = true) :
    let offer := Step.setProvider registration provider
    let inside := Scenario.after depth processWide s (before ++ [offer])
    let first := Scenario.after depth processWide s (offer :: before.filter fun x => !x.samples)
    Scenario.runFrom depth processWide inside later =
        Scenario.runFrom depth processWide first later ∧
      (Scenario.after depth processWide inside later).backend p =
        (Scenario.after depth processWide first later).backend p ∧
      ((Scenario.after depth processWide inside later).registration r).provider = some p ∧
      ((Scenario.after depth processWide first later).registration r).provider = some p := by
  intro offer inside first
  have hsound := reachable_sound h
  have hhas : s.providers.Has p := by
    obtain ⟨q, hname, hq⟩ := Option.map_eq_some_iff.1 hp
    exact hq ▸ hsound.names.providers provider q hname
  have hstart := waiting_blank h huntouched (hsound.names.registrations registration r hr) hhas
  -- both offers lead to the ledger of the first steps without their samples
  have hinside : Live s.directory r (s.registration r).deferred p inside
      ((Ledger.blank s).after (before.filter fun x => !x.samples)) := by
    have hwaiting := (hstart.run depth processWide hbefore).offer depth processWide hr hp
    have hsplit : inside = (Scenario.step depth processWide
        (Scenario.after depth processWide s before) offer).2 := by
      simp only [inside, Scenario.after, List.foldl_append, List.foldl_cons, List.foldl_nil]
    rw [hsplit]
    exact hwaiting
  have hfirst : Live s.directory r (s.registration r).deferred p first
      ((Ledger.blank s).after (before.filter fun x => !x.samples)) :=
    ((hstart.offer depth processWide hr hp).run depth processWide fun x hx =>
      hbefore x (List.mem_of_mem_filter hx)).2
  obtain ⟨hreplies, hend⟩ := hinside.run depth processWide hlater
  obtain ⟨hreplies', hend'⟩ := hfirst.run depth processWide hlater
  refine ⟨hreplies.trans hreplies'.symm, ?_, hend.slot, hend'.slot⟩
  rw [hend.backend, hend'.backend]

/-- A registration, its deferred provider by a name, a recording provider, and a callback that adds
to a counter. -/
def Store.untouched : Store :=
  Scenario.after 1 none (.initial .empty)
    [.registration "r" none (.settings []) none,
      .provider "d" (.deferredOf "r"),
      .provider "p" .recording,
      .callback "c" .function [.batch [⟨.ofNat 1, .empty⟩], .absent] [⟨"i", 3, .empty⟩]]

theorem reachable_untouched : Reachable .untouched := .after _ _ (.initial _) (by decide)

theorem untouched_untouched : Store.untouched.Untouched ⟨0⟩ ⟨1⟩ where
  deferred := rfl
  idle := nofun
  fresh := rfl
  meters := rfl
  instruments := rfl

theorem offer_independent_untouched :
    let before : List Step := [.getMeter "r" "m" (.named "kept"),
      .create "m" "i" .counter (.named "hits") none, .add "i" 5 .empty,
      .create "m" "g" .observableGauge (.named "load") (some "c"), .observe "g"]
    let later : List Step := [.add "i" 7 .empty, .observe "g", .meter "d" "n" (.named "late")]
    let offer := Step.setProvider "r" "p"
    let inside := Scenario.after 1 none .untouched (before ++ [offer])
    let first := Scenario.after 1 none .untouched (offer :: before.filter fun x => !x.samples)
    Scenario.runFrom 1 none inside later = Scenario.runFrom 1 none first later ∧
      (Scenario.after 1 none inside later).backend ⟨1⟩ =
        (Scenario.after 1 none first later).backend ⟨1⟩ ∧
      ((Scenario.after 1 none inside later).registration ⟨0⟩).provider = some ⟨1⟩ ∧
      ((Scenario.after 1 none first later).registration ⟨0⟩).provider = some ⟨1⟩ :=
  offer_independent reachable_untouched untouched_untouched (by decide +kernel)
    (by decide +kernel) 1 none (by decide +kernel) (by decide +kernel)

end DeferredMetrics
