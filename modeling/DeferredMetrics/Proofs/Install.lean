import DeferredMetrics.Proofs.SoundBinding

set_option autoImplicit false

/-! # What an installation leaves

The registration of a provider in a sound store ends in one of five ways (`Installs`): it comes too
late, it takes effect, or the chain of targets becomes circular, with an answer or without one, or
was circular already. The store stays sound in all of them, and as long as no chain is circular,
the gate, the provider that was written down and the target of the deferred provider agree
(`Agreed`). -/

namespace DeferredMetrics

namespace Store

/-- The store after `assign` and what is shown when an installation is over. -/
def finish (s : Store) (r : RegistrationRef) (discovered : Bool) : Store :=
  (s.log (.installed discovered)).withGate r .passed

end Store

/-- The ways in which the installation of `p` in the registration `r` ends. -/
inductive Installs (r : RegistrationRef) (p : ProviderRef) (discovered : Bool) (s : Store) :
    EStateM.Result Halt Store Bool → Prop where
  /-- The gate has fired. -/
  | late (hgate : (s.gate r).fired = true) :
      Installs r p discovered s (.ok false (if discovered then s else s.log .refused))
  /-- The provider takes effect. -/
  | effective {e : ProviderRef} {s' : Store} (hgate : (s.gate r).fired = false)
      (hwait : s.ProviderWaits (s.registration r).deferred) (he : s.providerEnd? p = some e)
      (hne : e ≠ (s.registration r).deferred)
      (h : Shown ((s.writeProvider r p).bindProvider (s.registration r).deferred p e) s') :
      Installs r p discovered s (.ok true (s'.finish r discovered))
  /-- The chain was circular before: the deferred provider has a target, and the gate has not
  fired. -/
  | again (hgate : (s.gate r).fired = false)
      (htarget : (s.provider (s.registration r).deferred).target?.isSome = true) :
      Installs r p discovered s (.ok true
        ((((s.writeProvider r p).note (.bindProvider (s.registration r).deferred p)).log
          .providerAlreadyBound).finish r discovered))
  /-- The chain becomes circular, and no meter waits. -/
  | idle (hgate : (s.gate r).fired = false)
      (htarget : (s.provider (s.registration r).deferred).target? = none)
      (hcircular : ∀ e, s.providerEnd? p = some e → e = (s.registration r).deferred)
      (hmeters : (s.provider (s.registration r).deferred).meters = []) :
      Installs r p discovered s
        (.ok true (((s.assign r p).log (.providerBound 0 0)).finish r discovered))
  /-- The chain becomes circular, and the request for the first meter waits for itself. -/
  | stuck (scope : Scope) (hgate : (s.gate r).fired = false)
      (htarget : (s.provider (s.registration r).deferred).target? = none)
      (hcircular : ∀ e, s.providerEnd? p = some e → e = (s.registration r).deferred)
      (hmeters : (s.provider (s.registration r).deferred).meters ≠ []) :
      Installs r p discovered s (.error .waiting ((s.assign r p).note (.meter p scope)))

namespace Store

variable {s : Store}

/-- A chain that ends in a later store has an end before. -/
theorem ends_of_later {s' : Store} (hlater : Later s s') {p : ProviderRef}
    (h : (s'.providerEnd? p).isSome = true) : (s.providerEnd? p).isSome = true := by
  obtain ⟨e', he'⟩ := Option.isSome_iff_exists.1 h
  have htarget : ∀ x y, (s.provider x).target? = some y → (s'.provider x).target? = some y :=
    fun x y hxy => (hlater.provider (has_of_providerTarget hxy)).target y hxy
  obtain ⟨e, he⟩ := DeferredMetrics.ends_of_later htarget ⟨e', providerEnd?_eq_some.1 he'⟩
  exact Option.isSome_iff_exists.2 ⟨e, providerEnd?_eq_some.2 he⟩

theorem target?_assign {r : RegistrationRef} {p : ProviderRef}
    (hknown : s.providers.Has (s.registration r).deferred)
    (hdeferred : (s.provider (s.registration r).deferred).isDeferred = true) (q : ProviderRef) :
    ((s.assign r p).provider q).target? =
      if q = (s.registration r).deferred then some p else (s.provider q).target? := by
  show ((s.providers.update _ _).get q).target? = _
  by_cases hq : q = (s.registration r).deferred
  · rw [hq, Table.get_update_self _ _ hknown, if_pos rfl]
    cases hd : s.provider (s.registration r).deferred with
    | deferred x => simp [show s.providers.get _ = _ from hd, Provider.bind, Provider.target?]
    | _ => simp [hd, Provider.isDeferred] at hdeferred
  · rw [Table.get_update_of_ne _ _ (Ne.symm hq), if_neg hq]
    rfl

/-- A provider that leads back makes the chain of the deferred provider circular. -/
theorem providerEnd?_assign_of_circular {r : RegistrationRef} {p : ProviderRef}
    (hknown : s.providers.Has (s.registration r).deferred)
    (hdeferred : (s.provider (s.registration r).deferred).isDeferred = true)
    (htarget : (s.provider (s.registration r).deferred).target? = none)
    (hcircular : ∀ e, s.providerEnd? p = some e → e = (s.registration r).deferred) :
    (s.assign r p).providerEnd? (s.registration r).deferred = none ∧
      (s.assign r p).providerEnd? p = none := by
  have hlater : Later s (s.assign r p) := .assign p htarget
  have hnext : ((s.assign r p).provider (s.registration r).deferred).target? = some p := by
    rw [target?_assign hknown hdeferred, if_pos rfl]
  have hnot : ∀ e, (s.assign r p).providerEnd? (s.registration r).deferred ≠ some e := by
    intro e he
    have hends : ((s.assign r p).providerEnd? p).isSome = true := by
      have hp := chase_of_leads (Leads.mono (fun _ _ h => h) (.single hnext)) he
      exact Option.isSome_iff_exists.2 ⟨e, hp⟩
    obtain ⟨e₀, he₀⟩ := Option.isSome_iff_exists.1 (ends_of_later hlater hends)
    have hback : s.HandsOn p (s.registration r).deferred :=
      hcircular e₀ he₀ ▸ (providerEnd?_eq_some.1 he₀).1
    -- from the deferred provider to `p` and back
    refine not_leads_back hnext he (hback.mono ?_)
    exact fun x y hxy => (hlater.provider (has_of_providerTarget hxy)).target y hxy
  have hself : (s.assign r p).providerEnd? (s.registration r).deferred = none :=
    Option.eq_none_iff_forall_ne_some.2 hnot
  refine ⟨hself, Option.eq_none_iff_forall_ne_some.2 fun e he => hnot e ?_⟩
  exact providerEnd?_eq_some.2 ((providerEnd?_eq_some.1 he).head hnext)

end Store

namespace Op

variable {s : Store} {r : RegistrationRef} {p : ProviderRef}

/-- What `install` does once the gate is not fired, in terms of what binding the provider does. -/
theorem install_of_bind {s' : Store} (discovered : Bool) (hgate : (s.gate r).fired = false)
    (h : bindProvider (s.registration r).deferred p (s.writeProvider r p) = .ok () s') :
    install r p discovered s = .ok true (s'.finish r discovered) := by
  have hdeferred :
      ((s.writeProvider r p).registration r).deferred = (s.registration r).deferred := by
    rw [Store.writeProvider, Store.registration_updateRegistration]
    split <;> rfl
  have heffect : takeEffect r p discovered s = .ok () (s'.log (.installed discovered)) := by
    rw [takeEffect, bind_of_ok (modify_run _ s), bind_of_ok (get_run _), hdeferred, bind_of_ok h]
    rfl
  rw [install, bind_of_ok (Gate.callOnce_of_ok hgate heffect)]
  rfl

theorem install_of_halt {s' : Store} {halt : Halt} (discovered : Bool)
    (hgate : (s.gate r).fired = false)
    (h : bindProvider (s.registration r).deferred p (s.writeProvider r p) = .error halt s') :
    install r p discovered s = .error halt s' := by
  have hdeferred :
      ((s.writeProvider r p).registration r).deferred = (s.registration r).deferred := by
    rw [Store.writeProvider, Store.registration_updateRegistration]
    split <;> rfl
  have heffect : takeEffect r p discovered s = .error halt s' := by
    rw [takeEffect, bind_of_ok (modify_run _ s), bind_of_ok (get_run _), hdeferred, bind_of_error h]
  rw [install, bind_of_error (Gate.callOnce_of_error hgate heffect)]

/-- A provider that is bound already only says so. -/
theorem bindProvider_of_bound {d : ProviderRef} (h : (s.provider d).target?.isSome = true) :
    bindProvider d p s = .ok () ((s.note (.bindProvider d p)).log .providerAlreadyBound) := by
  rw [bindProvider, bind_of_ok (note_run _ _), bind_of_ok (get_run _)]
  exact (congrFun (if_pos h) _).trans rfl

/-- One that waits gets its target, and then its meters are asked for. -/
theorem bindProvider_of_waiting (h : (s.provider (s.registration r).deferred).target? = none) :
    bindProvider (s.registration r).deferred p (s.writeProvider r p) =
      (countIsolated .meter meterName (rebindMeter p)
        (s.provider (s.registration r).deferred).meters >>= fun rebound =>
          log (.providerBound rebound (s.provider (s.registration r).deferred).meters.length))
        (s.assign r p) := by
  have hunbound : ¬ (((s.writeProvider r p).note (.bindProvider (s.registration r).deferred p)
      ).provider (s.registration r).deferred).target?.isSome = true := by
    rw [show (((s.writeProvider r p).note _).provider (s.registration r).deferred).target? = none
      from h]
    exact Bool.false_ne_true
  rw [bindProvider, bind_of_ok (note_run _ _), bind_of_ok (get_run _)]
  refine (congrFun (if_neg hunbound) _).trans ?_
  rw [bind_of_ok (modify_run _ _)]
  rfl

/-- Where the chain has no end, the first meter waits for ever. -/
theorem countIsolated_of_circular (h : s.providerEnd? p = none) (m : MeterRef)
    (ms : List MeterRef) : countIsolated .meter meterName (rebindMeter p) (m :: ms) s =
      .error .waiting (s.note (.meter p (s.meter m).scope)) := by
  have hhead : rebindMeter p m s = .error .waiting (s.note (.meter p (s.meter m).scope)) := by
    rw [rebindMeter, bind_of_ok (get_run _), bind_of_error (requestMeter_of_none _ h)]
  rw [countIsolated, bind_of_ok (meterName_run m _)]
  refine bind_of_error ?_
  simp [isolated, hhead]

/-- An installation in a sound store ends in one of the five ways. -/
theorem installs (h : Sound s) (hr : s.registrations.Has r) (discovered : Bool) :
    Installs r p discovered s (install r p discovered s) := by
  have hknown := h.owners.known r hr
  have hdeferred := h.owners.deferred r hr
  cases hgate : (s.gate r).fired with
  | true =>
      have hrun : install r p discovered s =
          .ok false (if discovered then s else s.log .refused) := by
        cases discovered with
        | true => exact install_of_fired p hgate
        | false => exact setProvider_of_fired p hgate
      rw [hrun]
      exact .late hgate
  | false =>
      cases htarget : (s.provider (s.registration r).deferred).target? with
      | some t =>
          have hbound : (s.provider (s.registration r).deferred).target?.isSome = true := by
            rw [htarget]
            rfl
          rw [install_of_bind discovered hgate (bindProvider_of_bound hbound)]
          exact .again hgate hbound
      | none =>
          have hwait := h.providerWaits hknown hdeferred htarget
          by_cases hend : ∃ e, s.providerEnd? p = some e ∧ e ≠ (s.registration r).deferred
          · obtain ⟨e, he, hne⟩ := hend
            obtain ⟨s', hs', hrun⟩ := install_run discovered hgate hwait he hne
            rw [hrun]
            exact .effective hgate hwait he hne hs'.shown
          · -- the provider leads back, or to no end: the first meter that is asked for gets no answer
            have hcircular : ∀ e, s.providerEnd? p = some e → e = (s.registration r).deferred :=
              fun e he => by_contra fun hne => hend ⟨e, he, hne⟩
            have hnone :=
              (Store.providerEnd?_assign_of_circular hknown hdeferred htarget hcircular).2
            have hstart := bindProvider_of_waiting (p := p) htarget
            cases hms : (s.provider (s.registration r).deferred).meters with
            | nil =>
                rw [hms] at hstart
                rw [install_of_bind discovered hgate (hstart.trans rfl)]
                exact .idle hgate htarget hcircular hms
            | cons m ms =>
                rw [hms] at hstart
                have hcount := countIsolated_of_circular hnone m ms
                rw [install_of_halt discovered hgate (hstart.trans (bind_of_error hcount))]
                exact .stuck _ hgate htarget hcircular (by simp [hms])

end Op

/-! ## Soundness -/

namespace Store

variable {s t : Store} {r : RegistrationRef} {p : ProviderRef}

theorem later_finish (t : Store) (r : RegistrationRef) (discovered : Bool) :
    Later t (t.finish r discovered) :=
  (Later.log t (.installed discovered)).trans (.updateRegistration ⟨rfl, fun _ => rfl⟩)

theorem sound_finish (h : Sound t) (r : RegistrationRef) (discovered : Bool) :
    Sound (t.finish r discovered) :=
  (h.log _).updateRegistration ⟨rfl, rfl⟩ ⟨rfl, fun _ => rfl⟩

/-- Binding the deferred provider of `r` is assigning its target and trying its meters. -/
theorem bindProvider_eq_tryMeters (s : Store) (r : RegistrationRef) (p e : ProviderRef) :
    ∃ m : Message, (Event.log m).isDecision = false ∧
      (s.writeProvider r p).bindProvider (s.registration r).deferred p e =
        ((s.assign r p).tryMeters p e (s.provider (s.registration r).deferred).meters).log m :=
  ⟨_, rfl, rfl⟩

/-- The meters that waited in `s` wait after `assign` too, and the chain from `p` has the same end.
-/
theorem ready_assign {e : ProviderRef} (hwait : s.ProviderWaits (s.registration r).deferred)
    (he : s.providerEnd? p = some e) (hne : e ≠ (s.registration r).deferred) :
    (s.assign r p).AllWait (s.provider (s.registration r).deferred).meters ∧
      (s.assign r p).providerEnd? p = some e :=
  ⟨hwait.meters.congr rfl rfl, providerEnd?_bind
    (s := (s.writeProvider r p).note (.bindProvider (s.registration r).deferred p))
    hwait.target? he hne p⟩

/-- Binding the deferred provider of a registration to a known provider keeps a store sound, and
takes nothing back. -/
theorem sound_bindProvider (h : Sound s) {e : ProviderRef} (hr : s.registrations.Has r)
    (hp : s.providers.Has p) (hwait : s.ProviderWaits (s.registration r).deferred)
    (he : s.providerEnd? p = some e) (hne : e ≠ (s.registration r).deferred) :
    Sound ((s.writeProvider r p).bindProvider (s.registration r).deferred p e) ∧
      Later s ((s.writeProvider r p).bindProvider (s.registration r).deferred p e) := by
  obtain ⟨m, _, heq⟩ := bindProvider_eq_tryMeters s r p e
  obtain ⟨hready, hend⟩ := ready_assign hwait he hne
  have hknown := h.owners.known r hr
  have hassigned := h.assign (r := r) hp hwait.target?
  have htarget : ((s.assign r p).provider (s.registration r).deferred).target? = some p := by
    rw [target?_assign hknown (h.owners.deferred r hr), if_pos rfl]
  have hissuer : ∀ m ∈ (s.provider (s.registration r).deferred).meters,
      ((s.assign r p).meter m).issuer = some (s.registration r).deferred :=
    fun _ hm => (h.issued_of_mem_meters (h.owners.deferred r hr) hm).2
  obtain ⟨hsound, hlater⟩ := hassigned.tryMeters hready hissuer htarget hend
  rw [heq]
  exact ⟨hsound.log m, ((Later.assign p hwait.target?).trans hlater).trans (.log _ m)⟩

end Store

namespace Op

variable {s : Store} {r : RegistrationRef} {p : ProviderRef}

/-- An installation keeps a store sound, and takes nothing back. -/
theorem sound_install (h : Sound s) (hr : s.registrations.Has r) (hp : s.providers.Has p)
    (discovered : Bool) :
    Sound ((install r p discovered).left s) ∧ Later s ((install r p discovered).left s) := by
  have hwritten := h.writeProvider (r := r) hp
  have hlater : Later s (s.writeProvider r p) := .updateRegistration ⟨rfl, fun h => h⟩
  have hinstalls := installs (p := p) h hr discovered
  generalize hrun : install r p discovered s = result at hinstalls
  cases hinstalls with
  | late hgate =>
      rw [left_of_ok hrun]
      split
      · exact ⟨h, .refl s⟩
      · exact ⟨h.log _, .log s _⟩
  | effective hgate hwait he hne hshown =>
      obtain ⟨hsound, hlater⟩ := Store.sound_bindProvider h hr hp hwait he hne
      rw [left_of_ok hrun]
      exact ⟨Store.sound_finish (hsound.shown hshown) r discovered,
        (hlater.trans (.of_shown hshown)).trans (Store.later_finish _ r discovered)⟩
  | again hgate htarget =>
      rw [left_of_ok hrun]
      exact ⟨Store.sound_finish ((hwritten.note (by simp)).log _) r discovered,
        (hlater.trans ((Later.note _ _).trans (.log _ _))).trans
        (Store.later_finish _ r discovered)⟩
  | idle hgate htarget hcircular =>
      rw [left_of_ok hrun]
      exact ⟨Store.sound_finish ((h.assign hp htarget).log _) r discovered,
        ((Later.assign p htarget).trans (.log _ _)).trans (Store.later_finish _ r discovered)⟩
  | stuck scope hgate htarget hcircular =>
      rw [left_of_error hrun]
      exact ⟨(h.assign hp htarget).note (by simp), (Later.assign p htarget).trans (.note _ _)⟩

end Op

/-! ## Agreement -/

namespace Store

variable {s t : Store} {r r₀ : RegistrationRef} {p : ProviderRef}

/-- The gate of the registration `r`, the provider that it has written down and the target of its
deferred provider agree. -/
structure AgreesOn (s : Store) (r : RegistrationRef) : Prop where
  target : (s.provider (s.registration r).deferred).target? = (s.registration r).provider
  gate : (s.gate r).fired = (s.registration r).provider.isSome

/-- The three agree for every registration from whose deferred provider the chain is not circular.
-/
def Agreed (s : Store) : Prop :=
  ∀ r, s.registrations.Has r → (s.providerEnd? (s.registration r).deferred).isSome = true →
    s.AgreesOn r

theorem AgreesOn.congr (h : s.AgreesOn r)
    (hdeferred : (t.registration r).deferred = (s.registration r).deferred)
    (hslot : (t.registration r).provider = (s.registration r).provider)
    (hgate : t.gate r = s.gate r)
    (htarget : (t.provider (s.registration r).deferred).target? =
      (s.provider (s.registration r).deferred).target?) : t.AgreesOn r := by
  refine ⟨?_, ?_⟩
  · rw [hdeferred, hslot, htarget]
    exact h.target
  · rw [hgate, hslot]
    exact h.gate

/-- The registrations after `r` has written `p` down and finished. -/
theorem registration_finish (r₀ : RegistrationRef) (hr : s.registrations.Has r)
    (hregistrations : t.registrations = (s.writeProvider r p).registrations) (discovered : Bool) :
    (t.finish r discovered).registration r₀ =
      if r₀ = r then { s.registration r with provider := some p, gate := .passed }
      else s.registration r₀ := by
  show (t.registrations.update r _).get r₀ = _
  have hrows : t.registrations = s.registrations.update r fun o => { o with provider := some p } :=
    hregistrations
  rw [hrows, Table.update_update, Table.get_update_ite _ _ hr]
  by_cases heq : r₀ = r
  · subst heq
    rfl
  · rw [if_neg heq, if_neg heq]
    rfl

theorem registrations_bindProvider (s : Store) (r : RegistrationRef) (p e : ProviderRef) :
    ((s.writeProvider r p).bindProvider (s.registration r).deferred p e).registrations =
      (s.writeProvider r p).registrations :=
  (Aside.bindProvider (s.writeProvider r p) _ p e).registrations

theorem target?_bindProvider {e : ProviderRef} (h : Sound s) (hr : s.registrations.Has r)
    (hwait : s.ProviderWaits (s.registration r).deferred) (he : s.providerEnd? p = some e)
    (hne : e ≠ (s.registration r).deferred) (q : ProviderRef) :
    (((s.writeProvider r p).bindProvider (s.registration r).deferred p e).provider q).target? =
      if q = (s.registration r).deferred then some p else (s.provider q).target? := by
  obtain ⟨m, _, heq⟩ := bindProvider_eq_tryMeters s r p e
  rw [heq, ← target?_assign (h.owners.known r hr) (h.owners.deferred r hr)]
  exact providerTarget_tryMeters (ready_assign hwait he hne).1 q

/-- The stores agree in what belongs to other registrations than `r`. -/
structure Elsewhere (r : RegistrationRef) (s s' : Store) : Prop where
  has : ∀ r₀, s'.registrations.Has r₀ ↔ s.registrations.Has r₀
  registration : ∀ r₀, r₀ ≠ r → s'.registration r₀ = s.registration r₀
  target : ∀ q, q ≠ (s.registration r).deferred → (s'.provider q).target? = (s.provider q).target?

theorem Elsewhere.write (hregistrations : t.registrations = (s.writeProvider r p).registrations)
    (htarget : ∀ q, q ≠ (s.registration r).deferred →
      (t.provider q).target? = (s.provider q).target?) : Elsewhere r s t := by
  refine ⟨fun r₀ => ?_, fun r₀ hne => ?_, htarget⟩
  · rw [hregistrations]
    exact Table.has_update _ _ _ _
  · show t.registrations.get r₀ = _
    rw [hregistrations]
    exact Table.get_update_of_ne _ _ (Ne.symm hne)

theorem Elsewhere.finish (h : Elsewhere r s t) (discovered : Bool) :
    Elsewhere r s (t.finish r discovered) := by
  refine ⟨fun r₀ => ?_, fun r₀ hne => ?_, h.target⟩
  · exact (Table.has_update _ _ _ _).trans (h.has r₀)
  · exact (Table.get_update_of_ne _ _ (Ne.symm hne)).trans (h.registration r₀ hne)

/-- After a registration has finished, it agrees on the provider that it has written down. -/
theorem agreesOn_finish (hr : s.registrations.Has r)
    (hregistrations : t.registrations = (s.writeProvider r p).registrations)
    (htarget : (t.provider (s.registration r).deferred).target? = some p) (discovered : Bool) :
    (t.finish r discovered).AgreesOn r := by
  have hrow := registration_finish r hr hregistrations discovered
  rw [if_pos rfl] at hrow
  constructor
  · rw [hrow]
    exact htarget
  · rw [gate, hrow]
    rfl

end Store

namespace Op

variable {s : Store} {r : RegistrationRef} {p : ProviderRef}

/-- An installation leaves alone what belongs to other registrations. -/
theorem elsewhere_install (h : Sound s) (hr : s.registrations.Has r) (discovered : Bool) :
    Store.Elsewhere r s ((install r p discovered).left s) := by
  have htarget := Store.target?_assign (p := p) (h.owners.known r hr) (h.owners.deferred r hr)
  have hassign : Store.Elsewhere r s (s.assign r p) :=
    .write (p := p) rfl fun q hq => (htarget q).trans (if_neg hq)
  have hinstalls := installs (p := p) h hr discovered
  generalize hrun : install r p discovered s = result at hinstalls
  cases hinstalls with
  | late hgate =>
      rw [left_of_ok hrun]
      split <;> exact ⟨fun _ => .rfl, fun _ _ => rfl, fun _ _ => rfl⟩
  | effective hgate hwait he hne hshown =>
      rw [left_of_ok hrun]
      refine .finish (.write (p := p) ?_ fun q hq => ?_) discovered
      · exact hshown.registrations.trans (Store.registrations_bindProvider s r p _)
      · rw [hshown.provider, Store.target?_bindProvider h hr hwait he hne, if_neg hq]
  | again hgate hbound =>
      rw [left_of_ok hrun]
      have hwritten : Store.Elsewhere r s (((s.writeProvider r p).note
          (.bindProvider (s.registration r).deferred p)).log .providerAlreadyBound) :=
        .write (p := p) rfl fun _ _ => rfl
      exact hwritten.finish discovered
  | idle hgate hnone hcircular =>
      rw [left_of_ok hrun]
      have hlogged : Store.Elsewhere r s ((s.assign r p).log (.providerBound 0 0)) :=
        ⟨hassign.has, hassign.registration, hassign.target⟩
      exact hlogged.finish discovered
  | stuck scope hgate hnone hcircular =>
      rw [left_of_error hrun]
      exact ⟨hassign.has, hassign.registration, hassign.target⟩

/-- An installation calls no callback, and gives no names to registrations. -/
theorem aside_install (h : Sound s) (hr : s.registrations.Has r) (discovered : Bool) :
    ((install r p discovered).left s).callbacks = s.callbacks ∧
      ((install r p discovered).left s).directory.registrations = s.directory.registrations := by
  have hinstalls := installs (p := p) h hr discovered
  generalize hrun : install r p discovered s = result at hinstalls
  cases hinstalls with
  | late hgate =>
      rw [left_of_ok hrun]
      split <;> exact ⟨rfl, rfl⟩
  | effective hgate hwait he hne hshown =>
      have haside := (Aside.bindProvider (s.writeProvider r p) _ p _).trans hshown.aside
      rw [left_of_ok hrun]
      exact ⟨haside.callbacks, haside.roster⟩
  | again hgate hbound =>
      rw [left_of_ok hrun]
      exact ⟨rfl, rfl⟩
  | idle hgate hnone hcircular =>
      rw [left_of_ok hrun]
      exact ⟨rfl, rfl⟩
  | stuck scope hgate hnone hcircular =>
      rw [left_of_error hrun]
      exact ⟨rfl, rfl⟩

/-- Where a registration agrees and no circle is left, an installation is too late or takes effect.
-/
theorem install_of_end (h : Sound s) (hr : s.registrations.Has r) (discovered : Bool)
    (hagrees : s.AgreesOn r)
    (hend : (((install r p discovered).left s).providerEnd? (s.registration r).deferred).isSome) :
    ((s.gate r).fired = true ∧
      install r p discovered s = .ok false (if discovered then s else s.log .refused)) ∨
    ∃ e s', s.ProviderWaits (s.registration r).deferred ∧ s.providerEnd? p = some e ∧
      e ≠ (s.registration r).deferred ∧
      Shown ((s.writeProvider r p).bindProvider (s.registration r).deferred p e) s' ∧
      install r p discovered s = .ok true (s'.finish r discovered) := by
  have hcircle := Store.providerEnd?_assign_of_circular (p := p) (h.owners.known r hr)
    (h.owners.deferred r hr)
  have hinstalls := installs (p := p) h hr discovered
  generalize hrun : install r p discovered s = result at hinstalls
  cases hinstalls with
  | late hgate => exact .inl ⟨hgate, rfl⟩
  | @effective e s' hgate hwait he hne hshown => exact .inr ⟨e, s', hwait, he, hne, hshown, rfl⟩
  | again hgate hbound =>
      -- the target says that a provider was written down, and the gate that none was
      rw [hagrees.target, ← hagrees.gate, hgate] at hbound
      cases hbound
  | idle hgate hnone hcircular =>
      rw [left_of_ok hrun] at hend
      change ((s.assign r p).providerEnd? (s.registration r).deferred).isSome = true at hend
      rw [(hcircle hnone hcircular).1] at hend
      cases hend
  | stuck scope hgate hnone hcircular =>
      rw [left_of_error hrun] at hend
      change ((s.assign r p).providerEnd? (s.registration r).deferred).isSome = true at hend
      rw [(hcircle hnone hcircular).1] at hend
      cases hend

/-- After an installation that leaves no circle, the registration agrees on its provider. -/
theorem agreesOn_install (h : Sound s) (hr : s.registrations.Has r) (discovered : Bool)
    (hagrees : s.AgreesOn r)
    (hend : (((install r p discovered).left s).providerEnd? (s.registration r).deferred).isSome) :
    ((install r p discovered).left s).AgreesOn r := by
  rcases install_of_end h hr discovered hagrees hend
      with ⟨_, hrun⟩ | ⟨e, s', hwait, he, hne, hs', hrun⟩
  · rw [left_of_ok hrun]
    split
    · exact hagrees
    · exact hagrees.congr rfl rfl rfl rfl
  · rw [left_of_ok hrun]
    refine Store.agreesOn_finish (p := p) hr ?_ ?_ discovered
    · exact hs'.registrations.trans (Store.registrations_bindProvider s r p e)
    · rw [hs'.provider, Store.target?_bindProvider h hr hwait he hne, if_pos rfl]

theorem agreed_install (h : Sound s) (hagreed : s.Agreed) (hr : s.registrations.Has r)
    (hp : s.providers.Has p) (discovered : Bool) : ((install r p discovered).left s).Agreed := by
  obtain ⟨_, hlater⟩ := sound_install h hr hp discovered
  have helse := elsewhere_install (p := p) h hr discovered
  intro r₀ hhas' hend
  have hhas := (helse.has r₀).1 hhas'
  have hdeferred := (hlater.registration hhas).deferred
  rw [hdeferred] at hend
  have hbefore := hagreed r₀ hhas (Store.ends_of_later hlater hend)
  by_cases heq : r₀ = r
  · subst heq
    exact agreesOn_install h hr discovered hbefore hend
  · have hrow := helse.registration r₀ heq
    have hother : (s.registration r₀).deferred ≠ (s.registration r).deferred :=
      fun hd => heq (h.owners.distinct r₀ r hhas hr hd)
    exact hbefore.congr hdeferred (by rw [hrow]) (congrArg Registration.gate hrow)
      (helse.target _ hother)

end Op

end DeferredMetrics
