import DeferredMetrics.Proofs.Performing

set_option autoImplicit false

/-! # Registrations without a provider

As long as a registration has no provider, its gate has not fired and its deferred provider is
unbound. `Undecided` says so of one registration; it holds of all registrations of every store that
can be reached (`Reachable.undecided`), those with circular chains included, of which agreement says
nothing. -/

namespace DeferredMetrics

namespace Store

/-- If the registration has no provider, its gate has not fired and its deferred provider is
unbound. -/
def Undecided (s : Store) (r : RegistrationRef) : Prop :=
  (s.registration r).provider = none →
    (s.gate r).fired = false ∧ (s.provider (s.registration r).deferred).target? = none

theorem Undecided.congr {s s' : Store} {r : RegistrationRef} (h : s.Undecided r)
    (hrests : (s.registration r).Rests (s'.registration r))
    (htarget : (s'.provider (s.registration r).deferred).target? =
      (s.provider (s.registration r).deferred).target?) : s'.Undecided r := by
  intro hslot
  obtain ⟨hgate, hnone⟩ := h (hrests.provider ▸ hslot)
  refine ⟨(congrArg Gate.fired hrests.gate).trans hgate, ?_⟩
  rw [hrests.deferred, htarget]
  exact hnone

theorem undecided_of_some {s : Store} {r : RegistrationRef} {p : ProviderRef}
    (h : (s.registration r).provider = some p) : s.Undecided r := by
  intro hslot
  rw [h] at hslot
  cases hslot

/-- Whatever becomes of an installation, it has written its provider down, or it has come too late
and has changed nothing. -/
theorem undecided_install {s : Store} {r : RegistrationRef} {p : ProviderRef} (h : Sound s)
    (hr : s.registrations.Has r) (discovered : Bool) (hbefore : s.Undecided r) :
    ((Op.install r p discovered).left s).Undecided r := by
  have hwritten : ∀ {t : Store}, t.registrations = (s.writeProvider r p).registrations →
      (t.finish r discovered).Undecided r := fun ht =>
    undecided_of_some (p := p)
      (by rw [registration_finish r hr ht discovered, if_pos rfl])
  have hinstalls := Op.installs (p := p) h hr discovered
  generalize hrun : Op.install r p discovered s = result at hinstalls
  cases hinstalls with
  | late hgate =>
      rw [Op.left_of_ok hrun]
      split
      · exact hbefore
      · exact hbefore.congr ⟨rfl, rfl, rfl⟩ rfl
  | effective hgate hwait he hne hshown =>
      rw [Op.left_of_ok hrun]
      exact hwritten (hshown.registrations.trans (registrations_bindProvider s r p _))
  | again hgate htarget =>
      rw [Op.left_of_ok hrun]
      exact hwritten rfl
  | idle hgate htarget hcircular =>
      rw [Op.left_of_ok hrun]
      exact hwritten rfl
  | stuck scope hgate htarget hcircular =>
      -- it waits for ever, but not before the provider was written down
      rw [Op.left_of_error hrun]
      refine undecided_of_some (p := p) ?_
      show ((s.writeProvider r p).registration r).provider = some p
      rw [writeProvider, registration_updateRegistration, if_pos ⟨rfl, hr⟩]

/-- An installation keeps that registrations without a provider have decided nothing. -/
theorem undecided_of_install {s : Store} {r₀ : RegistrationRef} {p : ProviderRef} (h : Sound s)
    (hr₀ : s.registrations.Has r₀) (discovered : Bool)
    (hbefore : ∀ r, s.registrations.Has r → s.Undecided r) :
    ∀ r, ((Op.install r₀ p discovered).left s).registrations.Has r →
      ((Op.install r₀ p discovered).left s).Undecided r := by
  have helse := Op.elsewhere_install (p := p) h hr₀ discovered
  intro r hr
  have hknown := (helse.has r).1 hr
  by_cases heq : r = r₀
  · subst heq
    exact undecided_install h hr₀ discovered (hbefore r hr₀)
  · have hrow := helse.registration r heq
    refine (hbefore r hknown).congr (by rw [hrow]; exact ⟨rfl, rfl, rfl⟩) (helse.target _ ?_)
    exact fun hd => heq (h.owners.distinct r r₀ hknown hr₀ hd)

end Store

/-- Every change keeps that registrations without a provider have decided nothing. -/
theorem Change.undecided {s s' : Store} (h : Sound s) (hchange : Change s s')
    (hbefore : ∀ r, s.registrations.Has r → s.Undecided r) :
    ∀ r, s'.registrations.Has r → s'.Undecided r := by
  cases hchange with
  | calm hcalm =>
      intro r hr
      have hknown := (hcalm.has r).1 hr
      exact (hbefore r hknown).congr (hcalm.registration r)
        (hcalm.target _ (h.owners.known r hknown))
  | install discovered hr₀ hp =>
      exact Store.undecided_of_install h (h.names.registrations _ _ hr₀) discovered hbefore
  | register discovery =>
      have hrow := s.registration_makeRegistration discovery
      intro r hr
      by_cases heq : r = s.registrations.next
      · -- the new registration is ready, and so is its deferred provider
        intro _
        rw [Store.gate, hrow r, if_pos heq]
        exact ⟨rfl, s.target?_makeRegistration_next discovery⟩
      · have hknown := s.has_of_makeRegistration discovery hr heq
        have hold := (hrow r).trans (if_neg heq)
        exact (hbefore r hknown).congr (by rw [hold]; exact ⟨rfl, rfl, rfl⟩)
          (s.target?_makeRegistration discovery _)

theorem Reachable.undecided {s : Store} (h : Reachable s) {r : RegistrationRef}
    (hr : s.registrations.Has r) : s.Undecided r :=
  (h.induct (I := fun s => ∀ r, s.registrations.Has r → s.Undecided r)
    (fun _ _ hr => absurd hr (Nat.not_lt_zero _))
    fun _ _ hsound hbefore hchange => hchange.undecided hsound hbefore).2 r hr

end DeferredMetrics
