import DeferredMetrics.Proofs.Connected

set_option autoImplicit false

/-! # What is seen during an installation

The provider is written down before the deferred one is bound. So a thread may see it while handles
are not bound yet (`offered_seen`). A sample for such a handle is discarded until the binding has
come to it, and reaches the backend from then on; when everything is bound, no handle discards
(`published_of_comes`). -/

namespace DeferredMetrics

open Installation

/-- What other threads see of the registration `r` in which `p` is being installed, and what becomes
of the samples that they give. -/
structure Store.Published (start : Store) (r : RegistrationRef) (p : ProviderRef) (a : Handles)
    (m : Machine) : Prop where
  seen : m.step r p .look = (.seen (if m.phase = .before then none else some p), m)
  found : m.phase ≠ .before → ∀ depth, Op.getProvider depth r m.store = .ok (.ok p) m.store
  early : ∀ i, (Kin.below start (start.registration r).deferred).instruments i →
    a.kin.instruments i
  given : ∀ i, a.kin.instruments i →
    Discards m.store i ∨ ∃ j, start.Arrives m.store p i j
  bound : m.phase = .bound ∨ m.phase = .ended true →
    ∀ i, a.kin.instruments i → ∃ j, start.Arrives m.store p i j

namespace Installation

/-- Threads keep the instruments that they hold. -/
theorem Handles.instruments_take {a : Handles} {i : InstrumentRef} (h : a.kin.instruments i)
    (d : ProviderRef) (answer : Answer) : (a.take d answer).kin.instruments i := by
  cases answer with
  | instrument j => exact .inr h
  | _ => exact h

/-- Threads hold the instruments from before the installation all the time. -/
theorem Comes.early {r : RegistrationRef} {p : ProviderRef} {start : Store} {a : Handles}
    {m : Machine} (h : Comes r p start a m) {i : InstrumentRef}
    (hi : (Kin.below start (start.registration r).deferred).instruments i) :
    a.kin.instruments i := by
  induction h with
  | start => exact hi
  | step _ _ _ ih => exact Handles.instruments_take ih _ _

end Installation

namespace Beside

variable {start : Store} {r : RegistrationRef} {p : ProviderRef} {a : Handles} {m : Machine}

/-- Wherever the binding has come to, an instrument has been bound to one of the backend, or it
leads to one that the deferred provider has issued. -/
theorem given (hstart : start.Offered r p) (h : Beside start r p a m) {i : InstrumentRef}
    (hi : a.kin.instruments i) : Discards m.store i ∨ ∃ j, start.Arrives m.store p i j := by
  obtain ⟨own, hfamily⟩ := h.family
  have hown := hfamily.instruments.lines.own_of_held i hi
  obtain ⟨j, hend, _⟩ := hfamily.exists_instrumentEnd hown
  obtain ⟨hj, hrequest⟩ := hfamily.leads_request hown (Store.instrumentEnd?_eq_some.1 hend).1
  obtain ⟨_, q, hq, hissuer, _⟩ := hfamily.meters.known _ (hfamily.instruments.known j hj).2.1
  rcases hq with rfl | rfl
  · exact .inl (hfamily.discards hend hj hissuer (isDeferred hstart hfamily.later))
  · exact .inr ⟨j, hfamily.arrives (reachable_sound hstart.reachable) hend hj hrequest hissuer
      (backend hstart hfamily.later)⟩

end Beside

/-- Whoever looks when the provider `p` is written down sees it. A handle that any thread holds then
discards samples or gives them to `p` once, and gives them to `p` once when the deferred provider is
bound. -/
theorem published_of_comes {start : Store} {r : RegistrationRef} {p : ProviderRef} {a : Handles}
    {m : Machine} (hstart : start.Offered r p) (h : Comes r p start a m) :
    start.Published r p a m := by
  have hbeside := Beside.of_comes hstart h
  refine ⟨?_, fun hphase depth => ?_, fun i hi => h.early hi,
    fun i hi => hbeside.given hstart hi, fun hphase i hi => ?_⟩
  · rw [← hbeside.slot]
    rfl
  · exact Op.getProvider_of_some depth (hbeside.slot.trans (if_neg hphase))
  · have htarget : (m.store.provider (start.registration r).deferred).target? = some p := by
      refine hbeside.target.trans (if_neg ?_)
      rcases hphase with heq | heq <;> simp [heq]
    have hpending : m.phase.pending m.store = .nothing := by
      rcases hphase with heq | heq <;> rw [heq] <;> rfl
    obtain ⟨j, hj, _⟩ := (hbeside.connected hstart hpending htarget).instrument i hi
    exact ⟨j, hj⟩

/-- A thread sees the provider when it is written down, and a handle from before is not bound yet
and discards. -/
theorem offered_seen :
    ∃ a m, Comes ⟨0⟩ ⟨1⟩ .offered a m ∧ (m.step ⟨0⟩ ⟨1⟩ .look).1 = .seen (some ⟨1⟩) ∧
      (Kin.below .offered (Store.offered.registration ⟨0⟩).deferred).instruments ⟨0⟩ ∧
      Discards m.store ⟨0⟩ ∧ ∀ j, ¬ Store.offered.Arrives m.store ⟨1⟩ ⟨0⟩ j := by
  have hstart : Comes ⟨0⟩ ⟨1⟩ .offered _ ⟨.before, .offered⟩ := .start
  have hcomes := hstart.step .advance trivial
  have hend : (Machine.step ⟨0⟩ ⟨1⟩ ⟨.before, .offered⟩ .advance).2.store.instrumentEnd? ⟨0⟩ =
      some ⟨0⟩ := by decide +kernel
  refine ⟨_, _, hcomes, rfl, ⟨⟨0⟩, by decide +kernel, by decide +kernel⟩,
    Op.discards_of_end hend (by decide +kernel) (by decide +kernel), fun j hj => ?_⟩
  obtain rfl : ⟨0⟩ = j := Option.some.inj (hend.symm.trans hj.leads)
  exact absurd hj.new.issuer (by decide +kernel)

/-- A thread looks when the provider is written down, and then the installing thread gets
through. -/
theorem published_of_comes_offered :
    ∃ a m, Comes ⟨0⟩ ⟨1⟩ .offered a m ∧ m.phase = .ended true ∧
      Store.offered.Published ⟨0⟩ ⟨1⟩ a m := by
  have hstart : Comes ⟨0⟩ ⟨1⟩ .offered _ ⟨.before, .offered⟩ := .start
  have hseen := hstart |>.step .advance trivial |>.step .look trivial
  have hended := hseen |>.step .advance trivial |>.step .advance trivial |>.step .advance trivial
    |>.step .advance trivial |>.step .advance trivial |>.step .advance trivial
    |>.step .advance trivial |>.step .advance trivial
  exact ⟨_, _, hended, by decide +kernel, published_of_comes offered_offered hended⟩

end DeferredMetrics
