import DeferredMetrics.Store.Basic

set_option autoImplicit false

/-! # Ends of chains

A deferred object that is bound hands everything on to its target, which may be deferred itself.
Its *end* is the object that nothing is handed on from. There is none exactly if the chain of
targets is circular, and then an operation on it waits for itself. A chain passes the place that it
begins at and its end. -/

namespace DeferredMetrics

/-- Follow `next` from `x` as far as it leads, in at most `fuel` looks. -/
def chase {α : Type} (next : α → Option α) : Nat → α → Option α
  | 0, _ => none
  | fuel + 1, x =>
      match next x with
      | none => some x
      | some y => chase next fuel y

/-- The chain from `x` passes `y`, as far as it is seen in at most `fuel` looks. -/
def leadsTo {α : Type} [DecidableEq α] (next : α → Option α) (y : α) (fuel : Nat) (x : α) : Bool :=
  decide (chase (fun z => if z = y then none else next z) fuel x = some y)

section Chase

variable {α : Type} {next : α → Option α}

theorem chase_of_none {x : α} (fuel : Nat) (h : next x = none) :
    chase next (fuel + 1) x = some x := by
  simp [chase, h]

theorem chase_of_some {x y : α} (fuel : Nat) (h : next x = some y) :
    chase next (fuel + 1) x = chase next fuel y := by
  simp [chase, h]

/-- The chain goes no further from its end. -/
theorem next_of_chase {fuel : Nat} {x e : α} (h : chase next fuel x = some e) : next e = none := by
  induction fuel generalizing x with
  | zero => simp [chase] at h
  | succ fuel ih =>
      cases hx : next x with
      | none =>
          rw [chase_of_none fuel hx] at h
          cases h
          exact hx
      | some y =>
          rw [chase_of_some fuel hx] at h
          exact ih h

/-- More looks find the same end. -/
theorem chase_mono {fuel more : Nat} {x e : α} (h : chase next fuel x = some e)
    (hle : fuel ≤ more) : chase next more x = some e := by
  induction fuel generalizing x more with
  | zero => simp [chase] at h
  | succ fuel ih =>
      obtain ⟨more, rfl⟩ := Nat.exists_eq_add_of_le hle
      rw [Nat.add_right_comm]
      cases hx : next x with
      | none =>
          rw [chase_of_none _ hx] at h ⊢
          exact h
      | some y =>
          rw [chase_of_some _ hx] at h ⊢
          exact ih h (Nat.le_add_right fuel more)

/-- A chain along which a rank goes down has an end, and the rank bounds the looks for it. -/
theorem chase_isSome_of_rank (rank : α → Nat) (hrank : ∀ x y, next x = some y → rank y < rank x)
    (fuel : Nat) (x : α) (h : rank x < fuel) : (chase next fuel x).isSome = true := by
  induction fuel generalizing x with
  | zero => exact absurd h (Nat.not_lt_zero _)
  | succ fuel ih =>
      cases hx : next x with
      | none =>
          rw [chase_of_none fuel hx]
          rfl
      | some y =>
          rw [chase_of_some fuel hx]
          exact ih y (Nat.lt_of_lt_of_le (hrank x y hx) (Nat.le_of_lt_succ h))

section LeadsTo

variable [DecidableEq α]

/-- A chain passes its end. -/
theorem leadsTo_of_chase {fuel : Nat} {x e : α} (h : chase next fuel x = some e) :
    leadsTo next e fuel x = true := by
  rw [leadsTo, decide_eq_true_eq]
  induction fuel generalizing x with
  | zero => simp [chase] at h
  | succ fuel ih =>
      by_cases hxe : x = e
      · exact hxe ▸ chase_of_none fuel (by simp)
      · cases hx : next x with
        | none =>
            rw [chase_of_none fuel hx] at h
            exact absurd (Option.some.inj h) hxe
        | some y =>
            rw [chase_of_some fuel hx] at h
            rw [chase_of_some fuel (by simpa [hxe] using hx)]
            exact ih h

end LeadsTo

end Chase

namespace Store

/-- The end of the chain of targets from a provider. -/
def providerEnd? (s : Store) (r : ProviderRef) : Option ProviderRef :=
  chase (fun r => (s.provider r).target?) (s.providers.size + 1) r

/-- The end of the chain of targets from a meter. -/
def meterEnd? (s : Store) (r : MeterRef) : Option MeterRef :=
  chase (fun r => (s.meter r).target?) (s.meters.size + 1) r

/-- The end of the chain of targets from an instrument. -/
def instrumentEnd? (s : Store) (r : InstrumentRef) : Option InstrumentRef :=
  chase (fun r => (s.instrument r).target?) (s.instruments.size + 1) r

/-- The chain of targets from the provider `r` passes `d`. -/
def providerLeadsTo (s : Store) (r d : ProviderRef) : Bool :=
  leadsTo (fun r => (s.provider r).target?) d (s.providers.size + 1) r

/-- The chain of targets from the meter `r` passes `d`. -/
def meterLeadsTo (s : Store) (r d : MeterRef) : Bool :=
  leadsTo (fun r => (s.meter r).target?) d (s.meters.size + 1) r

end Store

namespace Op

/-- What was found, or nothing to wait for. -/
def orWait {α : Type} : Option α → Op α
  | some x => pure x
  | none => throw .waiting

/-- The provider that answers for `r`. -/
def providerEnd (r : ProviderRef) : Op ProviderRef := do orWait ((← get).providerEnd? r)

/-- The meter that answers for `r`. -/
def meterEnd (r : MeterRef) : Op MeterRef := do orWait ((← get).meterEnd? r)

/-- The instrument that answers for `r`. -/
def instrumentEnd (r : InstrumentRef) : Op InstrumentRef := do orWait ((← get).instrumentEnd? r)

end Op

end DeferredMetrics
