import DeferredMetrics.Gate.Threads
import Mathlib.Data.List.Basic

set_option autoImplicit false

/-! # At most one passes the gate

Any number of threads call a gate that is not fired, with actions that take several steps and may
panic, and their steps are taken in any order. A thread of the machine makes one call; one that
calls again counts as a thread that has not begun yet.

What a thread may find depends on its stage (`Gate.Machine.Fits`): who has the lock, whether the
gate is fired, and which actions are done. Every step keeps that for all threads (`Sound.step`), so
it holds after every schedule (`Sound.run`). The main statement is `passes_once`: actions do not
overlap, at most one is done, and the answers, the gate and the next call go by it. -/

namespace DeferredMetrics

namespace Gate

namespace Stage

/-- The action of the thread is under way. -/
def isActing : Stage → Bool
  | .acting _ => true
  | _ => false

end Stage

namespace Machine

variable {plan : Nat → Plan} {m : Machine} {t u : Nat}

/-- What the thread `t` finds of lock, gate and done actions at a stage. -/
def Fits (m : Machine) (t : Nat) : Stage → Prop
  | .start => m.lock ≠ some t ∧ t ∉ m.completed
  | .waiting => m.lock ≠ some t ∧ t ∉ m.completed
  | .entered => m.lock = some t ∧ t ∉ m.completed
  | .acting _ => m.lock = some t ∧ m.gate.fired = false ∧ m.completed = []
  | .failing => m.lock = some t ∧ m.gate.fired = false ∧ m.completed = []
  | .acted => m.lock = some t ∧ m.gate.fired = false ∧ m.completed = [t]
  | .firing => m.lock = some t ∧ m.gate.fired = true ∧ m.completed = [t]
  | .late => m.lock = some t ∧ m.gate.fired = true ∧ t ∉ m.completed
  | .returned true => m.lock ≠ some t ∧ m.gate.fired = true ∧ m.completed = [t]
  | .returned false => m.lock ≠ some t ∧ m.gate.fired = true ∧ t ∉ m.completed
  | .panicked => m.lock ≠ some t ∧ t ∉ m.completed

/-- Every thread finds what fits its stage, and an action that is done belongs to a thread that has
fired the gate or has the lock to fire it. -/
structure Sound (m : Machine) : Prop where
  fits : ∀ t, m.Fits t (m.stage t)
  done : m.completed = [] ∧ m.gate.fired = false ∨
    ∃ t, m.completed = [t] ∧ (m.gate.fired = true ∨ m.lock = some t)

theorem sound_initial : (initial ready).Sound := by
  refine ⟨fun t => ⟨?_, List.not_mem_nil⟩, .inl ⟨rfl, rfl⟩⟩
  exact fun h => absurd h (Option.some_ne_none t).symm

/-- What a thread without the lock finds still fits when another thread takes the lock or gives it
back, fires the gate, or is the first whose action is done. -/
theorem Fits.beside {m' : Machine} {stage : Stage} (h : m.Fits u stage) (hne : u ≠ t)
    (hlock : m.lock ≠ some u) (hlock' : m'.lock ≠ some u)
    (hfired : m.gate.fired = true → m'.gate.fired = true)
    (hdone : m'.completed = m.completed ∨ m.gate.fired = false ∧ m'.completed = [t]) :
    m'.Fits u stage := by
  have hnot : u ∉ m.completed → u ∉ m'.completed := by
    intro hu
    rcases hdone with hsame | ⟨_, hfirst⟩
    · rwa [hsame]
    · rw [hfirst]
      exact fun hmem => hne (List.mem_singleton.1 hmem)
  have hsame : m.gate.fired = true → m'.completed = m.completed := by
    intro hgate
    rcases hdone with hsame | ⟨hunfired, _⟩
    · exact hsame
    · exact absurd (hgate.symm.trans hunfired) (by simp)
  cases stage with
  | start => exact ⟨hlock', hnot h.2⟩
  | waiting => exact ⟨hlock', hnot h.2⟩
  | panicked => exact ⟨hlock', hnot h.2⟩
  | returned answer =>
      cases answer with
      | true => exact ⟨hlock', hfired h.2.1, (hsame h.2.1).trans h.2.2⟩
      | false => exact ⟨hlock', hfired h.2.1, hnot h.2.2⟩
  -- a thread at any other stage has the lock
  | _ => exact absurd h.1 hlock

/-- What fits depends on the lock, the gate and the actions that are done. -/
theorem Fits.congr {m' : Machine} {stage : Stage} (h : m.Fits u stage) (hlock : m'.lock = m.lock)
    (hgate : m'.gate = m.gate) (hdone : m'.completed = m.completed) : m'.Fits u stage := by
  unfold Fits at h ⊢
  rw [hlock, hgate, hdone]
  exact h

namespace Sound

variable (h : m.Sound)
include h

/-- A thread comes to a stage that fits what it finds, and nothing else changes. -/
theorem setStage (stage : Stage) (ht : m.Fits t stage) : (m.setStage t stage).Sound := by
  refine ⟨fun u => ?_, h.done⟩
  by_cases hu : u = t
  · subst hu
    rw [stage_setStage_self]
    exact ht.congr rfl rfl rfl
  · rw [stage_setStage_of_ne m stage hu]
    exact (h.fits u).congr rfl rfl rfl

/-- A thread takes a lock that is free. -/
theorem takeLock (hfree : m.lock = none) (ht : t ∉ m.completed) :
    Sound { m.setStage t .entered with lock := some t } := by
  have hother : ∀ u, m.lock ≠ some u := fun u hu => absurd (hfree.symm.trans hu) (by simp)
  refine ⟨fun u => ?_, ?_⟩
  · by_cases hu : u = t
    · subst hu
      show Fits _ u ((m.setStage u .entered).stage u)
      rw [stage_setStage_self]
      exact ⟨rfl, ht⟩
    · show Fits _ u ((m.setStage t .entered).stage u)
      rw [stage_setStage_of_ne m _ hu]
      refine (h.fits u).beside hu (hother u) ?_ (fun hgate => hgate) (.inl rfl)
      exact fun heq => hu (Option.some.inj heq).symm
  · rcases h.done with hnone | ⟨v, hv, hfired | hlock⟩
    · exact .inl hnone
    · exact .inr ⟨v, hv, .inl hfired⟩
    · exact absurd hlock (hother v)

/-- An action is done while the gate is not fired; it is the first. -/
theorem complete (hlock : m.lock = some t) (hgate : m.gate.fired = false)
    (hnone : m.completed = []) :
    Sound { m.setStage t .acted with completed := t :: m.completed } := by
  have hfirst : t :: m.completed = [t] := by rw [hnone]
  refine ⟨fun u => ?_, .inr ⟨t, hfirst, .inr hlock⟩⟩
  by_cases hu : u = t
  · subst hu
    show Fits _ u ((m.setStage u .acted).stage u)
    rw [stage_setStage_self]
    exact ⟨hlock, hgate, hfirst⟩
  · show Fits _ u ((m.setStage t .acted).stage u)
    rw [stage_setStage_of_ne m _ hu]
    have hother : m.lock ≠ some u := fun heq => hu (Option.some.inj (hlock.symm.trans heq)).symm
    exact (h.fits u).beside hu hother hother (fun hfired => hfired) (.inr ⟨hgate, hfirst⟩)

/-- The thread whose action is done fires the gate. -/
theorem fire (hlock : m.lock = some t) (hdone : m.completed = [t]) :
    Sound { m.setStage t .firing with gate := passed } := by
  refine ⟨fun u => ?_, .inr ⟨t, hdone, .inl rfl⟩⟩
  by_cases hu : u = t
  · subst hu
    show Fits _ u ((m.setStage u .firing).stage u)
    rw [stage_setStage_self]
    exact ⟨hlock, rfl, hdone⟩
  · show Fits _ u ((m.setStage t .firing).stage u)
    rw [stage_setStage_of_ne m _ hu]
    have hother : m.lock ≠ some u := fun heq => hu (Option.some.inj (hlock.symm.trans heq)).symm
    exact (h.fits u).beside hu hother hother (fun _ => rfl) (.inl rfl)

/-- A thread gives the lock back at the end of its call. -/
theorem leave {stage : Stage} (hlock : m.lock = some t)
    (ht : Fits { m with lock := none } t stage)
    (hdone : m.completed = [] ∧ m.gate.fired = false ∨
      ∃ u, m.completed = [u] ∧ m.gate.fired = true) : (m.leave t stage).Sound := by
  refine ⟨fun u => ?_, ?_⟩
  · by_cases hu : u = t
    · subst hu
      show Fits _ u ((m.setStage u stage).stage u)
      rw [stage_setStage_self]
      exact ht.congr rfl rfl rfl
    · show Fits _ u ((m.setStage t stage).stage u)
      rw [stage_setStage_of_ne m _ hu]
      have hother : m.lock ≠ some u := fun heq => hu (Option.some.inj (hlock.symm.trans heq)).symm
      exact (h.fits u).beside hu hother (Option.some_ne_none u).symm (fun hfired => hfired)
        (.inl rfl)
  · exact hdone.imp_right fun ⟨u, hu, hfired⟩ => ⟨u, hu, .inl hfired⟩

/-- A gate that is fired has let an action through. -/
theorem done_of_fired (hfired : m.gate.fired = true) : ∃ t, m.completed = [t] := by
  rcases h.done with ⟨_, hgate⟩ | ⟨t, ht, _⟩
  · exact absurd (hfired.symm.trans hgate) (by simp)
  · exact ⟨t, ht⟩

/-- Whoever has the lock of a gate that is not fired, and whose action is not done, is the first. -/
theorem completed_of_unfired (hlock : m.lock = some t) (hgate : m.gate.fired = false)
    (ht : t ∉ m.completed) : m.completed = [] := by
  rcases h.done with ⟨hnone, _⟩ | ⟨u, hu, hfired | hholds⟩
  · exact hnone
  · exact absurd (hfired.symm.trans hgate) (by simp)
  · have heq : u = t := Option.some.inj (hholds.symm.trans hlock)
    exact absurd (hu ▸ List.mem_singleton.2 heq.symm) ht

/-- One step of any thread. -/
theorem step (plan : Nat → Plan) (t : Nat) : (m.step plan t).Sound := by
  have ht := h.fits t
  unfold Machine.step
  cases hstage : m.stage t with
  | start =>
      rw [hstage] at ht
      simp only
      cases hgate : m.gate.fired with
      | true => exact h.setStage (.returned false) ⟨ht.1, hgate, ht.2⟩
      | false => exact h.setStage .waiting ht
  | waiting =>
      rw [hstage] at ht
      simp only
      split
      · rename_i hfree
        exact h.takeLock (Option.isNone_iff_eq_none.1 hfree) ht.2
      · exact h
  | entered =>
      rw [hstage] at ht
      simp only
      cases hgate : m.gate.fired with
      | true => exact h.setStage .late ⟨ht.1, hgate, ht.2⟩
      | false =>
          -- the look is under the lock, so an action that was done would have fired the gate
          have hnone := h.completed_of_unfired ht.1 hgate ht.2
          exact h.setStage (.acting _) ⟨ht.1, hgate, hnone⟩
  | acting left =>
      rw [hstage] at ht
      cases left with
      | zero =>
          simp only
          split
          · exact h.setStage .failing ht
          · exact h.complete ht.1 ht.2.1 ht.2.2
      | succ left => exact h.setStage (.acting left) ht
  | acted =>
      rw [hstage] at ht
      exact h.fire ht.1 ht.2.2
  | firing =>
      rw [hstage] at ht
      refine h.leave ht.1 ⟨(Option.some_ne_none t).symm, ht.2⟩ (.inr ⟨t, ht.2.2, ht.2.1⟩)
  | late =>
      rw [hstage] at ht
      obtain ⟨u, hu⟩ := h.done_of_fired ht.2.1
      exact h.leave ht.1 ⟨(Option.some_ne_none t).symm, ht.2⟩ (.inr ⟨u, hu, ht.2.1⟩)
  | failing =>
      rw [hstage] at ht
      have hnot : t ∉ m.completed := by
        rw [ht.2.2]
        exact List.not_mem_nil
      exact h.leave ht.1 ⟨(Option.some_ne_none t).symm, hnot⟩ (.inl ⟨ht.2.2, ht.2.1⟩)
  | returned answer => exact h
  | panicked => exact h

theorem run (plan : Nat → Plan) (schedule : List Nat) : (m.run plan schedule).Sound := by
  induction schedule generalizing m with
  | nil => exact h
  | cons t schedule ih => exact ih (h.step plan t)

end Sound

/-! ## One call alone -/

theorem run_replicate_succ (plan : Nat → Plan) (m : Machine) (n t : Nat) :
    m.run plan (List.replicate (n + 1) t) = (m.step plan t).run plan (List.replicate n t) := rfl

/-- The steps of an action come to its end. -/
theorem stage_run_of_acting {left : Nat} (h : m.stage t = .acting left) :
    (m.run plan (List.replicate left t)).stage t = .acting 0 := by
  induction left generalizing m with
  | zero => exact h
  | succ left ih =>
      rw [run_replicate_succ]
      apply ih
      rw [step, h]
      exact stage_setStage_self m t _

/-- What becomes of a call whose action is at its end. -/
theorem stage_run_of_acting_zero (h : m.stage t = .acting 0) :
    (m.run plan (List.replicate 3 t)).stage t =
      if (plan t).panics then .panicked else .returned true := by
  cases hplan : (plan t).panics <;>
    simp [run, step, leave, setStage, h, hplan]

/-- A call that begins at a free lock and a gate that is not fired comes to its action. -/
theorem stage_run_of_start (h : m.stage t = .start) (hlock : m.lock = none)
    (hgate : m.gate.fired = false) :
    (m.run plan (List.replicate 3 t)).stage t = .acting (plan t).steps := by
  simp [run, step, setStage, h, hlock, hgate]

/-! ## The passage -/

/-- What holds of the calls on a gate at any time. -/
structure PassesOnce (plan : Nat → Plan) (m : Machine) : Prop where
  /-- No two actions overlap. -/
  apart : ∀ t u, (m.stage t).isActing = true → (m.stage u).isActing = true → t = u
  /-- At most one action is done. -/
  first : m.completed.length ≤ 1
  /-- A call answers `true` exactly if its action was done. -/
  answers : ∀ t answer, m.stage t = .returned answer → (answer = true ↔ t ∈ m.completed)
  /-- A call whose action is done goes on to fire the gate and to answer `true`. -/
  wins : ∀ t ∈ m.completed, m.stage t = .acted ∨ m.stage t = .firing ∨ m.stage t = .returned true
  /-- When a call answers `false`, the action of another one is done already. -/
  loses : ∀ t, m.stage t ≠ .returned false → (m.step plan t).stage t = .returned false →
    ∃ u, u ≠ t ∧ m.completed = [u]
  /-- The gate is fired if the call whose action was done has fired it, and only then. -/
  fired : m.gate.fired = true ↔
    ∃ t ∈ m.completed, m.stage t = .firing ∨ m.stage t = .returned true
  /-- The step that fires the gate is the one after the action was done. -/
  fires : m.gate.fired = false → ∀ t, (m.step plan t).gate.fired = true ↔ m.stage t = .acted
  /-- The gate stays fired. -/
  stays : m.gate.fired = true → ∀ later, (m.run plan later).gate.fired = true
  /-- A call whose action has panicked leaves the lock free and the gate as it is, not fired. -/
  panics : ∀ t, m.stage t = .failing → t ∉ m.completed ∧ (m.step plan t).stage t = .panicked ∧
    (m.step plan t).lock = none ∧ (m.step plan t).gate.fired = false
  /-- Whoever gets the lock while the gate is not fired comes to its own action. -/
  enters : m.gate.fired = false → ∀ t, m.stage t = .entered →
    (m.step plan t).stage t = .acting (plan t).steps
  /-- As long as the gate is not fired and the lock is free, the next call runs its own action to
  the end. -/
  retries : m.gate.fired = false → m.lock = none → ∀ t, m.stage t = .start →
    (m.run plan (List.replicate 3 t)).stage t = .acting (plan t).steps ∧
      (m.run plan (List.replicate (3 + (plan t).steps + 3) t)).stage t =
        if (plan t).panics then .panicked else .returned true

/-- No step takes back that the gate is fired. -/
theorem fired_step (plan : Nat → Plan) (t : Nat) (h : m.gate.fired = true) :
    (m.step plan t).gate.fired = true := by
  unfold step
  split
  · exact h
  · split <;> exact h
  · exact h
  · exact h
  · split <;> exact h
  · rfl
  all_goals exact h

theorem fired_run (plan : Nat → Plan) (schedule : List Nat) (h : m.gate.fired = true) :
    (m.run plan schedule).gate.fired = true := by
  induction schedule generalizing m with
  | nil => exact h
  | cons t schedule ih => exact ih (fired_step plan t h)

namespace Sound

variable (h : m.Sound)
include h

theorem lock_of_isActing (ht : (m.stage t).isActing = true) : m.lock = some t := by
  have hfits := h.fits t
  cases hstage : m.stage t with
  | acting left =>
      rw [hstage] at hfits
      exact hfits.1
  | _ =>
      rw [hstage] at ht
      exact absurd ht (by simp [Stage.isActing])

/-- A call whose action is done is past it. -/
theorem stage_of_done (ht : m.completed = [t]) :
    m.stage t = .acted ∨ m.stage t = .firing ∨ m.stage t = .returned true := by
  have hfits := h.fits t
  have hmem : t ∈ m.completed := ht ▸ List.mem_singleton_self t
  cases hstage : m.stage t with
  | acted => exact .inl rfl
  | firing => exact .inr (.inl rfl)
  | returned answer =>
      cases answer with
      | true => exact .inr (.inr rfl)
      | false =>
          rw [hstage] at hfits
          exact absurd hmem hfits.2.2
  | acting left =>
      rw [hstage] at hfits
      exact absurd (hfits.2.2.symm.trans ht) (by simp)
  | failing =>
      rw [hstage] at hfits
      exact absurd (hfits.2.2.symm.trans ht) (by simp)
  | late =>
      rw [hstage] at hfits
      exact absurd hmem hfits.2.2
  | _ =>
      rw [hstage] at hfits
      exact absurd hmem hfits.2

/-- Who answers `false` in its next step has found the gate fired. -/
theorem fired_of_step_returned (ht : m.stage t ≠ .returned false)
    (hstep : (m.step plan t).stage t = .returned false) :
    m.gate.fired = true ∧ t ∉ m.completed := by
  have hfits := h.fits t
  -- only the first look and leaving late end a call with `false`
  unfold Machine.step at hstep
  cases hstage : m.stage t with
  | start =>
      rw [hstage] at hfits hstep
      simp only [stage_setStage_self] at hstep
      split at hstep
      · rename_i hgate
        exact ⟨hgate, hfits.2⟩
      · cases hstep
  | late =>
      rw [hstage] at hfits
      exact hfits.2
  | returned answer =>
      rw [hstage] at hstep ht
      exact absurd (hstage.symm.trans hstep) ht
  | acting left =>
      rw [hstage] at hstep
      cases left with
      | zero =>
          simp only at hstep
          split at hstep
          · simp at hstep
          · simp [Machine.setStage] at hstep
      | succ left => simp at hstep
  | waiting =>
      rw [hstage] at hstep
      simp only at hstep
      split at hstep
      · simp [Machine.setStage] at hstep
      · exact absurd (hstage.symm.trans hstep) (by simp)
  | entered =>
      rw [hstage] at hstep
      simp only [stage_setStage_self] at hstep
      split at hstep <;> cases hstep
  | _ =>
      rw [hstage] at hstep
      simp [Machine.leave, Machine.setStage, hstage] at hstep

omit h in
/-- The gate is fired by the step after an action was done. -/
theorem fired_step_iff (hgate : m.gate.fired = false) :
    (m.step plan t).gate.fired = true ↔ m.stage t = .acted := by
  constructor
  · intro hfired
    by_contra hnot
    -- every other step leaves the gate as it is
    have hsame : (m.step plan t).gate = m.gate := by
      unfold Machine.step
      split
      · rfl
      · split <;> rfl
      · rfl
      · rfl
      · split <;> rfl
      · exact absurd ‹_› hnot
      all_goals rfl
    rw [hsame, hgate] at hfired
    cases hfired
  · intro hacted
    rw [Machine.step, hacted]
    rfl

theorem length_completed_le : m.completed.length ≤ 1 := by
  rcases h.done with ⟨hnone, _⟩ | ⟨t, ht, _⟩
  · rw [hnone]
    exact Nat.zero_le 1
  · rw [ht]
    exact Nat.le_refl 1

theorem answer_iff_completed {answer : Bool} (hstage : m.stage t = .returned answer) :
    answer = true ↔ t ∈ m.completed := by
  have hfits := h.fits t
  rw [hstage] at hfits
  cases answer with
  | true => exact ⟨fun _ => hfits.2.2 ▸ List.mem_singleton_self t, fun _ => rfl⟩
  | false => exact ⟨fun hfalse => absurd hfalse (by simp), fun hmem => absurd hmem hfits.2.2⟩

theorem stage_of_mem_completed (hmem : t ∈ m.completed) :
    m.stage t = .acted ∨ m.stage t = .firing ∨ m.stage t = .returned true := by
  rcases h.done with ⟨hnone, _⟩ | ⟨u, hu, _⟩
  · rw [hnone] at hmem
    exact absurd hmem List.not_mem_nil
  · rw [hu, List.mem_singleton] at hmem
    exact h.stage_of_done (hmem ▸ hu)

/-- Who answers `false` in its next step comes after another one. -/
theorem completed_of_step_returned (ht : m.stage t ≠ .returned false)
    (hstep : (m.step plan t).stage t = .returned false) : ∃ u, u ≠ t ∧ m.completed = [u] := by
  obtain ⟨hgate, hnot⟩ := h.fired_of_step_returned ht hstep
  obtain ⟨u, hu⟩ := h.done_of_fired hgate
  refine ⟨u, fun heq => hnot ?_, hu⟩
  rw [hu, heq]
  exact List.mem_singleton_self t

theorem fired_iff_completed : m.gate.fired = true ↔
    ∃ t ∈ m.completed, m.stage t = .firing ∨ m.stage t = .returned true := by
  constructor
  · intro hgate
    obtain ⟨t, ht⟩ := h.done_of_fired hgate
    refine ⟨t, ht ▸ List.mem_singleton_self t, ?_⟩
    rcases h.stage_of_done ht with hacted | hpast
    · have hfits := h.fits t
      rw [hacted] at hfits
      exact absurd (hgate.symm.trans hfits.2.1) (by simp)
    · exact hpast
  · rintro ⟨t, _, hstage⟩
    have hfits := h.fits t
    rcases hstage with hstage | hstage <;>
      rw [hstage] at hfits <;> exact hfits.2.1

theorem step_of_failing (plan : Nat → Plan) (hstage : m.stage t = .failing) :
    t ∉ m.completed ∧ (m.step plan t).stage t = .panicked ∧ (m.step plan t).lock = none ∧
      (m.step plan t).gate.fired = false := by
  have hfits := h.fits t
  rw [hstage] at hfits
  rw [Machine.step, hstage]
  refine ⟨?_, stage_setStage_self m t _, rfl, hfits.2.1⟩
  rw [hfits.2.2]
  exact List.not_mem_nil

theorem passesOnce (plan : Nat → Plan) : m.PassesOnce plan where
  apart _ _ ht hu := Option.some.inj ((h.lock_of_isActing ht).symm.trans (h.lock_of_isActing hu))
  first := h.length_completed_le
  answers _ _ hstage := h.answer_iff_completed hstage
  wins _ hmem := h.stage_of_mem_completed hmem
  loses _ ht hstep := h.completed_of_step_returned ht hstep
  fired := h.fired_iff_completed
  fires hgate _ := fired_step_iff hgate
  stays hgate later := fired_run plan later hgate
  panics _ hstage := h.step_of_failing plan hstage
  enters hgate t hstage := by
    rw [Machine.step, hstage]
    simp [hgate]
  retries hgate hlock t hstage := by
    have hstart : (m.run plan (List.replicate 3 t)).stage t = .acting (plan t).steps :=
      stage_run_of_start hstage hlock hgate
    refine ⟨hstart, ?_⟩
    -- up to the action, the action itself, and to the end of the call
    rw [List.replicate_add, List.replicate_add, run_append, run_append]
    exact stage_run_of_acting_zero (stage_run_of_acting hstart)

end Sound

/-- At any time of any schedule of calls on a gate that nobody has passed before, at most one has
passed it. -/
theorem passes_once (plan : Nat → Plan) (schedule : List Nat) :
    ((initial ready).run plan schedule).PassesOnce plan :=
  (sound_initial.run plan schedule).passesOnce plan

end Machine

end Gate

end DeferredMetrics
