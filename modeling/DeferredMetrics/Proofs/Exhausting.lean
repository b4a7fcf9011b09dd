import DeferredMetrics.Proofs.Streaming

set_option autoImplicit false

/-! # A callback that goes through a generator

A generator goes from state to state and yields a batch at some of its steps. A callback that is
made from one has it go one step at each call, whoever calls, and answers what it yields, or an
empty batch where it yields nothing. Nothing is remembered of that: the next call has the generator
go on, and if it yields something again, the call answers it (`yields_again`). So the callback is
exhausted for good just if the generator is. The main statement is `generator_of_run`. -/

namespace DeferredMetrics

open Relation (ReflTransGen)

/-! ## Generators -/

namespace Generator

variable {σ : Type} (step : σ → Option Batch × σ) (x : σ)

/-- The state after `n` steps from `x`. -/
def stateAfter : Nat → σ
  | 0 => x
  | n + 1 => (step (stateAfter n)).2

/-- What is yielded at the step number `n`, counted from zero. -/
def yields (n : Nat) : Option Batch := (step (stateAfter step x n)).1

/-- What is yielded, or an empty batch. -/
def batch (n : Nat) : Batch := (yields step x n).getD []

/-- Once nothing was yielded, nothing is yielded any more. -/
def Fused : Prop := ∀ n, yields step x n = none → yields step x (n + 1) = none

theorem stateAfter_succ (n : Nat) : stateAfter step x (n + 1) = stateAfter step (step x).2 n := by
  induction n with
  | zero => rfl
  | succ n ih => exact congrArg (fun y => (step y).2) ih

theorem answer_ofStep (n : Nat) : Op.answer (Feed.ofStep step x n) = pure (batch step x n) := by
  induction n generalizing x with
  | zero =>
      unfold Feed.ofStep batch yields stateAfter
      cases (step x).1 <;> rfl
  | succ n ih =>
      rw [Feed.ofStep, ih, batch, batch, yields, yields, stateAfter_succ]

variable {step x}

theorem Fused.yields (h : Fused step x) {m n : Nat} (hmn : m ≤ n)
    (hnone : Generator.yields step x m = none) : Generator.yields step x n = none := by
  induction n, hmn using Nat.le_induction with
  | base => exact hnone
  | succ n _ ih => exact h n ih

end Generator

/-! ## Calls of a callback, whoever makes them -/

/-- How often the callback was called. -/
def Store.pollsOf (s : Store) (c : CallbackRef) : Nat := s.calls.toList.count (.poll c)

namespace Store

variable {s s' : Store} {c : CallbackRef} {g : Nat → Feed} {k : Nat}

theorem pollsOf_of_calls (new : List Call) (h : s'.calls.toList = s.calls.toList ++ new)
    (hnew : .poll c ∉ new) : s'.pollsOf c = s.pollsOf c := by
  rw [pollsOf, h, List.count_append, List.count_eq_zero.2 hnew, Nat.add_zero, pollsOf]

theorem pollsOf_note {x : Call} (hx : x ≠ .poll c) : (s.note x).pollsOf c = s.pollsOf c :=
  pollsOf_of_calls [x] (by simp [note]) (by simpa using hx.symm)

theorem pollsOf_returns {α : Type} {answer : Except Payload α} {returned : α → Call} {x : Call}
    (hcalls : s'.calls.toList = s.calls.toList ++ x :: returns answer returned)
    (hx : x ≠ .poll c) (hreturned : ∀ a, returned a ≠ .poll c) : s'.pollsOf c = s.pollsOf c := by
  refine pollsOf_of_calls _ hcalls ?_
  cases answer with
  | error payload => simpa [returns] using hx.symm
  | ok a => simpa [returns] using ⟨hx.symm, (hreturned a).symm⟩

theorem pollsOf_bindMeter (s : Store) (m t : MeterRef) :
    (s.bindMeter m t).pollsOf c = s.pollsOf c := by
  refine pollsOf_of_calls (.bindMeter m t ::
    (instrumentTrials t (s.note (.bindMeter m t)) (s.meter m).instruments).flatMap
      (InstrumentTrial.calls t)) ?_ ?_
  · show (tryInstruments t (s.note (.bindMeter m t)) (s.meter m).instruments).calls.toList = _
    rw [calls_tryInstruments]
    simp [note]
  · simp only [List.mem_cons, List.mem_flatMap, reduceCtorEq, false_or, not_exists, not_and]
    intro x _
    cases hx : x.answer <;> simp [InstrumentTrial.calls, hx]

/-- Whatever is done, of a callback that supplies only the calls of it are counted. -/
theorem supplies_of_deed (h : s.Supplies c g k) (hdeed : Deed s s') :
    ∃ n, s'.pollsOf c = s.pollsOf c + n ∧ s'.Supplies c g (k + n) := by
  have hkept : s'.pollsOf c = s.pollsOf c → s'.callbacks = s.callbacks →
      ∃ n, s'.pollsOf c = s.pollsOf c + n ∧ s'.Supplies c g (k + n) :=
    fun hpolls hcallbacks => ⟨0, hpolls, h.of_eq hcallbacks⟩
  -- of all deeds only calls and new callbacks touch the table of callbacks
  cases hdeed with
  | aside _ _ _ hcallbacks hcalls => exact hkept (by rw [pollsOf, hcalls, pollsOf]) hcallbacks
  | addProvider => exact hkept rfl rfl
  | addMeter => exact hkept rfl rfl
  | addCallback c' =>
      exact ⟨0, rfl, h.congr ((Table.has_add _ _ _).2 (.inl h.known))
        (Table.get_add_of_has s.callbacks c' h.known)⟩
  | give hc => exact hkept (pollsOf_note (by rintro rfl; cases hc)) rfl
  | keep m events => exact hkept rfl rfl
  | poll c' =>
      by_cases hcc : c' = c
      · subst hcc
        exact ⟨1, by simp [pollsOf, note, updateCallback], h.count rfl⟩
      · refine ⟨0, pollsOf_note (by simpa using hcc), h.congr ?_ ?_⟩
        · exact (Table.has_update _ _ _ _).2 h.known
        · exact Table.get_update_of_ne _ _ hcc
  | askMeter scope hp he =>
      exact hkept (pollsOf_returns (calls_askMeter s _ _ scope) (by simp) (by simp))
        (Aside.askMeter s _ _ scope).callbacks
  | loseMeter scope hend => exact hkept (pollsOf_note (by simp)) rfl
  | askInstrument request ht =>
      exact hkept (pollsOf_returns (calls_askInstrument s _ _ request) (by simp) (by simp))
        (Aside.askInstrument s _ _ request).callbacks
  | loseInstrument request hend => exact hkept (pollsOf_note (by simp)) rfl
  | assign hr htarget => exact hkept (pollsOf_note (by simp)) rfl
  | tellAgain p htarget => exact hkept (pollsOf_note (by simp)) rfl
  | bindMeter hserves hwaits hne =>
      exact hkept (pollsOf_bindMeter s _ _) (Aside.bindMeter s _ _).callbacks

theorem supplies_of_deeds (h : s.Supplies c g k) (hdeeds : ReflTransGen SoundDeed s s') :
    ∃ n, s'.pollsOf c = s.pollsOf c + n ∧ s'.Supplies c g (k + n) := by
  induction hdeeds with
  | refl => exact ⟨0, rfl, h⟩
  | tail _ hdeed ih =>
      obtain ⟨n, hpolls, hsupplies⟩ := ih
      obtain ⟨n', hpolls', hsupplies'⟩ := supplies_of_deed hsupplies hdeed.deed
      exact ⟨n + n', by rw [hpolls', hpolls, Nat.add_assoc], Nat.add_assoc k n n' ▸ hsupplies'⟩

end Store

/-! ## Runs -/

/-- There is a new callback, made from a generator, with a name. -/
def Store.addGenerator {σ : Type} (s : Store) (id : String) (label : Option String)
    (step : σ → Option Batch × σ) (x : σ) : Store :=
  (s.addCallback (.fresh label (Feed.ofStep step x) [])).updateDirectory fun d =>
    { d with callbacks := d.callbacks.insert id s.callbacks.next }

/-- In a run from `s` the callback `c` answers what the generator yields, one step at each call. -/
structure Drives {σ : Type} (step : σ → Option Batch × σ) (x : σ) (depth : Nat)
    (processWide : Option RegistrationRef) (s : Store) (c : CallbackRef) (steps : List Step) :
    Prop where
  /-- So do the answers of the steps that call it, if no SDK calls it in between, -/
  answers : (∀ y ∈ steps, y.collects = false) → ∃ n,
    Scenario.drawn depth processWide c s steps =
      (List.range n).map fun k => some (Generator.batch step x k)
  /-- and so does the next call, by anyone, after the run or in the midst of what comes then. -/
  next : ∀ s', ReflTransGen SoundDeed (Scenario.after depth processWide s steps) s' →
    ∃ n s'', s'.pollsOf c = s.pollsOf c + n ∧
      Op.poll c s' = .ok (Generator.batch step x n) s''
  /-- If the generator is exhausted for good, then so is the callback. -/
  exhausted : Generator.Fused step x → ∀ m n, m ≤ n → Generator.yields step x m = none →
    Generator.batch step x n = []

section Runs

variable {σ : Type} (step : σ → Option Batch × σ) (x : σ) (id : String) (label : Option String)

theorem sound_addGenerator {s : Store} (h : Sound s) : Sound (s.addGenerator id label step x) :=
  ((Calm.addCallback _).trans (Calm.updateDirectory rfl rfl)).sound h

theorem supplies_addGenerator (s : Store) :
    (s.addGenerator id label step x).Supplies s.callbacks.next (Feed.ofStep step x) 0 := by
  have hrow : (s.addGenerator id label step x).callback s.callbacks.next =
      .fresh label (Feed.ofStep step x) [] := s.callbacks.get_add_next _
  exact ⟨s.callbacks.has_next_add _, by rw [hrow]; rfl, by rw [hrow]; rfl, by rw [hrow]; rfl⟩

/-- In every run the calls of a callback that was made from a generator answer what the generator
yields, in order, and empty batches where it yields nothing, also after it once has yielded
nothing. -/
theorem generator_of_run (depth : Nat) (processWide : Option RegistrationRef) {s : Store}
    (h : Reachable s) {steps : List Step} (hsteps : ∀ y ∈ steps, y.sequential = true) :
    Drives step x depth processWide (s.addGenerator id label step x) s.callbacks.next steps := by
  have hsound := sound_addGenerator step x id label (reachable_sound h)
  have hsupplies := supplies_addGenerator step x id label s
  have hanswers := Generator.answer_ofStep step x
  constructor
  · intro hcollects
    obtain ⟨n, hdrawn, -⟩ := drawn_of_run depth processWide hanswers hsound hsupplies
      fun y hy => ⟨hsteps y hy, hcollects y hy⟩
    exact ⟨n, by rw [hdrawn, List.range_eq_range']⟩
  · intro s' hdeeds
    -- the calls are counted through the run and what comes then, whoever makes them
    obtain ⟨n, hpolls, hnext⟩ := Store.supplies_of_deeds hsupplies
      ((deeds_of_run depth processWide hsound hsteps).trans hdeeds)
    rw [Nat.zero_add] at hnext
    obtain ⟨s'', hrun, -⟩ := Op.poll_of_supplies hanswers hnext
    exact ⟨n, s'', hpolls, hrun⟩
  · intro hfused m n hmn hnone
    rw [Generator.batch, hfused.yields hmn hnone]
    rfl

end Runs

/-- A generator that yields a batch, then nothing, and then a batch again. -/
def pausing : Nat → Option Batch × Nat
  | 0 => (some [.bare (.ofNat 1)], 1)
  | 1 => (none, 2)
  | 2 => (some [.bare (.ofNat 2)], 3)
  | n => (none, n)

/-- A callback that is made from it, and a gauge that was created with that. -/
def Store.pausing : Store :=
  Scenario.after 1 none ((Store.initial .empty).addGenerator "c" none DeferredMetrics.pausing 0)
    [.provider "p" .recording, .meter "p" "m" (.named "direct"),
      .create "m" "i" .observableGauge (.named "load") (some "c")]

theorem generator_of_run_pausing :
    Drives pausing 0 1 none ((Store.initial .empty).addGenerator "c" none pausing 0) ⟨0⟩
      [.provider "p" .recording, .meter "p" "m" (.named "direct"),
        .create "m" "i" .observableGauge (.named "load") (some "c"), .poll "c", .observe "i",
        .poll "c"] :=
  generator_of_run pausing 0 "c" none 1 none (.initial .empty) (by decide)

/-- After a call that the generator has nothing for, the next one answers a batch. -/
theorem yields_again :
    Scenario.drawn 1 none ⟨0⟩ .pausing [.poll "c", .observe "i", .poll "c"] =
      [some [.bare (.ofNat 1)], some [], some [.bare (.ofNat 2)]] := by
  decide +kernel

end DeferredMetrics
