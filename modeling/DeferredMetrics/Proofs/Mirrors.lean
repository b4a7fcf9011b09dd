import DeferredMetrics.Proofs.Depicts
import DeferredMetrics.Proofs.Discovering

set_option autoImplicit false

/-! # Operations that mirror each other

An operation on stores and one on ledgers mirror each other if from corresponding states both
answer, with corresponding answers, or both halt, for the same reason, and if the states that they
leave correspond (`Op.Mirrors`). There is one rule for each way in which operations are put
together. -/

namespace DeferredMetrics

namespace Booking

variable {α β : Type}

theorem bind_run (b : Booking α) (f : α → Booking β) (a : Ledger) :
    (b >>= f) a = match b a with
      | .ok x a' => f x a'
      | .error h a' => .error h a' := by
  show EStateM.bind b f a = _
  unfold EStateM.bind
  cases b a <;> rfl

theorem named_run (roster : Ledger → Roster α) (name : String) (a : Ledger) :
    named roster name a = match (roster a).get? name with
      | some x => .ok x a
      | none => .error (.unnamed name) a := by
  rw [named, bind_run]
  show (match (roster a).get? name with
    | some x => pure x
    | none => throw (.unnamed name) : Booking α) a = _
  cases (roster a).get? name <;> rfl

end Booking

namespace Op

variable {α β γ δ : Type} {R : Store → Ledger → Prop} {V : α → γ → Prop} {W : β → δ → Prop}
  {s : Store} {a : Ledger}

/-- The operations correspond in what they answer, in why they halt, and in what they leave. -/
def Mirrors (R : Store → Ledger → Prop) (V : α → γ → Prop) (op : Op α) (b : Booking γ) (s : Store)
    (a : Ledger) : Prop :=
  match op s, b a with
  | .ok x s', .ok y a' => V x y ∧ R s' a'
  | .error halt s', .error halt' a' => halt = halt' ∧ R s' a'
  | _, _ => False

theorem mirrors_of_ok {op : Op α} {b : Booking γ} {x : α} {y : γ} {s' : Store} {a' : Ledger}
    (hop : op s = .ok x s') (hb : b a = .ok y a') (hV : V x y) (hR : R s' a') :
    Mirrors R V op b s a := by
  unfold Mirrors
  rw [hop, hb]
  exact ⟨hV, hR⟩

theorem mirrors_of_error {op : Op α} {b : Booking γ} {halt : Halt} {s' : Store} {a' : Ledger}
    (hop : op s = .error halt s') (hb : b a = .error halt a') (hR : R s' a') :
    Mirrors R V op b s a := by
  unfold Mirrors
  rw [hop, hb]
  exact ⟨rfl, hR⟩

theorem mirrors_pure {x : α} {y : γ} (hV : V x y) (hR : R s a) :
    Mirrors R V (pure x) (pure y) s a := mirrors_of_ok rfl rfl hV hR

theorem mirrors_throw (halt : Halt) (hR : R s a) :
    Mirrors R V (throw halt : Op α) (throw halt : Booking γ) s a := mirrors_of_error rfl rfl hR

theorem Mirrors.bind {op : Op α} {b : Booking γ} {f : α → Op β} {g : γ → Booking δ}
    (h : Mirrors R V op b s a) (hf : ∀ x y s' a', V x y → R s' a' → Mirrors R W (f x) (g y) s' a') :
    Mirrors R W (op >>= f) (b >>= g) s a := by
  unfold Mirrors at h
  cases hop : op s with
  | ok x s' =>
      cases hb : b a with
      | ok y a' =>
          rw [hop, hb] at h
          have hnext := hf x y s' a' h.1 h.2
          unfold Mirrors at hnext ⊢
          rw [bind_of_ok hop, Booking.bind_run, hb]
          exact hnext
      | error halt a' =>
          rw [hop, hb] at h
          exact h.elim
  | error halt s' =>
      cases hb : b a with
      | ok y a' =>
          rw [hop, hb] at h
          exact h.elim
      | error halt' a' =>
          rw [hop, hb] at h
          obtain ⟨rfl, hR⟩ := h
          refine mirrors_of_error (bind_of_error hop) ?_ hR
          rw [Booking.bind_run, hb]

theorem mirrors_get_bind {f : Store → Op β} {b : Booking δ} (h : Mirrors R W (f s) b s a) :
    Mirrors R W (get >>= f) b s a := h

theorem mirrors_of_get_bind {op : Op β} {g : Ledger → Booking δ} (h : Mirrors R W op (g a) s a) :
    Mirrors R W op (get >>= g) s a := h

/-- A ledger does not hold who was called. -/
theorem mirrors_note_bind {c : Call} {f : Unit → Op β} {b : Booking δ}
    (h : Mirrors R W (f ()) b (s.note c) a) : Mirrors R W (note c >>= f) b s a := h

theorem mirrors_modify_bind {u : Store → Store} {v : Ledger → Ledger} {f : Unit → Op β}
    {g : Unit → Booking δ} (h : Mirrors R W (f ()) (g ()) (u s) (v a)) :
    Mirrors R W (modify u >>= f) (modify v >>= g) s a := h

theorem mirrors_congr {op op' : Op α} {b : Booking γ} (hop : op s = op' s)
    (h : Mirrors R V op' b s a) : Mirrors R V op b s a := by
  unfold Mirrors at h ⊢
  rw [hop]
  exact h

theorem Mirrors.mono {R' : Store → Ledger → Prop} {op : Op α} {b : Booking γ}
    (h : Mirrors R V op b s a) (hR : ∀ s a, R s a → R' s a) : Mirrors R' V op b s a := by
  unfold Mirrors at h ⊢
  cases hop : op s <;> cases hb : b a <;> simp only [hop, hb] at h ⊢
  · exact ⟨h.1, hR _ _ h.2⟩
  · exact ⟨h.1, hR _ _ h.2⟩

/-- What the names stand for corresponds, and so does what comes of it. -/
theorem mirrors_named_bind {roster : Directory → Roster α} {roster' : Ledger → Roster γ}
    {name : String} {f : α → Op β} {g : γ → Booking δ}
    (h : Option.Rel V ((roster s.directory).get? name) ((roster' a).get? name)) (hR : R s a)
    (hf : ∀ x y, V x y → Mirrors R W (f x) (g y) s a) :
    Mirrors R W (named roster name >>= f) (Booking.named roster' name >>= g) s a := by
  have hlookup := Booking.named_run roster' name a
  cases hx : (roster s.directory).get? name with
  | none =>
      rw [hx] at h
      cases hy : (roster' a).get? name with
      | some y =>
          rw [hy] at h
          cases h
      | none =>
          rw [hy] at hlookup
          refine mirrors_of_error (bind_of_error (named_of_none hx)) ?_ hR
          rw [Booking.bind_run, hlookup]
  | some x =>
      obtain ⟨y, hy, hxy⟩ := exists_of_rel_left h hx
      rw [hy] at hlookup
      have hnext := hf x y hxy
      unfold Mirrors at hnext ⊢
      rw [bind_of_ok (named_of_some hx), Booking.bind_run, hlookup]
      exact hnext

/-- Doing something for each member of a list. -/
theorem mirrors_forM {ι : Type} {l : List ι} {f : ι → Op Unit} {g : ι → Booking Unit} (hR : R s a)
    (hf : ∀ x ∈ l, ∀ s a, R s a → Mirrors R Eq (f x) (g x) s a) :
    Mirrors R Eq (l.forM f) (l.forM g) s a := by
  induction l generalizing s a with
  | nil => exact mirrors_pure rfl hR
  | cons x l ih =>
      refine (hf x List.mem_cons_self s a hR).bind fun _ _ s' a' _ hR' => ?_
      exact ih hR' fun y hy => hf y (List.mem_cons_of_mem x hy)

end Op

section Step

variable {R : Store → Ledger → Prop} {V : Reply → Reply → Prop} {depth : Nat}
  {processWide : Option RegistrationRef} {s : Store} {a : Ledger} {x : Step}

/-- What a mirrored step leaves corresponds. -/
theorem Op.Mirrors.step (h : Op.Mirrors R V (Op.perform depth processWide x) (Booking.perform x)
    { s with trace := #[] } a.clear) : R (Scenario.step depth processWide s x).2 (a.step x).2 := by
  unfold Op.Mirrors at h
  unfold Scenario.step Ledger.step
  cases hop : Op.perform depth processWide x { s with trace := #[] } <;>
    cases hb : Booking.perform x a.clear <;> simp only [hop, hb] at h ⊢ <;> exact h.2

/-- If the trace corresponds too, the step shows what the ledger shows. -/
theorem Op.Mirrors.shows (h : Op.Mirrors R Eq (Op.perform depth processWide x) (Booking.perform x)
    { s with trace := #[] } a.clear) (htrace : ∀ s a, R s a → s.trace = a.trace) :
    (Scenario.step depth processWide s x).1 = (a.step x).1 := by
  unfold Op.Mirrors at h
  unfold Scenario.step Ledger.step
  cases hop : Op.perform depth processWide x { s with trace := #[] } <;>
    cases hb : Booking.perform x a.clear <;> simp only [hop, hb] at h ⊢
  · rw [h.1, htrace _ _ h.2]
  · rw [h.1, htrace _ _ h.2]

end Step

end DeferredMetrics
