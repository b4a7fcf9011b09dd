import DeferredMetrics.Backend
import DeferredMetrics.Binding
import DeferredMetrics.Proofs.Chains
import DeferredMetrics.Registration

set_option autoImplicit false

/-! # Looking at a store after a change

What a reference leads to after an object was added or changed, one lemma for each table, and what
the changes of the library do to the parts of an object that others depend on: whether it is
deferred, its target, and what it keeps. -/

namespace DeferredMetrics

namespace Table

variable {k : ObjectKind} {α : Type}

instance (t : Table k α) (r : Ref k) : Decidable (t.Has r) :=
  inferInstanceAs (Decidable (r.place < t.size))

theorem update_update (t : Table k α) (f g : α → α) (r : Ref k) :
    (t.update r f).update r g = t.update r fun x => g (f x) := by
  obtain ⟨rows⟩ := t
  simp only [update, mk.injEq]
  apply Array.ext
  · simp
  · intro i hi hi'
    simp only [Array.getElem_modify]
    split <;> rfl

variable [Inhabited α]

/-- Nothing is at the next place yet. -/
theorem get_next (t : Table k α) : t.get t.next = default :=
  get_of_not_has (Nat.lt_irrefl t.size)

theorem get_add (t : Table k α) (x : α) (r : Ref k) :
    (t.add x).get r = if r = t.next then x else t.get r := by
  split
  · rename_i h
    rw [h, get_add_next]
  · rename_i h
    by_cases hr : t.Has r
    · exact get_add_of_has t x hr
    · have hr' : ¬ (t.add x).Has r := fun hr' => ((has_add t x r).1 hr').elim hr h
      rw [get_of_not_has hr, get_of_not_has hr']

theorem get_update (t : Table k α) (f : α → α) (r r' : Ref k) :
    (t.update r f).get r' = if r' = r ∧ t.Has r then f (t.get r') else t.get r' := by
  split
  · rename_i h
    rw [h.1, get_update_self t f h.2]
  · rename_i h
    by_cases hr : r' = r
    · subst hr
      have hhas : ¬ t.Has r' := fun hhas => h ⟨rfl, hhas⟩
      rw [get_of_not_has hhas, get_of_not_has (by simpa using hhas)]
    · exact get_update_of_ne t f (Ne.symm hr)

theorem get_update_ite (t : Table k α) (f : α → α) {r : Ref k} (hr : t.Has r) (r' : Ref k) :
    (t.update r f).get r' = if r' = r then f (t.get r') else t.get r' := by
  simp [get_update, hr]

/-- What a change keeps of every object, it keeps of the object at any place. -/
theorem apply_get_update {β : Type} (g : α → β) (t : Table k α) {f : α → α}
    (h : ∀ x, g (f x) = g x) (r r' : Ref k) : g ((t.update r f).get r') = g (t.get r') := by
  rw [get_update]
  split
  · exact h _
  · rfl

/-- A new object that has nothing shows nothing that was not there. -/
theorem apply_get_add {β : Type} (g : α → β) (t : Table k α) {x : α} (h : g x = g default)
    (r : Ref k) : g ((t.add x).get r) = g (t.get r) := by
  rw [get_add]
  split
  · rename_i hr
    rw [hr, get_next]
    exact h
  · rfl

/-- Only what a change does to the object at its place matters. -/
theorem update_congr (t : Table k α) {f g : α → α} {r : Ref k} (h : f (t.get r) = g (t.get r)) :
    t.update r f = t.update r g := by
  obtain ⟨rows⟩ := t
  simp only [update, mk.injEq]
  apply Array.ext
  · simp
  · intro i hi hi'
    have hi : i < rows.size := by simpa using hi
    rw [Array.getElem_modify, Array.getElem_modify]
    split
    · rename_i hplace
      subst hplace
      simpa [get, Array.getD_eq_getD_getElem?, Array.getElem?_eq_getElem hi] using h
    · rfl

/-- A change that changes nothing at its place changes nothing. -/
theorem update_eq_self (t : Table k α) (f : α → α) (r : Ref k) (h : f (t.get r) = t.get r) :
    t.update r f = t := by
  rw [update_congr t (g := id) h]
  obtain ⟨rows⟩ := t
  simp only [update, mk.injEq]
  apply Array.ext
  · simp
  · intro i hi hi'
    rw [Array.getElem_modify]
    split <;> rfl

end Table

namespace Store

variable (s : Store)

theorem provider_updateProvider (r r' : ProviderRef) (f : Provider → Provider) :
    (s.updateProvider r f).provider r' =
      if r' = r ∧ s.providers.Has r then f (s.provider r') else s.provider r' :=
  s.providers.get_update f r r'

theorem registration_updateRegistration (r r' : RegistrationRef) (f : Registration → Registration) :
    (s.updateRegistration r f).registration r' =
      if r' = r ∧ s.registrations.Has r then f (s.registration r') else s.registration r' :=
  s.registrations.get_update f r r'

theorem updateProvider_congr {r : ProviderRef} {f g : Provider → Provider}
    (h : f (s.provider r) = g (s.provider r)) : s.updateProvider r f = s.updateProvider r g := by
  show { s with providers := s.providers.update r f } =
    { s with providers := s.providers.update r g }
  rw [Table.update_congr s.providers h]

theorem updateProvider_eq_self {r : ProviderRef} {f : Provider → Provider}
    (h : f (s.provider r) = s.provider r) : s.updateProvider r f = s := by
  show { s with providers := s.providers.update r f } = s
  rw [Table.update_eq_self s.providers f r h]

theorem updateMeter_congr {r : MeterRef} {f g : Meter → Meter} (h : f (s.meter r) = g (s.meter r)) :
    s.updateMeter r f = s.updateMeter r g := by
  show { s with meters := s.meters.update r f } = { s with meters := s.meters.update r g }
  rw [Table.update_congr s.meters h]

theorem updateMeter_eq_self {r : MeterRef} {f : Meter → Meter} (h : f (s.meter r) = s.meter r) :
    s.updateMeter r f = s := by
  show { s with meters := s.meters.update r f } = s
  rw [Table.update_eq_self s.meters f r h]

variable {s}

theorem instrument_of_not_has {r : InstrumentRef} (h : ¬ s.instruments.Has r) :
    s.instrument r = ⟨default, default, .nowhere⟩ := Table.get_of_not_has h

end Store

end DeferredMetrics
