import DeferredMetrics.Store.Chain
import Mathlib.Data.Finset.Card
import Mathlib.Logic.Relation

set_option autoImplicit false

/-! # Chains that end

A chain of targets is followed with a bounded number of looks. The bound is no restriction: in a
table with `n` objects a chain that ends at all is followed to its end in `n + 1` looks, because it
passes no object twice (`chase_eq_some_iff`). So an object has an end exactly if its chain is not
circular. Chains that end are not lost by adding targets in reverse: if a chain ends after more
objects got targets, it ended before (`ends_of_later`). -/

namespace DeferredMetrics

section Chase

variable {α : Type} {next : α → Option α}

/-- The chain from `x` leads to `y`. -/
def Leads (next : α → Option α) : α → α → Prop := Relation.ReflTransGen fun x y => next x = some y

/-- The chain from `x` ends at `e`. -/
def EndsAt (next : α → Option α) (x e : α) : Prop := Leads next x e ∧ next e = none

theorem endsAt_self {x : α} (h : next x = none) : EndsAt next x x := ⟨.refl, h⟩

theorem EndsAt.head {x y e : α} (hxy : next x = some y) (h : EndsAt next y e) : EndsAt next x e :=
  ⟨.head hxy h.1, h.2⟩

/-- A chain has the end that it has from its second place on. -/
theorem endsAt_iff_of_next {x y e : α} (hxy : next x = some y) :
    EndsAt next x e ↔ EndsAt next y e := by
  refine ⟨fun h => ?_, .head hxy⟩
  rcases Relation.ReflTransGen.cases_head h.1 with rfl | ⟨z, hxz, hz⟩
  · exact absurd (hxy.symm.trans h.2) (by simp)
  · obtain rfl := Option.some.inj (hxz.symm.trans hxy)
    exact ⟨hz, h.2⟩

theorem endsAt_of_chase {fuel : Nat} {x e : α} (h : chase next fuel x = some e) :
    EndsAt next x e := by
  induction fuel generalizing x with
  | zero => simp [chase] at h
  | succ fuel ih =>
      cases hx : next x with
      | none =>
          rw [chase_of_none fuel hx] at h
          cases h
          exact endsAt_self hx
      | some y =>
          rw [chase_of_some fuel hx] at h
          exact (ih h).head hx

/-- Whatever a chain passes has the same end, and needs no more looks for it. -/
theorem chase_of_leads {fuel : Nat} {x y e : α} (hxy : Leads next x y)
    (h : chase next fuel x = some e) : chase next fuel y = some e := by
  induction hxy with
  | refl => exact h
  | @tail b c _ hbc ih =>
      cases fuel with
      | zero => simp [chase] at ih
      | succ fuel =>
          rw [chase_of_some fuel hbc] at ih
          exact chase_mono ih (Nat.le_succ fuel)

/-- A chain that ends does not come back. -/
theorem not_leads_back {fuel : Nat} {x y e : α} (hxy : next x = some y)
    (h : chase next fuel x = some e) : ¬ Leads next y x := by
  intro hyx
  induction fuel with
  | zero => simp [chase] at h
  | succ fuel ih =>
      rw [chase_of_some fuel hxy] at h
      exact ih (chase_of_leads hyx h)

/-- If all that is handed on from stands at places in `places`, one look more than there are places
is enough. -/
theorem chase_of_places (place : α → Nat) (hplace : Function.Injective place) {fuel : Nat} {x e : α}
    (h : chase next fuel x = some e) (places : Finset Nat)
    (hall : ∀ y, Leads next x y → next y ≠ none → place y ∈ places) :
    chase next (places.card + 1) x = some e := by
  induction fuel generalizing x places with
  | zero => simp [chase] at h
  | succ fuel ih =>
      cases hx : next x with
      | none =>
          rw [chase_of_none _ hx] at h ⊢
          exact h
      | some y =>
          have hback : ¬ Leads next y x := not_leads_back hx h
          rw [chase_of_some _ hx] at h ⊢
          have hmem : place x ∈ places := hall x .refl (by simp [hx])
          have hcard : (places.erase (place x)).card + 1 = places.card :=
            Finset.card_erase_add_one hmem
          rw [← hcard]
          apply ih h
          intro z hz hnext
          refine Finset.mem_erase.2 ⟨?_, hall z (.head hx hz) hnext⟩
          intro heq
          exact hback (hplace heq ▸ hz)

theorem exists_chase_of_endsAt {x e : α} (h : EndsAt next x e) :
    ∃ fuel, chase next fuel x = some e := by
  obtain ⟨hlead, hend⟩ := h
  induction hlead using Relation.ReflTransGen.head_induction_on with
  | refl => exact ⟨1, chase_of_none 0 hend⟩
  | head hxy _ ih =>
      obtain ⟨fuel, hfuel⟩ := ih
      exact ⟨fuel + 1, by rw [chase_of_some fuel hxy]; exact hfuel⟩

/-- A chain that ends with more targets has an end with fewer. -/
theorem ends_of_later {next' : α → Option α} (hle : ∀ x y, next x = some y → next' x = some y)
    {x : α} (h : ∃ e, EndsAt next' x e) : ∃ e, EndsAt next x e := by
  obtain ⟨e, hlead, hend⟩ := h
  induction hlead using Relation.ReflTransGen.head_induction_on with
  | refl =>
      cases hx : next e with
      | none => exact ⟨e, endsAt_self hx⟩
      | some y => exact absurd (hle e y hx) (by simp [hend])
  | @head x y hxy _ ih =>
      cases hx : next x with
      | none => exact ⟨x, endsAt_self hx⟩
      | some z =>
          have hzy : z = y := Option.some.inj ((hle x z hx).symm.trans hxy)
          obtain ⟨e', he'⟩ := ih
          exact ⟨e', EndsAt.head (hx.trans (congrArg some hzy)) he'⟩

theorem Leads.mono {next' : α → Option α} (hle : ∀ x y, next x = some y → next' x = some y)
    {x y : α} (h : Leads next x y) : Leads next' x y := by
  induction h with
  | refl => exact .refl
  | tail _ hbc ih => exact .tail ih (hle _ _ hbc)

end Chase

section Tables

variable {k : ObjectKind} {α : Type} [Inhabited α]

theorem Table.get_of_not_has {t : Table k α} {r : Ref k} (h : ¬ t.Has r) : t.get r = default := by
  have h' : t.rows.size ≤ r.place := Nat.le_of_not_lt h
  simp [Table.get, Array.getD_eq_getD_getElem?, Array.getElem?_eq_none h']

theorem Ref.place_injective : Function.Injective (Ref.place : Ref k → Nat) := by
  rintro ⟨a⟩ ⟨b⟩ h
  exact congrArg Ref.mk h

/-- In a table, one look more than there are objects is enough to follow a chain to its end. -/
theorem chase_eq_some_iff (t : Table k α) {target : α → Option (Ref k)}
    (hdefault : target default = none) {x e : Ref k} :
    chase (fun r => target (t.get r)) (t.size + 1) x = some e ↔
      EndsAt (fun r => target (t.get r)) x e := by
  constructor
  · exact endsAt_of_chase
  · intro h
    obtain ⟨fuel, hfuel⟩ := exists_chase_of_endsAt h
    have hplaces := chase_of_places Ref.place Ref.place_injective hfuel (Finset.range t.size) ?_
    · rwa [Finset.card_range] at hplaces
    · intro y _ hy
      refine Finset.mem_range.2 ?_
      by_contra hnot
      exact hy (by simpa [Table.get_of_not_has hnot] using hdefault)

end Tables

namespace Store

variable {s : Store}

/-- The chain of targets leads from one provider to another. -/
def HandsOn (s : Store) : ProviderRef → ProviderRef → Prop := Leads fun r => (s.provider r).target?

theorem providerEnd?_eq_some {p e : ProviderRef} :
    s.providerEnd? p = some e ↔ EndsAt (fun r => (s.provider r).target?) p e :=
  chase_eq_some_iff s.providers rfl

theorem meterEnd?_eq_some {m e : MeterRef} :
    s.meterEnd? m = some e ↔ EndsAt (fun r => (s.meter r).target?) m e :=
  chase_eq_some_iff s.meters rfl

theorem instrumentEnd?_eq_some {i e : InstrumentRef} :
    s.instrumentEnd? i = some e ↔ EndsAt (fun r => (s.instrument r).target?) i e :=
  chase_eq_some_iff s.instruments rfl

theorem providerEnd?_of_target {d t : ProviderRef} (h : (s.provider d).target? = some t) :
    s.providerEnd? d = s.providerEnd? t :=
  Option.ext fun _ => by rw [providerEnd?_eq_some, providerEnd?_eq_some, endsAt_iff_of_next h]

theorem meterEnd?_of_target {d t : MeterRef} (h : (s.meter d).target? = some t) :
    s.meterEnd? d = s.meterEnd? t :=
  Option.ext fun _ => by rw [meterEnd?_eq_some, meterEnd?_eq_some, endsAt_iff_of_next h]

end Store

end DeferredMetrics
