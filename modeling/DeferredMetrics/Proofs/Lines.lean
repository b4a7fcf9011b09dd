import DeferredMetrics.Proofs.Chains

set_option autoImplicit false

/-! # Lines

Objects that hand on to others stand in lines if nothing is handed on to by two of them. A line
begins at an object that callers hold, its head, and what comes later in it was made later. So what
stands in a line is led to by one head and by no other (`Lines.existsUnique_head`), and a line that
stands in a table has an end (`Lines.exists_end`). A new object either begins a line of its own or
goes to the end of one. -/

namespace DeferredMetrics

/-- The objects in `own` stand in lines, and those in `held` are the heads. -/
structure Lines {k : ObjectKind} (next : Ref k → Option (Ref k)) (held own : Ref k → Prop) :
    Prop where
  own_of_held : ∀ x, held x → own x
  order : ∀ x y, own x → next x = some y → x.place < y.place
  closed : ∀ x y, own x → next x = some y → own y
  owned : ∀ y, own y → held y ∨ ∃ x, own x ∧ next x = some y
  head : ∀ x y, own x → next x = some y → ¬ held y
  once : ∀ x x' y, own x → own x' → next x = some y → next x' = some y → x = x'

namespace Lines

variable {k : ObjectKind} {next : Ref k → Option (Ref k)} {held own : Ref k → Prop} {x y : Ref k}

/-- Objects that hand nothing on stand in lines of their own. -/
theorem alone (h : ∀ x, own x → next x = none) : Lines next own own where
  own_of_held _ hx := hx
  order x y hx hxy := by simp [h x hx] at hxy
  closed x y hx hxy := by simp [h x hx] at hxy
  owned _ hy := .inl hy
  head x y hx hxy := by simp [h x hx] at hxy
  once x x' y hx _ hxy := by simp [h x hx] at hxy

theorem own_of_leads (h : Lines next held own) (hx : own x) (hlead : Leads next x y) : own y := by
  induction hlead with
  | refl => exact hx
  | tail _ hnext ih => exact h.closed _ _ ih hnext

/-- Everything that stands in a line is led to by a head. -/
theorem exists_head (h : Lines next held own) (hy : own y) : ∃ x, held x ∧ Leads next x y := by
  induction hplace : y.place using Nat.strong_induction_on generalizing y with
  | _ n ih =>
      rcases h.owned y hy with hheld | ⟨x, hx, hnext⟩
      · exact ⟨y, hheld, .refl⟩
      · obtain ⟨z, hz, hlead⟩ := ih x.place (hplace ▸ h.order x y hx hnext) hx rfl
        exact ⟨z, hz, hlead.tail hnext⟩

/-- No two heads lead to the same object. -/
theorem head_unique {x' : Ref k} (h : Lines next held own) (hx : held x) (hx' : held x')
    (hlead : Leads next x y) (hlead' : Leads next x' y) : x = x' := by
  induction hlead with
  | refl =>
      cases hlead' with
      | refl => rfl
      | tail hlead' hnext =>
          exact absurd hx (h.head _ x (h.own_of_leads (h.own_of_held x' hx') hlead') hnext)
  | @tail b c hlead hnext ih =>
      have hb := h.own_of_leads (h.own_of_held x hx) hlead
      cases hlead' with
      | refl => exact absurd hx' (h.head b x' hb hnext)
      | @tail b' _ hlead' hnext' =>
          have hb' := h.own_of_leads (h.own_of_held x' hx') hlead'
          exact ih (h.once b b' c hb hb' hnext hnext' ▸ hlead')

/-- One head leads to the end of a line. -/
theorem existsUnique_head (h : Lines next held own) (hy : own y) (hend : next y = none) :
    ∃! x, held x ∧ EndsAt next x y := by
  obtain ⟨x, hx, hlead⟩ := h.exists_head hy
  exact ⟨x, ⟨hx, hlead, hend⟩, fun x' hx' => h.head_unique hx'.1 hx hx'.2.1 hlead⟩

/-- Where places are bounded, lines have ends. -/
theorem exists_end (h : Lines next held own) {size : Nat} (hsize : ∀ z, own z → z.place < size)
    (hx : own x) : ∃ e, own e ∧ EndsAt next x e := by
  induction hrest : size - x.place using Nat.strong_induction_on generalizing x with
  | _ n ih =>
      cases hnext : next x with
      | none => exact ⟨x, hx, endsAt_self hnext⟩
      | some y =>
          have hy := h.closed x y hx hnext
          have hless : size - y.place < n := by
            have hxy := h.order x y hx hnext
            have hbound := hsize y hy
            omega
          obtain ⟨e, he, hends⟩ := ih _ hless hy rfl
          exact ⟨e, he, hends.head hnext⟩

/-- Only what the objects hand on to matters. -/
theorem congr {next' : Ref k → Option (Ref k)} (h : Lines next held own)
    (hsame : ∀ z, own z → next' z = next z) : Lines next' held own where
  own_of_held := h.own_of_held
  order x y hx hnext := h.order x y hx (hsame x hx ▸ hnext)
  closed x y hx hnext := h.closed x y hx (hsame x hx ▸ hnext)
  owned y hy := by
    refine (h.owned y hy).imp_right fun ⟨x, hx, hnext⟩ => ⟨x, hx, ?_⟩
    rw [hsame x hx]
    exact hnext
  head x y hx hnext := h.head x y hx (hsame x hx ▸ hnext)
  once x x' y hx hx' hnext hnext' :=
    h.once x x' y hx hx' (hsame x hx ▸ hnext) (hsame x' hx' ▸ hnext')

/-- A new object that callers hold begins a line. -/
theorem begin {next' : Ref k → Option (Ref k)} (h : Lines next held own) (hnew : ¬ own y)
    (hsame : ∀ z, own z → next' z = next z) (hy : next' y = none) :
    Lines next' (fun z => z = y ∨ held z) fun z => z = y ∨ own z := by
  have hold : ∀ x z, (x = y ∨ own x) → next' x = some z → own x ∧ next x = some z := by
    rintro x z (rfl | hx) hnext
    · rw [hy] at hnext
      cases hnext
    · exact ⟨hx, hsame x hx ▸ hnext⟩
  constructor
  case own_of_held => exact fun x hx => hx.imp_right (h.own_of_held x)
  case order =>
    intro x z hx hnext
    obtain ⟨hx, hnext⟩ := hold x z hx hnext
    exact h.order x z hx hnext
  case closed =>
    intro x z hx hnext
    obtain ⟨hx, hnext⟩ := hold x z hx hnext
    exact .inr (h.closed x z hx hnext)
  case owned =>
    rintro z (rfl | hz)
    · exact .inl (.inl rfl)
    · rcases h.owned z hz with hheld | ⟨x, hx, hnext⟩
      · exact .inl (.inr hheld)
      · exact .inr ⟨x, .inr hx, (hsame x hx).trans hnext⟩
  case head =>
    intro x z hx hnext hheld
    obtain ⟨hown, hstep⟩ := hold x z hx hnext
    rcases hheld with rfl | hheld
    · exact hnew (h.closed x z hown hstep)
    · exact h.head x z hown hstep hheld
  case once =>
    intro x x' z hx hx' hnext hnext'
    obtain ⟨hx, hnext⟩ := hold x z hx hnext
    obtain ⟨hx', hnext'⟩ := hold x' z hx' hnext'
    exact h.once x x' z hx hx' hnext hnext'

/-- A line goes on with another one, whose head is held no longer. -/
theorem join {next' : Ref k → Option (Ref k)} (h : Lines next (fun z => z = y ∨ held z) own)
    (hy : ¬ held y) (hx : own x) (hend : next x = none) (horder : x.place < y.place)
    (hsame : ∀ z, own z → z ≠ x → next' z = next z) (hxy : next' x = some y) :
    Lines next' held own := by
  -- who hands on now has done so before, or is the old end and hands on to the old head
  have hold : ∀ z w, own z → next' z = some w → z = x ∧ w = y ∨ next z = some w := by
    intro z w hz hnext
    by_cases hzx : z = x
    · rw [hzx, hxy] at hnext
      exact .inl ⟨hzx, (Option.some.inj hnext).symm⟩
    · exact .inr (hsame z hz hzx ▸ hnext)
  constructor
  case own_of_held => exact fun z hz => h.own_of_held z (.inr hz)
  case order =>
    intro z w hz hnext
    rcases hold z w hz hnext with ⟨rfl, rfl⟩ | hnext
    · exact horder
    · exact h.order z w hz hnext
  case closed =>
    intro z w hz hnext
    rcases hold z w hz hnext with ⟨_, rfl⟩ | hnext
    · exact h.own_of_held w (.inl rfl)
    · exact h.closed z w hz hnext
  case owned =>
    intro w hw
    rcases h.owned w hw with (rfl | hheld) | ⟨z, hz, hnext⟩
    · exact .inr ⟨x, hx, hxy⟩
    · exact .inl hheld
    · have hzx : z ≠ x := by
        rintro rfl
        rw [hend] at hnext
        cases hnext
      exact .inr ⟨z, hz, (hsame z hz hzx).trans hnext⟩
  case head =>
    intro z w hz hnext hheld
    rcases hold z w hz hnext with ⟨_, rfl⟩ | hnext
    · exact hy hheld
    · exact h.head z w hz hnext (.inr hheld)
  case once =>
    intro z z' w hz hz' hnext hnext'
    rcases hold z w hz hnext with ⟨rfl, hw⟩ | hnext <;>
      rcases hold z' w hz' hnext' with ⟨rfl, hw'⟩ | hnext'
    · rfl
    · exact absurd (.inl hw) (h.head z' w hz' hnext')
    · exact absurd (.inl hw') (h.head z w hz hnext)
    · exact h.once z z' w hz hz' hnext hnext'

/-- A new object that nobody holds goes to the end of a line. -/
theorem extend {next' : Ref k → Option (Ref k)} (h : Lines next held own) (hnew : ¬ own y)
    (hx : own x) (hend : next x = none) (horder : x.place < y.place)
    (hsame : ∀ z, own z → z ≠ x → next' z = next z) (hxy : next' x = some y) (hy : next' y = none) :
    Lines next' held fun z => z = y ∨ own z := by
  -- it begins a line of its own, and then the old line goes on with that
  have hbegin : Lines (fun z => if z = x then none else next' z) (fun z => z = y ∨ held z)
      fun z => z = y ∨ own z := by
    refine h.begin hnew (fun z hz => ?_) ?_
    · by_cases hzx : z = x
      · rw [if_pos hzx, hzx, hend]
      · rw [if_neg hzx, hsame z hz hzx]
    · rw [if_neg fun hyx : y = x => hnew (hyx ▸ hx), hy]
  exact hbegin.join (fun hheld => hnew (h.own_of_held y hheld)) (.inr hx) (if_pos rfl) horder
    (fun z _ hzx => (if_neg hzx).symm) hxy

end Lines

end DeferredMetrics
