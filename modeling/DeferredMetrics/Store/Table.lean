set_option autoImplicit false

/-! # Tables of objects

The objects of one kind stand in a table at consecutive places, in the order in which they were
made. A reference is a place, marked with the kind of object it refers to. Objects are added at the
end and changed in place; none is ever removed, so a reference keeps its meaning. The lemmas say
what `get` finds after each operation. -/

namespace DeferredMetrics

/-- The kinds of objects that are referred to. -/
inductive ObjectKind where
  | provider
  | meter
  | instrument
  | callback
  | registry
  | registration

/-- A place in the table of one kind of object. -/
structure Ref (k : ObjectKind) where
  place : Nat
deriving DecidableEq, Inhabited

abbrev ProviderRef := Ref .provider
abbrev MeterRef := Ref .meter
abbrev InstrumentRef := Ref .instrument
abbrev CallbackRef := Ref .callback
abbrev RegistryRef := Ref .registry
abbrev RegistrationRef := Ref .registration

/-- Objects of one kind in the order in which they were made. -/
structure Table (k : ObjectKind) (α : Type) where
  rows : Array α

namespace Table

variable {k : ObjectKind} {α : Type}

/-- A table without objects. -/
def empty : Table k α := ⟨#[]⟩

/-- How many objects there are. -/
def size (t : Table k α) : Nat := t.rows.size

/-- The reference that the next object will have. -/
def next (t : Table k α) : Ref k := ⟨t.size⟩

/-- The table has an object at the place of `r`. -/
def Has (t : Table k α) (r : Ref k) : Prop := r.place < t.size

/-- One object more. -/
def add (t : Table k α) (x : α) : Table k α := ⟨t.rows.push x⟩

/-- The object that `r` refers to. -/
def get [Inhabited α] (t : Table k α) (r : Ref k) : α := t.rows.getD r.place default

/-- The table with one object changed by `f`. -/
def update (t : Table k α) (r : Ref k) (f : α → α) : Table k α := ⟨t.rows.modify r.place f⟩

@[simp] theorem size_empty : (empty : Table k α).size = 0 := rfl

@[simp] theorem size_add (t : Table k α) (x : α) : (t.add x).size = t.size + 1 := by
  simp [size, add]

@[simp] theorem size_update (t : Table k α) (r : Ref k) (f : α → α) :
    (t.update r f).size = t.size := by
  simp [size, update]

@[simp] theorem has_update (t : Table k α) (r r' : Ref k) (f : α → α) :
    (t.update r f).Has r' ↔ t.Has r' := by
  simp [Has]

theorem has_add (t : Table k α) (x : α) (r : Ref k) :
    (t.add x).Has r ↔ t.Has r ∨ r = t.next := by
  obtain ⟨n⟩ := r
  simp only [Has, next, size_add, Ref.mk.injEq]
  omega

theorem has_next_add (t : Table k α) (x : α) : (t.add x).Has t.next := by
  simp [has_add]

theorem ne_next_of_has {t : Table k α} {r : Ref k} (h : t.Has r) : r ≠ t.next := by
  rintro rfl
  exact Nat.lt_irrefl _ h

variable [Inhabited α]

theorem get_add_next (t : Table k α) (x : α) : (t.add x).get t.next = x := by
  simp [get, add, next, size, Array.getD_eq_getD_getElem?]

theorem get_add_of_has (t : Table k α) (x : α) {r : Ref k} (h : t.Has r) :
    (t.add x).get r = t.get r := by
  simp only [get, add, Array.getD_eq_getD_getElem?]
  rw [Array.getElem?_push_lt h, Array.getElem?_eq_getElem h]

theorem get_update_self (t : Table k α) (f : α → α) {r : Ref k} (h : t.Has r) :
    (t.update r f).get r = f (t.get r) := by
  have h' : r.place < t.rows.size := h
  simp [get, update, Array.getD_eq_getD_getElem?, Array.getElem?_modify,
    Array.getElem?_eq_getElem h']

theorem get_update_of_ne (t : Table k α) (f : α → α) {r r' : Ref k} (h : r ≠ r') :
    (t.update r f).get r' = t.get r' := by
  have h' : r.place ≠ r'.place := by
    intro he
    apply h
    cases r
    cases r'
    simp_all
  simp [get, update, Array.getD_eq_getD_getElem?, Array.getElem?_modify, h']

end Table

end DeferredMetrics
