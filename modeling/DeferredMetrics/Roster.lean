set_option autoImplicit false

/-! # Rosters

A roster holds at most one value under each name and lists its names in the order of texts. Writing
to a name replaces what was there. The lemmas say what a look-up finds after each operation, and
that the names of a roster made by these operations strictly increase. -/

namespace DeferredMetrics

/-- Values by name, the names in increasing order. -/
structure Roster (α : Type) where
  entries : List (String × α)
deriving Inhabited

namespace Roster

variable {α : Type}

/-- Nothing under any name. -/
def empty : Roster α := ⟨[]⟩

/-- The value under a name. -/
def get? (r : Roster α) (name : String) : Option α :=
  (r.entries.find? fun e => decide (e.1 = name)).map Prod.snd

/-- There is a value under the name. -/
def contains (r : Roster α) (name : String) : Bool := (r.get? name).isSome

/-- The names, in order. -/
def names (r : Roster α) : List String := r.entries.map Prod.fst

/-- The first name, in order, whose value satisfies `p`. -/
def nameOf? (r : Roster α) (p : α → Bool) : Option String :=
  (r.entries.find? fun e => p e.2).map Prod.fst

/-- Put a pair at its place in a list. -/
def insertEntry (name : String) (x : α) : List (String × α) → List (String × α)
  | [] => [(name, x)]
  | e :: es =>
      if name < e.1 then (name, x) :: e :: es
      else if e.1 = name then (name, x) :: es
      else e :: insertEntry name x es

/-- Write a value under a name. -/
def insert (r : Roster α) (name : String) (x : α) : Roster α := ⟨insertEntry name x r.entries⟩

/-- Leave nothing under a name. -/
def erase (r : Roster α) (name : String) : Roster α :=
  ⟨r.entries.filter fun e => !decide (e.1 = name)⟩

/-- The roster of a list of pairs; of two pairs with one name the later counts. -/
def ofList (l : List (String × α)) : Roster α := l.foldl (fun r e => r.insert e.1 e.2) empty

/-- The names strictly increase. -/
def Ordered (r : Roster α) : Prop := r.names.Pairwise (· < ·)

@[simp] theorem get?_empty (name : String) : (empty : Roster α).get? name = none := rfl

/-- What is found under a name stands in an entry. -/
theorem exists_entry {r : Roster α} {name : String} {x : α} (h : r.get? name = some x) :
    ∃ e ∈ r.entries, e.2 = x := by
  obtain ⟨e, he, rfl⟩ := Option.map_eq_some_iff.1 h
  exact ⟨e, List.mem_of_find?_eq_some he, rfl⟩

theorem find?_insertEntry (name other : String) (x : α) (es : List (String × α)) :
    (insertEntry name x es).find? (fun e => decide (e.1 = other)) =
      if name = other then some (name, x) else es.find? fun e => decide (e.1 = other) := by
  induction es with
  | nil => by_cases h : name = other <;> simp [insertEntry, h]
  | cons e es ih =>
      rw [insertEntry]
      split
      · by_cases h : name = other <;> simp [List.find?_cons, h]
      · split
        · rename_i he
          by_cases h : name = other
          · simp [h]
          · simp [he, h]
        · rename_i he
          rw [List.find?_cons, ih]
          by_cases h : name = other
          · subst h
            simp [he]
          · simp [List.find?_cons, h]

/-- After writing, the name has the new value and every other name what it had. -/
theorem get?_insert (r : Roster α) (name other : String) (x : α) :
    (r.insert name x).get? other = if name = other then some x else r.get? other := by
  rw [get?, insert, find?_insertEntry]
  split <;> rfl

@[simp] theorem get?_insert_self (r : Roster α) (name : String) (x : α) :
    (r.insert name x).get? name = some x := by
  rw [get?_insert, if_pos rfl]

theorem get?_insert_of_ne (r : Roster α) {name other : String} (x : α) (h : name ≠ other) :
    (r.insert name x).get? other = r.get? other := by
  rw [get?_insert, if_neg h]

theorem find?_filter_ne (name other : String) (es : List (String × α)) :
    (es.filter fun e => !decide (e.1 = name)).find? (fun e => decide (e.1 = other)) =
      if name = other then none else es.find? fun e => decide (e.1 = other) := by
  induction es with
  | nil => simp
  | cons e es ih =>
      by_cases he : e.1 = name
      · rw [List.filter_cons_of_neg (by simp [he]), ih]
        by_cases h : name = other
        · simp [h]
        · simp [h, he]
      · rw [List.filter_cons_of_pos (by simp [he]), List.find?_cons, ih, List.find?_cons]
        by_cases h : name = other
        · subst h
          simp [he]
        · simp [h]

/-- After erasing, the name has no value and every other name what it had. -/
theorem get?_erase (r : Roster α) (name other : String) :
    (r.erase name).get? other = if name = other then none else r.get? other := by
  rw [get?, erase, find?_filter_ne]
  split <;> rfl

theorem mem_names_insert (r : Roster α) (name other : String) (x : α) :
    other ∈ (r.insert name x).names ↔ other = name ∨ other ∈ r.names := by
  obtain ⟨es⟩ := r
  simp only [names, insert]
  induction es with
  | nil => simp [insertEntry]
  | cons e es ih =>
      rw [insertEntry]
      split
      · simp
      · split
        · rename_i he
          simp [he]
        · simp only [List.map_cons, List.mem_cons, ih]
          exact or_left_comm

theorem mem_names_iff (r : Roster α) (name : String) : name ∈ r.names ↔ r.contains name = true := by
  obtain ⟨es⟩ := r
  simp only [names, contains, get?]
  induction es with
  | nil => simp
  | cons e es ih =>
      by_cases h : e.1 = name
      · simp [h]
      · have h' : ¬ name = e.1 := fun hn => h hn.symm
        simp only [List.map_cons, List.mem_cons, h', false_or, ih, List.find?_cons, h, decide_false]

theorem ordered_empty : (empty : Roster α).Ordered := List.Pairwise.nil

theorem ordered_insert (r : Roster α) (name : String) (x : α) (h : r.Ordered) :
    (r.insert name x).Ordered := by
  obtain ⟨es⟩ := r
  induction es with
  | nil => exact List.pairwise_singleton _ _
  | cons e es ih =>
      obtain ⟨hhead, htail⟩ := List.pairwise_cons.1 h
      have ih := ih htail
      simp only [Ordered, names, insert] at *
      rw [insertEntry]
      split
      · rename_i hlt
        refine List.pairwise_cons.2 ⟨?_, h⟩
        intro other hmem
        rcases List.mem_cons.1 hmem with rfl | hmem
        · exact hlt
        · exact String.lt_trans hlt (hhead other hmem)
      · split
        · rename_i he
          subst he
          exact List.pairwise_cons.2 ⟨hhead, htail⟩
        · rename_i hnlt hne
          refine List.pairwise_cons.2 ⟨?_, ih⟩
          intro other hmem
          rcases (mem_names_insert ⟨es⟩ name other x).1 hmem with rfl | hmem
          · have hle := String.not_lt.1 hnlt
            apply Classical.byContradiction
            intro hn
            exact hne (String.le_antisymm hle (String.not_lt.1 hn))
          · exact hhead other hmem

theorem ordered_ofList (l : List (String × α)) : (ofList l).Ordered := by
  suffices h : ∀ r : Roster α, r.Ordered →
      (l.foldl (fun r e => r.insert e.1 e.2) r).Ordered from h empty ordered_empty
  induction l with
  | nil => exact fun r h => h
  | cons e l ih => exact fun r h => ih _ (ordered_insert r e.1 e.2 h)

end Roster

end DeferredMetrics
