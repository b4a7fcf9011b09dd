import DeferredMetrics.Roster
import DeferredMetrics.Text.Utf8

set_option autoImplicit false

/-! # The environment of a process

The environment is a list of entries, each the bytes of a name, an equals sign and a value. A
look-up does not take the entries apart: it answers what follows the first entry that begins with
the name asked for and an equals sign. A name with an equals sign in it therefore finds the end of
a value, and the empty name finds nothing. For names without equals signs this is a look-up by
name: `get?_ofValues`. -/

namespace DeferredMetrics

/-- The entries of an environment, in order. -/
structure Environment where
  entries : List (List UInt8)
deriving Inhabited

namespace Environment

/-- An environment without entries. -/
def empty : Environment := ⟨[]⟩

/-- The byte between a name and its value. -/
def equalsSign : UInt8 := 0x3d

/-- The entry of a name and the bytes of its value. -/
def entry (name : String) (value : List UInt8) : List UInt8 :=
  Utf8.encode name ++ equalsSign :: value

/-- The environment of values by name, in the order of the names. -/
def ofValues (values : Roster (List UInt8)) : Environment :=
  ⟨values.entries.map fun e => entry e.1 e.2⟩

/-- What follows the name and an equals sign in an entry that begins with them. -/
def valueIn? (name : String) (bytes : List UInt8) : Option (List UInt8) :=
  (entry name []).isPrefixOf? bytes

/-- The bytes that a look-up of a name finds. -/
def bytes? (e : Environment) (name : String) : Option (List UInt8) :=
  if name = "" then none else e.entries.findSome? (valueIn? name)

/-- The text that a look-up of a name finds. -/
def get? (e : Environment) (name : String) : Option String := (e.bytes? name).map Utf8.decode

/-! ## Names without equals signs -/

/-- The name has no equals sign in it. -/
def Plain (name : String) : Prop := '=' ∉ name.toList

/-- The bytes of a plain name do not have an equals sign among them. -/
theorem equalsSign_notMem {name : String} (h : Plain name) : equalsSign ∉ Utf8.encode name := by
  intro hmem
  obtain ⟨c, hc, hb⟩ := List.mem_flatMap.1 hmem
  have hval := (Utf8.mem_utf8EncodeChar (by decide) c).1 hb
  have heq : c = '=' := Char.ext (UInt32.toNat_inj.1 hval)
  exact h (heq ▸ hc)

theorem isPrefixOf?_cons (x y : UInt8) (a b : List UInt8) :
    (x :: a).isPrefixOf? (y :: b) = if x == y then a.isPrefixOf? b else none := rfl

/-- Where both texts end at the first separator, one is taken off the other only if they agree. -/
theorem isPrefixOf?_append_separator {s : UInt8} {a b : List UInt8} (ha : s ∉ a) (hb : s ∉ b)
    (rest : List UInt8) :
    (a ++ [s]).isPrefixOf? (b ++ s :: rest) = if a = b then some rest else none := by
  induction a generalizing b with
  | nil =>
      cases b with
      | nil => rw [List.nil_append, List.nil_append, isPrefixOf?_cons, beq_self_eq_true]; rfl
      | cons y b =>
          have hy : s ≠ y := fun h => hb (h ▸ List.mem_cons_self)
          rw [List.nil_append, List.cons_append, isPrefixOf?_cons, if_neg (by simpa using hy)]
          rfl
  | cons x a ih =>
      have hx : x ≠ s := fun h => ha (h ▸ List.mem_cons_self)
      cases b with
      | nil =>
          rw [List.cons_append, List.nil_append, isPrefixOf?_cons, if_neg (by simpa using hx)]
          rfl
      | cons y b =>
          rw [List.cons_append, List.cons_append, isPrefixOf?_cons,
            ih (fun h => ha (List.mem_cons_of_mem _ h)) (fun h => hb (List.mem_cons_of_mem _ h))]
          by_cases hxy : x = y <;> simp [hxy]

/-- An entry of a plain name answers to that name, and to no other plain name. -/
theorem valueIn?_entry {name other : String} (hn : Plain name) (ho : Plain other)
    (value : List UInt8) :
    valueIn? name (entry other value) = if other = name then some value else none := by
  rw [valueIn?, entry, entry,
    isPrefixOf?_append_separator (equalsSign_notMem hn) (equalsSign_notMem ho)]
  by_cases h : other = name
  · simp [h]
  · rw [if_neg h, if_neg fun he => h (Utf8.encode_injective he).symm]

/-- A look-up of a plain name among values with plain names finds the value of that name. -/
theorem get?_ofValues {values : Roster (List UInt8)} {name : String} (hempty : name ≠ "")
    (hname : Plain name) (hvalues : ∀ other ∈ values.names, Plain other) :
    (ofValues values).get? name = (values.get? name).map Utf8.decode := by
  obtain ⟨es⟩ := values
  rw [get?, bytes?, if_neg hempty]
  congr 1
  simp only [ofValues, Roster.get?, Roster.names] at hvalues ⊢
  induction es with
  | nil => rfl
  | cons e es ih =>
      have he := hvalues e.1 List.mem_cons_self
      rw [List.map_cons, List.findSome?_cons, valueIn?_entry hname he, List.find?_cons]
      by_cases h : e.1 = name
      · simp [h]
      · simpa [h] using ih fun other hmem => hvalues other (List.mem_cons_of_mem _ hmem)

end Environment

end DeferredMetrics
