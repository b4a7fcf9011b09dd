import DeferredMetrics.Binary64

set_option autoImplicit false

/-! # Attributes

A record and a measurement carry attributes: pairs of a key and a value in the order in which they
were given, with repeated keys kept. A value is a text, a flag, a floating-point number or a signed
integer. `AttributeSet.get?` finds the earliest pair with a key, and `agrees` compares numbers as
numbers, so that it is not reflexive on sets with a NaN. -/

namespace DeferredMetrics

/-- The value of an attribute. -/
inductive AttributeValue where
  | text (t : String)
  | flag (b : Bool)
  | number (x : Binary64)
  | integer (i : Int64)
deriving DecidableEq, Inhabited

namespace AttributeValue

/-- An unsigned integer as a value; one that does not fit becomes the greatest integer. -/
def ofUInt64 (n : UInt64) : AttributeValue :=
  if n.toNat < Binary64.twoTo 63 then .integer n.toInt64 else .integer Int64.maxValue

/-- A short unsigned integer as a value. -/
def ofUInt32 (n : UInt32) : AttributeValue := ofUInt64 n.toUInt64

/-- A short signed integer as a value. -/
def ofInt32 (n : Int32) : AttributeValue := .integer n.toInt64

/-- Equality with numbers compared as numbers; values of two kinds never agree. -/
def agrees : AttributeValue → AttributeValue → Bool
  | .text s, .text t => decide (s = t)
  | .flag a, .flag b => decide (a = b)
  | .number x, .number y => x.agrees y
  | .integer i, .integer j => decide (i = j)
  | _, _ => false

theorem agrees_comm (v w : AttributeValue) : v.agrees w = w.agrees v := by
  cases v <;> cases w <;> simp only [agrees, Binary64.agrees_comm] <;>
    exact decide_eq_decide.2 eq_comm

end AttributeValue

/-- A key with its value. -/
structure Attribute where
  key : String
  value : AttributeValue
deriving DecidableEq, Inhabited

namespace Attribute

/-- Same key and values that agree. -/
def agrees (a b : Attribute) : Bool := decide (a.key = b.key) && a.value.agrees b.value

theorem agrees_comm (a b : Attribute) : a.agrees b = b.agrees a := by
  simp only [agrees, AttributeValue.agrees_comm a.value]
  rw [decide_eq_decide.2 (eq_comm (a := a.key) (b := b.key))]

end Attribute

/-- Attributes in the order in which they were added. -/
structure AttributeSet where
  entries : List Attribute
deriving DecidableEq, Inhabited

namespace AttributeSet

/-- No attribute. -/
def empty : AttributeSet := ⟨[]⟩

/-- The attributes of a list, in its order. -/
def ofList (entries : List Attribute) : AttributeSet := ⟨entries⟩

/-- The attributes of `other` after those of the set. -/
def extend (s : AttributeSet) (other : List Attribute) : AttributeSet := ⟨s.entries ++ other⟩

/-- One attribute after the others. -/
def push (s : AttributeSet) (key : String) (value : AttributeValue) : AttributeSet :=
  s.extend [⟨key, value⟩]

/-- The value of the earliest attribute with the key. -/
def get? (s : AttributeSet) (key : String) : Option AttributeValue :=
  (s.entries.find? fun a => a.key == key).map Attribute.value

/-- How many attributes there are, repeated keys counted. -/
def size (s : AttributeSet) : Nat := s.entries.length

/-- There is no attribute. -/
def isEmpty (s : AttributeSet) : Bool := s.entries.isEmpty

/-- Lists of one length whose members agree one by one. -/
def entriesAgree : List Attribute → List Attribute → Bool
  | [], [] => true
  | a :: as, b :: bs => a.agrees b && entriesAgree as bs
  | _, _ => false

/-- The sets agree attribute by attribute, in order. -/
def agrees (s t : AttributeSet) : Bool := entriesAgree s.entries t.entries

@[simp] theorem entries_empty : empty.entries = [] := rfl

@[simp] theorem entries_extend (s : AttributeSet) (other : List Attribute) :
    (s.extend other).entries = s.entries ++ other := rfl

@[simp] theorem entries_push (s : AttributeSet) (key : String) (value : AttributeValue) :
    (s.push key value).entries = s.entries ++ [⟨key, value⟩] := rfl

@[simp] theorem get?_empty (key : String) : empty.get? key = none := rfl

/-- An extension is searched after the older part. -/
theorem get?_extend (s : AttributeSet) (other : List Attribute) (key : String) :
    (s.extend other).get? key = (s.get? key).or ((ofList other).get? key) := by
  simp only [get?, entries_extend, List.find?_append, ofList]
  cases s.entries.find? fun a => a.key == key <;> simp

end AttributeSet

end DeferredMetrics
