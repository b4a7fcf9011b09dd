import Mathlib.Data.List.Induction
import DeferredMetrics.Instrument
import DeferredMetrics.Scenario.AttributeSteps

set_option autoImplicit false

/-! # The laws of attribute sets

What a set holds is told by its history: the pairs that were put in since it was last replaced or
cleared, in order and bit for bit (`entries_after_recent`). Equality compares numbers as numbers, so
that a NaN is not equal to itself and the two zeros are equal. It is therefore no equivalence, but
symmetric and transitive, and it fits what is done with sets: equal sets extended by equal sets are
equal, and searches in equal sets find equal values (`EqualityLaws`). The main statement is
`attributes_lawful`. -/

namespace DeferredMetrics

/-! ## Values -/

/-- The variants of a value. -/
inductive Variant where
  | text
  | flag
  | number
  | integer
deriving DecidableEq

namespace AttributeValue

/-- The variant of the value. -/
def variant : AttributeValue → Variant
  | .text _ => .text
  | .flag _ => .flag
  | .number _ => .number
  | .integer _ => .integer

/-- The value is no number, though its variant says so. -/
def isNaN : AttributeValue → Bool
  | .number x => x.isNaN
  | _ => false

/-- Values of different variants are never equal. -/
theorem variant_of_agrees {v w : AttributeValue} (h : v.agrees w = true) :
    v.variant = w.variant := by
  cases v <;> cases w <;> first | rfl | cases h

theorem agrees_trans {u v w : AttributeValue} (huv : u.agrees v = true) (hvw : v.agrees w = true) :
    u.agrees w = true := by
  cases v with
  | number y =>
      cases u <;> try cases huv
      cases w <;> try cases hvw
      exact Binary64.agrees_trans huv hvw
  | _ =>
      cases u <;> try cases huv
      cases w <;> try cases hvw
      simp only [agrees, decide_eq_true_eq] at *
      exact huv.trans hvw

/-- A value equals its own copy exactly if it is no NaN. -/
theorem agrees_self (v : AttributeValue) : v.agrees v = !v.isNaN := by
  cases v <;> simp [agrees, isNaN, Binary64.agrees_self]

end AttributeValue

namespace Attribute

theorem key_of_agrees {a b : Attribute} (h : a.agrees b = true) : a.key = b.key := by
  simp only [agrees, Bool.and_eq_true, decide_eq_true_eq] at h
  exact h.1

theorem value_of_agrees {a b : Attribute} (h : a.agrees b = true) :
    a.value.agrees b.value = true := by
  simp only [agrees, Bool.and_eq_true] at h
  exact h.2

theorem agrees_trans {a b c : Attribute} (hab : a.agrees b = true) (hbc : b.agrees c = true) :
    a.agrees c = true := by
  have hkey := (key_of_agrees hab).trans (key_of_agrees hbc)
  have hvalue := AttributeValue.agrees_trans (value_of_agrees hab) (value_of_agrees hbc)
  simp [agrees, hkey, hvalue]

theorem agrees_self (a : Attribute) : a.agrees a = !a.value.isNaN := by
  simp [agrees, AttributeValue.agrees_self]

end Attribute

/-! ## Sets -/

namespace AttributeSet

theorem entriesAgree_comm (as bs : List Attribute) : entriesAgree as bs = entriesAgree bs as := by
  induction as generalizing bs with
  | nil => cases bs <;> rfl
  | cons a as ih =>
      cases bs with
      | nil => rfl
      | cons b bs => rw [entriesAgree, entriesAgree, Attribute.agrees_comm, ih]

theorem entriesAgree_trans {as bs cs : List Attribute} (hab : entriesAgree as bs = true)
    (hbc : entriesAgree bs cs = true) : entriesAgree as cs = true := by
  induction as generalizing bs cs with
  | nil =>
      cases bs with
      | nil => exact hbc
      | cons b bs => cases hab
  | cons a as ih =>
      cases bs with
      | nil => cases hab
      | cons b bs =>
          cases cs with
          | nil => cases hbc
          | cons c cs =>
              simp only [entriesAgree, Bool.and_eq_true] at *
              exact ⟨Attribute.agrees_trans hab.1 hbc.1, ih hab.2 hbc.2⟩

theorem length_of_entriesAgree {as bs : List Attribute} (h : entriesAgree as bs = true) :
    as.length = bs.length := by
  induction as generalizing bs with
  | nil =>
      cases bs with
      | nil => rfl
      | cons b bs => cases h
  | cons a as ih =>
      cases bs with
      | nil => cases h
      | cons b bs =>
          simp only [entriesAgree, Bool.and_eq_true] at h
          rw [List.length_cons, List.length_cons, ih h.2]

/-- Lists are compared part by part, where the first parts are of one length. -/
theorem entriesAgree_append {as bs : List Attribute} (h : as.length = bs.length)
    (cs ds : List Attribute) :
    entriesAgree (as ++ cs) (bs ++ ds) = (entriesAgree as bs && entriesAgree cs ds) := by
  induction as generalizing bs with
  | nil =>
      obtain rfl := List.length_eq_zero_iff.1 h.symm
      rfl
  | cons a as ih =>
      cases bs with
      | nil => cases h
      | cons b bs =>
          rw [List.cons_append, List.cons_append, entriesAgree, entriesAgree,
            ih (Nat.succ.inj h), Bool.and_assoc]

theorem entriesAgree_self (as : List Attribute) :
    entriesAgree as as = true ↔ ∀ a ∈ as, a.value.isNaN = false := by
  induction as with
  | nil => simp [entriesAgree]
  | cons a as ih => simp [entriesAgree, Attribute.agrees_self, ih]

/-- The earliest entries with a key in equal lists are equal, if there are any. -/
theorem find?_of_entriesAgree {as bs : List Attribute} (h : entriesAgree as bs = true)
    (key : String) : Option.Rel (fun a b => Attribute.agrees a b = true)
      (as.find? fun a => a.key == key) (bs.find? fun b => b.key == key) := by
  induction as generalizing bs with
  | nil =>
      cases bs with
      | nil => exact .none
      | cons b bs => cases h
  | cons a as ih =>
      cases bs with
      | nil => cases h
      | cons b bs =>
          simp only [entriesAgree, Bool.and_eq_true] at h
          have hkey := Attribute.key_of_agrees h.1
          rw [List.find?_cons, List.find?_cons, hkey]
          cases b.key == key with
          | true => exact .some h.1
          | false => exact ih h.2

/-- What is found under a key is the value of the earliest pair with it. -/
theorem get?_eq_some_iff (s : AttributeSet) (key : String) (v : AttributeValue) :
    s.get? key = some v ↔ ∃ before after, s.entries = before ++ ⟨key, v⟩ :: after ∧
      ∀ a ∈ before, a.key ≠ key := by
  rw [get?, Option.map_eq_some_iff]
  constructor
  · rintro ⟨⟨key', v'⟩, hfound, rfl⟩
    obtain ⟨hkey, before, after, hentries, hbefore⟩ := List.find?_eq_some_iff_append.1 hfound
    obtain rfl : key' = key := by simpa using hkey
    exact ⟨before, after, hentries, fun a ha => by simpa using hbefore a ha⟩
  · rintro ⟨before, after, hentries, hbefore⟩
    refine ⟨⟨key, v⟩, List.find?_eq_some_iff_append.2 ⟨by simp, before, after, hentries, ?_⟩, rfl⟩
    exact fun a ha => by simpa using hbefore a ha

/-- Nothing is found exactly if there is no pair with the key. -/
theorem get?_eq_none_iff (s : AttributeSet) (key : String) :
    s.get? key = none ↔ ∀ a ∈ s.entries, a.key ≠ key := by
  simp [get?]

theorem get?_of_agrees {s t : AttributeSet} (h : s.agrees t = true) (key : String) :
    Option.Rel (fun v w => AttributeValue.agrees v w = true) (s.get? key) (t.get? key) := by
  have hfound := find?_of_entriesAgree h key
  unfold get?
  generalize s.entries.find? _ = a at hfound
  generalize t.entries.find? _ = b at hfound
  cases hfound with
  | none => exact .none
  | some hab => exact .some (Attribute.value_of_agrees hab)

end AttributeSet

/-! ## Equality -/

/-- The laws of an equality of things that carry attributes: `extend` puts more attributes at their
end, and the things that are `regular` have no NaN. -/
structure EqualityLaws {α : Type} (agrees : α → α → Bool) (attributes : α → AttributeSet)
    (extend : α → AttributeSet → α) (Regular : α → Prop) : Prop where
  symm : ∀ x y, agrees x y = agrees y x
  trans : ∀ x y z, agrees x y = true → agrees y z = true → agrees x z = true
  /-- Equal things that are extended by equal sets stay equal. -/
  congr : ∀ x y s t, agrees x y = true → s.agrees t = true → agrees (extend x s) (extend y t) = true
  /-- Extensions of things that carry equally many attributes are equal in no other way. -/
  parts : ∀ x y s t, (attributes x).size = (attributes y).size →
    agrees (extend x s) (extend y t) = (agrees x y && s.agrees t)
  /-- In equal things the values of a key are both absent, or equal. -/
  get? : ∀ x y, agrees x y = true → ∀ key,
    Option.Rel (fun v w => AttributeValue.agrees v w = true)
      ((attributes x).get? key) ((attributes y).get? key)
  /-- A thing equals its own copy exactly if it has no NaN. -/
  self : ∀ x, agrees x x = true ↔ Regular x

namespace AttributeSet

/-- No value is a NaN. -/
def Regular (s : AttributeSet) : Prop := ∀ a ∈ s.entries, a.value.isNaN = false

theorem equalityLaws :
    EqualityLaws agrees id (fun s other => s.extend other.entries) Regular where
  symm s t := entriesAgree_comm s.entries t.entries
  trans _ _ _ hst htu := entriesAgree_trans hst htu
  congr s t s' t' h h' := by
    have hparts := entriesAgree_append (length_of_entriesAgree h) s'.entries t'.entries
    exact hparts.trans (Bool.and_eq_true_iff.2 ⟨h, h'⟩)
  parts s t s' t' hsize := entriesAgree_append hsize s'.entries t'.entries
  get? _ _ h key := get?_of_agrees h key
  self s := entriesAgree_self s.entries

end AttributeSet

namespace Measurement

/-- The measurement with more attributes. -/
def extend (m : Measurement) (other : AttributeSet) : Measurement :=
  { m with attributes := m.attributes.extend other.entries }

/-- Neither the value nor that of an attribute is a NaN. -/
def Regular (m : Measurement) : Prop := m.value.isNaN = false ∧ m.attributes.Regular

theorem equalityLaws : EqualityLaws agrees attributes extend Regular where
  symm m n := by
    rw [agrees, agrees, Binary64.agrees_comm, AttributeSet.equalityLaws.symm]
  trans l m n hlm hmn := by
    simp only [agrees, Bool.and_eq_true] at *
    exact ⟨Binary64.agrees_trans hlm.1 hmn.1, AttributeSet.equalityLaws.trans _ _ _ hlm.2 hmn.2⟩
  congr m n s t h hst := by
    simp only [agrees, Bool.and_eq_true] at *
    exact ⟨h.1, AttributeSet.equalityLaws.congr _ _ s t h.2 hst⟩
  parts m n s t hsize := by
    have hparts := AttributeSet.equalityLaws.parts m.attributes n.attributes s t hsize
    simp only [agrees, extend, hparts, Bool.and_assoc]
  get? m n h key := by
    simp only [agrees, Bool.and_eq_true] at h
    exact AttributeSet.get?_of_agrees h.2 key
  self m := by
    simp only [agrees, Bool.and_eq_true, Binary64.agrees_self, Bool.not_eq_true',
      AttributeSet.equalityLaws.self, Regular]

end Measurement

/-! ## Histories -/

/-- The entries of the set of that name. A name that was not used yet has the empty set. -/
def Roster.entriesOf (sets : Roster AttributeSet) (name : String) : List Attribute :=
  ((sets.get? name).getD .empty).entries

namespace AttributeAction

/-- What was in the set before is not kept. -/
def drops : AttributeAction → Bool
  | .clear => true
  | .ofList _ => true
  | .copy _ => true
  | _ => false

/-- The pairs that are put at the end of a set, or in the place of what it held. -/
def pairs (sets : Roster AttributeSet) : AttributeAction → List Attribute
  | .ofList entries => entries
  | .extend entries => entries
  | .extendBy other => sets.entriesOf other
  | .push key value => [⟨key, value⟩]
  | .copy other => sets.entriesOf other
  | _ => []

end AttributeAction

namespace AttributeStep

/-- The sets that steps leave. -/
def after (sets : Roster AttributeSet) (steps : List AttributeStep) : Roster AttributeSet :=
  steps.foldl (fun sets x => (perform sets x).2) sets

/-- The pairs that steps put into the set `name`, in order. -/
def appended (name : String) : Roster AttributeSet → List AttributeStep → List Attribute
  | _, [] => []
  | sets, x :: xs =>
      (if x.set = name then x.action.pairs sets else []) ++
        appended name (perform sets x).2 xs

/-- The step replaces or clears the set `name`. -/
def Drops (name : String) (x : AttributeStep) : Prop := x.set = name ∧ x.action.drops = true

/-- The steps `later` are those since the set `name` was last replaced or cleared, that step
included; `before` are those before. -/
structure Recent (name : String) (before later : List AttributeStep) : Prop where
  begins : before = [] ∨ ∃ x rest, later = x :: rest ∧ x.Drops name
  goesOn : ∀ x ∈ later.tail, ¬ x.Drops name

instance (name : String) (x : AttributeStep) : Decidable (x.Drops name) :=
  inferInstanceAs (Decidable (_ ∧ _))

variable (name : String)

/-- What one step makes of a set. -/
theorem entriesOf_perform (sets : Roster AttributeSet) (x : AttributeStep) :
    (perform sets x).2.entriesOf name =
      (if x.Drops name then [] else sets.entriesOf name) ++
        if x.set = name then x.action.pairs sets else [] := by
  obtain ⟨set, action⟩ := x
  have hothers : ∀ other, (sets.erase set).get? other =
      if set = other then none else sets.get? other := sets.get?_erase set
  by_cases h : set = name
  · subst h
    rw [Roster.entriesOf, perform, Roster.get?_insert_self]
    cases action with
    | extendBy other =>
        by_cases hother : other = set
        · subst hother
          simp [AttributeAction.apply, Drops, AttributeAction.drops, AttributeAction.pairs,
            Roster.entriesOf]
        · simp [AttributeAction.apply, Drops, AttributeAction.drops, AttributeAction.pairs,
            Roster.entriesOf, hothers, hother, Ne.symm hother]
    | copy other =>
        by_cases hother : other = set
        · subst hother
          simp [AttributeAction.apply, Drops, AttributeAction.drops, AttributeAction.pairs,
            Roster.entriesOf]
        · simp [AttributeAction.apply, Drops, AttributeAction.drops, AttributeAction.pairs,
            Roster.entriesOf, hothers, hother, Ne.symm hother]
    | _ =>
        simp [AttributeAction.apply, Drops, AttributeAction.drops, AttributeAction.pairs,
          Roster.entriesOf, AttributeSet.ofList]
  · rw [if_neg fun hdrops => h hdrops.1, if_neg h, List.append_nil, Roster.entriesOf, perform,
      Roster.get?_insert_of_ne _ _ h, hothers, if_neg h]
    rfl

/-- Steps that drop nothing put their pairs after what there was. -/
theorem entriesOf_after {steps : List AttributeStep} (h : ∀ x ∈ steps, ¬ x.Drops name)
    (sets : Roster AttributeSet) :
    (after sets steps).entriesOf name = sets.entriesOf name ++ appended name sets steps := by
  induction steps generalizing sets with
  | nil => exact (List.append_nil _).symm
  | cons x xs ih =>
      have hx := h x List.mem_cons_self
      show (after (perform sets x).2 xs).entriesOf name = _
      rw [ih fun y hy => h y (List.mem_cons_of_mem x hy), entriesOf_perform, if_neg hx, appended,
        List.append_assoc]

/-- The set holds what was put in since it was last replaced or cleared. -/
theorem entries_after_recent {before later : List AttributeStep} (h : Recent name before later) :
    (after .empty (before ++ later)).entriesOf name =
      appended name (after .empty before) later := by
  have hsplit : after .empty (before ++ later) = after (after .empty before) later :=
    List.foldl_append
  rw [hsplit]
  cases later with
  | nil =>
      obtain rfl | ⟨x, rest, hnil, _⟩ := h.begins
      · rfl
      · cases hnil
  | cons x rest =>
      have hrest : ∀ y ∈ rest, ¬ y.Drops name := h.goesOn
      show (after (perform (after .empty before) x).2 rest).entriesOf name = _
      rw [entriesOf_after name hrest, entriesOf_perform, appended]
      -- the first step drops what there was, or there was nothing
      obtain rfl | ⟨_, _, ⟨⟩, hdrops⟩ := h.begins
      · have hnothing : (after .empty []).entriesOf name = [] := rfl
        rw [hnothing, ite_self, List.nil_append]
      · rw [if_pos hdrops, List.nil_append]

/-- A set was replaced or cleared last in one step, or in none. -/
theorem exists_recent (steps : List AttributeStep) :
    ∃ before later, steps = before ++ later ∧ Recent name before later := by
  induction steps using List.reverseRecOn with
  | nil => exact ⟨[], [], rfl, .inl rfl, nofun⟩
  | append_singleton steps x ih =>
      by_cases hx : x.Drops name
      · exact ⟨steps, [x], rfl, .inr ⟨x, [], rfl, hx⟩, nofun⟩
      · obtain ⟨before, later, rfl, hbegins, hgoesOn⟩ := ih
        refine ⟨before, later ++ [x], List.append_assoc .., ?_, fun y hy => ?_⟩
        · refine hbegins.imp_right ?_
          rintro ⟨y, rest, rfl, hy⟩
          exact ⟨y, rest ++ [x], rfl, hy⟩
        · cases later with
          | nil => cases hy
          | cons z rest =>
              rcases List.mem_append.1 hy with hy | hy
              · exact hgoesOn y hy
              · exact List.mem_singleton.1 hy ▸ hx

end AttributeStep

/-- After any history, a set holds just the pairs that were put in since it was last replaced or
cleared, in order. A search in a set finds the value of the earliest pair with the key, and goes on
in what a set was extended by. Equality of sets, and of measurements that carry them, is symmetric
and transitive, fits extensions and searches, and holds of a set and its own copy exactly if there
is no NaN; values of different variants are never equal. -/
theorem attributes_lawful (steps : List AttributeStep) (name : String) :
    (∃ before later, steps = before ++ later ∧ AttributeStep.Recent name before later ∧
      (AttributeStep.after .empty steps).entriesOf name =
        AttributeStep.appended name (AttributeStep.after .empty before) later) ∧
      (∀ (s : AttributeSet) key v, s.get? key = some v ↔
        ∃ before after, s.entries = before ++ ⟨key, v⟩ :: after ∧ ∀ a ∈ before, a.key ≠ key) ∧
      (∀ (s : AttributeSet) key, s.get? key = none ↔ ∀ a ∈ s.entries, a.key ≠ key) ∧
      (∀ (s other : AttributeSet) key,
        (s.extend other.entries).get? key = (s.get? key).or (other.get? key)) ∧
      EqualityLaws AttributeSet.agrees id (fun s other => s.extend other.entries)
        AttributeSet.Regular ∧
      EqualityLaws Measurement.agrees Measurement.attributes Measurement.extend
        Measurement.Regular ∧
      ∀ v w : AttributeValue, v.variant ≠ w.variant → v.agrees w = false := by
  refine ⟨?_, AttributeSet.get?_eq_some_iff, AttributeSet.get?_eq_none_iff,
    fun s other key => s.get?_extend other.entries key, AttributeSet.equalityLaws,
    Measurement.equalityLaws, fun v w hvariant => ?_⟩
  · obtain ⟨before, later, rfl, hrecent⟩ := AttributeStep.exists_recent name steps
    exact ⟨before, later, rfl, hrecent, AttributeStep.entries_after_recent name hrecent⟩
  · exact Bool.eq_false_iff.2 fun hagrees => hvariant (AttributeValue.variant_of_agrees hagrees)

end DeferredMetrics
