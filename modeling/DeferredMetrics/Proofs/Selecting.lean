import DeferredMetrics.Proofs.Obtaining

set_option autoImplicit false

/-! # Which name a configured value selects

A registration looks a value up and asks its registry for the value without the blanks at its ends.
`Selects value name` says that it asks for `name`, in every store and under every key. So a value
selects just the part of it that is left when blanks are taken from its ends (`selects_iff`), values
that differ in such blanks only come to the same, and no other values do. The main statement is
`names_read_trimmed`. -/

namespace DeferredMetrics

/-! ## Texts and the blanks at their ends -/

section Ends

variable {α : Type} {p : α → Bool} {l rest : List α} {a : α}

theorem not_of_dropWhile_eq_cons (h : l.dropWhile p = a :: rest) : p a = false := by
  induction l with
  | nil => cases h
  | cons b l ih =>
      by_cases hb : p b = true
      · rw [List.dropWhile_cons_of_pos hb] at h
        exact ih h
      · rw [List.dropWhile_cons_of_neg hb] at h
        obtain ⟨rfl, -⟩ := List.cons.inj h
        simpa using hb

theorem not_of_stripEnds_eq_cons (h : stripEnds p l = a :: rest) : p a = false := by
  obtain ⟨after, -, hafter⟩ := exists_dropWhile (p := p) (l.dropWhile p).reverse
  have hsplit : l.dropWhile p = stripEnds p l ++ after.reverse := by
    rw [stripEnds, ← List.reverse_append, ← hafter, List.reverse_reverse]
  rw [h] at hsplit
  exact not_of_dropWhile_eq_cons hsplit

theorem not_of_stripEnds_eq_concat (h : stripEnds p l = rest ++ [a]) : p a = false := by
  have hreverse := congrArg List.reverse h
  rw [stripEnds, List.reverse_reverse, List.reverse_append] at hreverse
  exact not_of_dropWhile_eq_cons hreverse

theorem dropWhile_eq_self (h : ∀ a rest, l = a :: rest → p a = false) : l.dropWhile p = l := by
  cases l with
  | nil => rfl
  | cons a rest => exact List.dropWhile_cons_of_neg (by simp [h a rest rfl])

/-- Nothing is taken from a list that neither begins nor ends with an element that satisfies `p`. -/
theorem stripEnds_eq_self (hfirst : ∀ a rest, l = a :: rest → p a = false)
    (hlast : ∀ a rest, l = rest ++ [a] → p a = false) : stripEnds p l = l := by
  have hreverse : l.reverse.dropWhile p = l.reverse := by
    refine dropWhile_eq_self fun a rest h => hlast a rest.reverse ?_
    rw [← l.reverse_reverse, h, List.reverse_cons]
  rw [stripEnds, dropWhile_eq_self hfirst, hreverse, List.reverse_reverse]

end Ends

/-- The text neither begins nor ends with a blank. -/
structure Trimmed (name : String) : Prop where
  first : ∀ c rest, name.toList = c :: rest → isBlank c = false
  last : ∀ c rest, name.toList = rest ++ [c] → isBlank c = false

/-- The value is the text `core` in one piece, with blanks before it and after it. -/
def Pads (core value : String) : Prop :=
  ∃ before after, isBlankText before = true ∧ isBlankText after = true ∧
    value = before ++ core ++ after

theorem trimmed_trim (value : String) : Trimmed (trim value) where
  first c rest h := by
    rw [toList_trim] at h
    exact not_of_stripEnds_eq_cons h
  last c rest h := by
    rw [toList_trim] at h
    exact not_of_stripEnds_eq_concat h

theorem Trimmed.trim_eq {name : String} (h : Trimmed name) : trim name = name := by
  rw [← String.toList_inj, toList_trim]
  exact stripEnds_eq_self h.first h.last

theorem pads_trim (value : String) : Pads (trim value) value := by
  obtain ⟨before, after, hbefore, hafter, hvalue⟩ :=
    exists_stripEnds (p := isBlank) value.toList
  refine ⟨.ofList before, .ofList after, ?_, ?_, ?_⟩
  · rwa [isBlankText, String.toList_ofList]
  · rwa [isBlankText, String.toList_ofList]
  · rw [← String.toList_inj, hvalue]
    simp [toList_trim]

theorem Pads.trim_eq {core value : String} (h : Pads core value) : trim value = trim core := by
  obtain ⟨before, after, hbefore, hafter, rfl⟩ := h
  exact trim_pad before core after hbefore hafter

theorem Pads.refl (value : String) : Pads value value := ⟨"", "", rfl, rfl, by simp⟩

theorem trim_ne_empty_iff (value : String) : trim value ≠ "" ↔ isBlankText value = false := by
  rw [Ne, trim_eq_empty_iff, Bool.not_eq_true]

/-! ## Selecting -/

namespace Op

/-- Ask the registry of a discovery for the provider of the factory `name`. -/
def askFor (depth : Nat) (d : Discovery) (name : String) :
    Op (Except DiscoveryError (Option ProviderRef)) := do
  return (← instantiate depth d.registry d.key name).map some

variable {s : Store} {r : RegistrationRef}

/-- A value that is not blank names the factory that the registry is asked for. -/
theorem resolve_of_value (depth : Nat) {value : String}
    (hvalue : (s.registration r).discovery.value? s.environment = some value)
    (hblank : isBlankText value = false) :
    resolve depth r s =
      askFor depth (s.registration r).discovery (trim value) (s.afterLookUp r) := by
  have hname : (trim value).isEmpty = false := by
    simpa using (trim_ne_empty_iff value).2 hblank
  rw [resolve, bind_of_ok (get_run s), bind_of_ok (lookUp_run s r), hvalue]
  simp only
  rw [if_neg (by simp [hname])]
  rfl

/-- No value and a blank one name no factory, and nobody is asked. -/
theorem resolve_of_blank (depth : Nat)
    (h : ∀ value, (s.registration r).discovery.value? s.environment = some value →
      isBlankText value = true) :
    resolve depth r s = .ok (.ok none) (s.afterLookUp r) :=
  resolve_of_namesNone depth fun value hvalue => by
    simpa using (trim_eq_empty_iff value).2 (h value hvalue)

/-- Who asks a registry is not answered that there is nothing to ask for. -/
theorem askFor_ne_none (depth : Nat) (d : Discovery) (name : String) (s s' : Store) :
    askFor depth d name s ≠ .ok (.ok none) s' := by
  rw [askFor, bind_run]
  cases instantiate depth d.registry d.key name s with
  | error halt s₁ => nofun
  | ok answer s₁ => cases answer <;> nofun

/-- The answer is that there is nothing just where there is no value or a blank one. -/
theorem resolve_eq_none_iff (depth : Nat) :
    (∃ s', resolve depth r s = .ok (.ok none) s') ↔
      ∀ v, (s.registration r).discovery.value? s.environment = some v → isBlankText v = true := by
  constructor
  · rintro ⟨s', hrun⟩ v hv
    by_contra hblank
    rw [resolve_of_value depth hv (by simpa using hblank)] at hrun
    exact askFor_ne_none _ _ _ _ _ hrun
  · exact fun h => ⟨_, resolve_of_blank depth h⟩

/-- If the name is registered, its factory is run. -/
theorem askFor_of_factory (depth : Nat) {d : Discovery} {name : String} {stored : StoredFactory}
    (h : (s.registry d.registry).get? name = some stored) :
    askFor (depth + 1) d name s =
      (runFactory (instantiate depth) name stored >>= fun answer =>
        pure (answer.map some)) s := by
  rw [askFor, bind_run, instantiate_of_some depth d.key h, ← bind_run]

end Op

/-- A registration that looks this value up asks its registry for `name`. -/
def Selects (value name : String) : Prop :=
  ∀ depth s r, (s.registration r).discovery.value? s.environment = some value →
    Op.resolve depth r s = Op.askFor depth (s.registration r).discovery name (s.afterLookUp r)

/-- A store with one registration, which looks the value up, and a registry without factories. -/
def Store.reading (value : String) : Store :=
  (Store.initial .empty).addRegistration
    ⟨none, .ready, ⟨0⟩, ⟨"key", .settings (Roster.empty.insert "key" value), ⟨0⟩⟩⟩

/-- A value selects just the text that is left when blanks are taken from its ends, if any is. -/
theorem selects_iff {value name : String} :
    Selects value name ↔ isBlankText value = false ∧ trim value = name := by
  constructor
  · intro h
    have hvalue : ((Store.reading value).registration ⟨0⟩).discovery.value?
        (Store.reading value).environment = some value := Roster.get?_insert_self _ _ _
    -- without factories the registry answers with the name that it was asked for
    have hasked : ∀ name, Op.askFor 1 ((Store.reading value).registration ⟨0⟩).discovery name
        ((Store.reading value).afterLookUp ⟨0⟩) =
          .ok (.error (.unknownProvider "key" name)) ((Store.reading value).afterLookUp ⟨0⟩) :=
      fun _ => rfl
    have hrun := h 1 (.reading value) ⟨0⟩ hvalue
    rw [hasked] at hrun
    cases hblank : isBlankText value with
    | true =>
        rw [Op.resolve_of_blank 1 fun v hv => by rw [hvalue] at hv; cases hv; exact hblank] at hrun
        cases hrun
    | false =>
        rw [Op.resolve_of_value 1 hvalue hblank, hasked] at hrun
        cases hrun
        exact ⟨rfl, rfl⟩
  · rintro ⟨hblank, rfl⟩ depth s r hvalue
    exact Op.resolve_of_value depth hvalue hblank

/-- The selected name is the one piece of the value that has no blanks at its ends. -/
theorem selects_iff_pads {value name : String} :
    Selects value name ↔ name ≠ "" ∧ Trimmed name ∧ Pads name value := by
  rw [selects_iff]
  constructor
  · rintro ⟨hblank, rfl⟩
    exact ⟨(trim_ne_empty_iff value).2 hblank, trimmed_trim value, pads_trim value⟩
  · rintro ⟨hname, htrimmed, hpads⟩
    have htrim : trim value = name := hpads.trim_eq.trans htrimmed.trim_eq
    exact ⟨(trim_ne_empty_iff value).1 (htrim ▸ hname), htrim⟩

/-- Values select one name exactly if they differ in blanks at their ends only. -/
theorem selects_same_iff {v w : String} (hv : isBlankText v = false)
    (hw : isBlankText w = false) :
    (∃ name, Selects v name ∧ Selects w name) ↔ ∃ core, Pads core v ∧ Pads core w := by
  constructor
  · rintro ⟨name, hselects, hselects'⟩
    exact ⟨name, (selects_iff_pads.1 hselects).2.2, (selects_iff_pads.1 hselects').2.2⟩
  · rintro ⟨core, hpads, hpads'⟩
    refine ⟨trim core, selects_iff.2 ⟨hv, hpads.trim_eq⟩, selects_iff.2 ⟨hw, hpads'.trim_eq⟩⟩

theorem isBlankText_of_pads {v w : String} (h : Pads v w) : isBlankText w = isBlankText v := by
  rw [Bool.eq_iff_iff, ← trim_eq_empty_iff, ← trim_eq_empty_iff, h.trim_eq]

theorem selects_of_pads {v w name : String} (h : Pads v w) : Selects w name ↔ Selects v name := by
  rw [selects_iff, selects_iff, isBlankText_of_pads h, h.trim_eq]

/-- Discoveries that share a registry and a key, and look up values of which one is the other one
with blanks around it, come to the same. -/
theorem Op.resolve_of_pads (depth : Nat) {s s' : Store} {r r' : RegistrationRef} {v w : String}
    (hregistry : (s'.registration r').discovery.registry = (s.registration r).discovery.registry)
    (hkey : (s'.registration r').discovery.key = (s.registration r).discovery.key)
    (hv : (s.registration r).discovery.value? s.environment = some v)
    (hw : (s'.registration r').discovery.value? s'.environment = some w) (hpads : Pads v w)
    (hread : s'.afterLookUp r' = s.afterLookUp r) : resolve depth r' s' = resolve depth r s := by
  have hblank : isBlankText w = isBlankText v := isBlankText_of_pads hpads
  cases hnone : isBlankText v with
  | true =>
      have hold : ∀ x, (s.registration r).discovery.value? s.environment = some x →
          isBlankText x = true := by
        intro x hx
        rw [hv] at hx
        cases hx
        exact hnone
      have hnew : ∀ x, (s'.registration r').discovery.value? s'.environment = some x →
          isBlankText x = true := by
        intro x hx
        rw [hw] at hx
        cases hx
        exact hblank.trans hnone
      rw [resolve_of_blank depth hold, resolve_of_blank depth hnew, hread]
  | false =>
      rw [resolve_of_value depth hv hnone, resolve_of_value depth hw (hblank.trans hnone), askFor,
        askFor, hregistry, hkey, hpads.trim_eq, hread]

/-- The value that a registration looks up is read up to blanks at its ends. -/
structure ReadsTrimmed (depth : Nat) : Prop where
  /-- With blanks around the value the outcome is the same: discoveries that share a registry and a
  key answer the same and leave the same, whatever is in the registry. -/
  pads : ∀ (s s' : Store) (r r' : RegistrationRef) (v before after : String),
    isBlankText before = true → isBlankText after = true →
    (s'.registration r').discovery.registry = (s.registration r).discovery.registry →
    (s'.registration r').discovery.key = (s.registration r).discovery.key →
    (s.registration r).discovery.value? s.environment = some v →
    (s'.registration r').discovery.value? s'.environment = some (before ++ v ++ after) →
    s'.afterLookUp r' = s.afterLookUp r → Op.resolve depth r' s' = Op.resolve depth r s
  /-- Wherever the values are read from, the one with blanks around it selects the same name. -/
  padded : ∀ v name before after, isBlankText before = true → isBlankText after = true →
    (Selects (before ++ v ++ after) name ↔ Selects v name)
  /-- The answer is that there is nothing just where there is no value or a blank one. -/
  nothing : ∀ s r, (∃ s', Op.resolve depth r s = .ok (.ok none) s') ↔
    ∀ v, (s.registration r).discovery.value? s.environment = some v → isBlankText v = true
  /-- Then nobody is asked. -/
  idle : ∀ s r, (∃ s', Op.resolve depth r s = .ok (.ok none) s') →
    Op.resolve depth r s = .ok (.ok none) (s.afterLookUp r)
  /-- Any other value selects a name, -/
  selects : ∀ v, isBlankText v = false → ∃ name, Selects v name
  /-- which is the one piece of it that has no blanks at its ends, -/
  piece : ∀ v name, Selects v name ↔ name ≠ "" ∧ Trimmed name ∧ Pads name v
  /-- and the factory of that name is run, if there is one. -/
  runs : ∀ s r v name stored, (s.registration r).discovery.value? s.environment = some v →
    Selects v name → s.factory? r name = some stored →
    Op.resolve (depth + 1) r s =
      (Op.runFactory (Op.instantiate depth) name stored >>= fun answer =>
        pure (answer.map some)) (s.afterLookUp r)
  /-- The names that values select have no blanks at their ends, and all such names are selected. -/
  selectable : ∀ name, (∃ v, Selects v name) ↔ name ≠ "" ∧ Trimmed name
  /-- Values select one name just where they differ in blanks at their ends only. -/
  same : ∀ v w, isBlankText v = false → isBlankText w = false →
    ((∃ name, Selects v name ∧ Selects w name) ↔ ∃ core, Pads core v ∧ Pads core w)

/-- The value that a registration looks up is read up to blanks at its ends. -/
theorem names_read_trimmed (depth : Nat) : ReadsTrimmed depth where
  pads s s' r r' v before after hbefore hafter hregistry hkey hv hw hread :=
    Op.resolve_of_pads depth hregistry hkey hv hw ⟨before, after, hbefore, hafter, rfl⟩ hread
  padded v name before after hbefore hafter := selects_of_pads ⟨before, after, hbefore, hafter, rfl⟩
  nothing s r := Op.resolve_eq_none_iff depth
  idle s r h := Op.resolve_of_blank depth ((Op.resolve_eq_none_iff depth).1 h)
  selects v hv := ⟨trim v, selects_iff.2 ⟨hv, rfl⟩⟩
  piece v name := selects_iff_pads
  runs s r v name stored hv hselects hfactory := by
    rw [hselects (depth + 1) s r hv]
    exact Op.askFor_of_factory depth hfactory
  selectable name := by
    constructor
    · rintro ⟨v, hselects⟩
      obtain ⟨hname, htrimmed, -⟩ := selects_iff_pads.1 hselects
      exact ⟨hname, htrimmed⟩
    · rintro ⟨hname, htrimmed⟩
      exact ⟨name, selects_iff_pads.2 ⟨hname, htrimmed, .refl name⟩⟩
  same v w := selects_same_iff

/-- Two registrations on one registry, whose values differ in blanks around them. -/
def Store.paired : Store :=
  Scenario.after 1 none (.initial .empty)
    [.registry "g" true,
      .registration "r" (some "k") (.settings [("k", "noop")]) (some "g"),
      .registration "r'" (some "k") (.settings [("k", "\u3000 noop\n")]) (some "g")]

theorem names_read_trimmed_paired :
    Op.resolve 1 ⟨1⟩ .paired = Op.resolve 1 ⟨0⟩ .paired :=
  (names_read_trimmed 1).pads .paired .paired ⟨0⟩ ⟨1⟩ "noop" "\u3000 " "\n" (by decide) (by decide)
    rfl rfl (by decide +kernel) (by decide +kernel) rfl

end DeferredMetrics
