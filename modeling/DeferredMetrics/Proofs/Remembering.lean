import DeferredMetrics.Proofs.ByteOrder
import DeferredMetrics.Proofs.Chronicle

set_option autoImplicit false

/-! # A registry remembers the last factory of each name

What a registry holds is read off its history: under each name the factory that was registered last
under exactly that name (`History.latest`). So whoever asks for a name runs that factory, also a
factory that asks in the middle of its own run, and what a factory registers is for those who ask
later. The main statement is `registry_remembers`, for every run after a registry was made. -/

namespace DeferredMetrics

namespace Happening

/-- The factory that is registered, if that is what happens and this is the registry and the
name. -/
def written? (g : RegistryRef) (name : String) : Happening → Option StoredFactory
  | .registered other text factory => if other = g ∧ text = name then some factory else none
  | _ => none

end Happening

namespace History

/-- The factory that was registered last under the name. -/
def latest (H : History) (g : RegistryRef) (name : String) : Option StoredFactory :=
  H.reverse.findSome? (Happening.written? g name)

/-- What is in a registry when it is made was registered just then. -/
def opening (g : RegistryRef) (withNoop : Bool) : History :=
  if withNoop then [.registered g Registry.noopName .noop] else []

variable {g : RegistryRef} {name : String}

theorem latest_append (H H' : History) (g : RegistryRef) (name : String) :
    (H ++ H').latest g name = (H'.latest g name).or (H.latest g name) := by
  rw [latest, List.reverse_append, List.findSome?_append]
  rfl

theorem latest_singleton (x : Happening) (g : RegistryRef) (name : String) :
    latest [x] g name = x.written? g name := by
  simp [latest]

theorem latest_cons (x : Happening) (H : History) (g : RegistryRef) (name : String) :
    latest (x :: H) g name = (H.latest g name).or (x.written? g name) := by
  rw [← latest_singleton x g name, ← latest_append, List.singleton_append]

theorem isSome_latest (H : History) (g : RegistryRef) (name : String) :
    (H.latest g name).isSome = true ↔ ∃ factory, .registered g name factory ∈ H := by
  rw [latest, List.findSome?_isSome_iff]
  constructor
  · rintro ⟨x, hx, hwritten⟩
    cases x with
    | registered other text factory =>
        rw [Happening.written?] at hwritten
        split at hwritten
        · rename_i heq
          obtain ⟨rfl, rfl⟩ := heq
          exact ⟨factory, List.mem_reverse.1 hx⟩
        · cases hwritten
    | _ => cases hwritten
  · rintro ⟨factory, hmem⟩
    exact ⟨_, List.mem_reverse.2 hmem, by simp [Happening.written?]⟩

/-! ## What a history leaves in a registry -/

theorem has_apply (t : Registries) (H : History) (h : t.Has g) : (apply t H).Has g := by
  induction H generalizing t with
  | nil => exact h
  | cons x H ih =>
      refine ih (x.apply t) ?_
      cases x with
      | opened content => exact (Table.has_add t content g).2 (.inl h)
      | registered other text factory => exact (Table.has_update t other g _).2 h
      | _ => exact h

theorem get?_happening (t : Registries) (x : Happening) (h : t.Has g) :
    ((x.apply t).get g).get? name = (x.written? g name).or ((t.get g).get? name) := by
  cases x with
  | opened content => exact congrArg (Roster.get? · name) (t.get_add_of_has content h)
  | registered other text factory =>
      rw [Happening.apply, Happening.written?]
      by_cases hother : other = g
      · subst hother
        rw [t.get_update_self _ h, Roster.get?_insert]
        by_cases hname : text = name <;> simp [hname]
      · rw [t.get_update_of_ne _ hother, if_neg fun heq => hother heq.1]
        rfl
  | _ => rfl

/-- The last registration counts, and if there was none, what had been there before. -/
theorem get?_apply (t : Registries) (H : History) (h : t.Has g) :
    ((apply t H).get g).get? name = (H.latest g name).or ((t.get g).get? name) := by
  induction H generalizing t with
  | nil => rfl
  | cons x H ih =>
      have hx : (x.apply t).Has g := has_apply t [x] h
      calc ((apply (x.apply t) H).get g).get? name
          = (latest H g name).or (((x.apply t).get g).get? name) := ih _ hx
        _ = (latest H g name).or ((x.written? g name).or ((t.get g).get? name)) := by
            rw [get?_happening t x h]
        _ = _ := by rw [latest_cons, Option.or_assoc]

theorem ordered_apply (t : Registries) (H : History) (h : t.Has g) (hordered : (t.get g).Ordered) :
    ((apply t H).get g).Ordered := by
  induction H generalizing t with
  | nil => exact hordered
  | cons x H ih =>
      refine ih (x.apply t) (has_apply t [x] h) ?_
      cases x with
      | opened content => exact t.get_add_of_has content h ▸ hordered
      | registered other text factory =>
          rw [Happening.apply]
          by_cases hother : other = g
          · subst hother
            rw [t.get_update_self _ h]
            exact Roster.ordered_insert _ text factory hordered
          · rwa [t.get_update_of_ne _ hother]
      | _ => exact hordered

end History

/-! ## What a registry holds -/

/-- The names strictly increase, as texts and as bytes. -/
def Increasing (names : List String) : Prop :=
  names.Pairwise fun a b => a < b ∧ Utf8.encode a < Utf8.encode b

/-- The registry `r`, which `g` refers to, holds what was registered, and the last factory of each
name. -/
structure Registry.Holds (r : Registry) (g : RegistryRef) (H : History) : Prop where
  found : ∀ name, r.get? name = H.latest g name
  contains : ∀ name, r.contains name = true ↔ ∃ factory, .registered g name factory ∈ H
  names : ∀ name, name ∈ r.names ↔ r.contains name = true
  increasing : Increasing r.names

/-- Who asks finds what was registered last, and who looks at the names sees all that were
registered. -/
def Happening.Sees (g : RegistryRef) (H : History) : Happening → Prop
  | .asked other name found => other = g → found = H.latest g name
  | .listed other names => other = g →
      Increasing names ∧ ∀ name, name ∈ names ↔ ∃ factory, .registered g name factory ∈ H
  | _ => True

namespace Registry

variable {r : Registry} {g : RegistryRef} {H : History}

theorem Holds.of_found (hfound : ∀ name, r.get? name = H.latest g name) (hordered : r.Ordered) :
    r.Holds g H where
  found := hfound
  contains name := by
    rw [Roster.contains, hfound]
    exact History.isSome_latest H g name
  names := r.mem_names_iff
  increasing := hordered.imp fun hlt => ⟨hlt, Utf8.encode_lt_encode hlt⟩

/-- A new registry holds what was registered when it was made. -/
theorem holds_opening (g : RegistryRef) (withNoop : Bool) :
    (opening withNoop).Holds g (.opening g withNoop) := by
  cases withNoop with
  | false => exact .of_found (fun _ => rfl) Roster.ordered_empty
  | true =>
      refine .of_found (fun name => ?_) (Roster.ordered_insert _ noopName _ Roster.ordered_empty)
      show (Roster.empty.insert noopName StoredFactory.noop).get? name =
        History.latest [.registered g noopName .noop] g name
      rw [Roster.get?_insert, History.latest_singleton, Happening.written?]
      simp

/-- A registry goes on to hold what is registered. -/
theorem Holds.apply {t : Registries} (h : (t.get g).Holds g H) (hg : t.Has g) (H' : History) :
    ((H'.apply t).get g).Holds g (H ++ H') := by
  refine .of_found (fun name => ?_) (History.ordered_apply t H' hg ?_)
  · rw [History.get?_apply t H' hg, h.found, History.latest_append]
  · exact h.increasing.imp fun hlt => hlt.1

end Registry

/-- What happens right is seen right. -/
theorem Happening.sees_of_right {t : Registries} {x : Happening} {g : RegistryRef} {H : History}
    (hright : x.Right t) (h : (t.get g).Holds g H) : x.Sees g H := by
  cases x with
  | asked other name found =>
      rintro rfl
      exact Eq.trans hright (h.found name)
  | listed other names =>
      rintro rfl
      rw [show names = _ from hright]
      exact ⟨h.increasing, fun name => (h.names name).trans (h.contains name)⟩
  | _ => trivial

/-! ## Runs -/

/-- The registry `g`, to which `made` happened when it was made and all of `H` later, remembers in
the store `s` the last factory of each name; `t` are the registries in between, and `seen` is what
was seen of registries since. -/
structure Remembers (g : RegistryRef) (made : History) (t : Registries) (H : History)
    (seen : List Event) (s : Store) : Prop where
  holds : (s.registry g).Holds g (made ++ H)
  /-- Who asks for a name that nobody registered is told so, and nothing changes. -/
  unknown : ∀ depth key name, (made ++ H).latest g name = none →
    Op.instantiate (depth + 1) g key name s = .ok (.error (.unknownProvider key name)) s
  /-- For any other name the last factory is run, and no other by this registry. -/
  runs : ∀ depth key name factory, (made ++ H).latest g name = some factory →
    Op.instantiate (depth + 1) g key name s =
      Op.runFactory (Op.instantiate depth) name factory s
  /-- Then an error is that of this factory, and never that there is none. -/
  fails : ∀ depth key name e s', (s.registry g).contains name = true →
    Op.instantiate (depth + 1) g key name s = .ok (.error e) s' → e.OfFactory name
  /-- It was so whenever somebody asked or looked before, also in the middle of a factory. -/
  sees : ∀ before x after, H = before ++ x :: after → x.Sees g (made ++ before)
  seen : seen = H.events t
  /-- Whoever registers is told that there was a factory, exactly if there was one. -/
  replaces : ∀ before name factory after, H = before ++ .registered g name factory :: after →
    (Happening.registered g name factory).events (before.apply t) =
      if ((made ++ before).latest g name).isSome then [.log (.factoryReplaced name)] else []

/-- From the step on in which it is made, a registry remembers the last factory of each name, with
which it was made or that was registered since, by whatever step or factory, and whatever has become
of that factory's run. -/
theorem registry_remembers (depth : Nat) (processWide : Option RegistrationRef) (s : Store)
    (id : String) (withNoop : Bool) {steps : List Step}
    (hsteps : ∀ x ∈ steps, x.sequential = true) :
    let made := Scenario.after depth processWide s [.registry id withNoop]
    Remembers s.registries.next (.opening s.registries.next withNoop) made.registries
      (Scenario.history depth processWide made steps)
      (Scenario.registryEvents depth processWide made steps)
      (Scenario.after depth processWide made steps) := by
  intro made
  let g := s.registries.next
  have hmade : made.registries = s.registries.add (.opening withNoop) :=
    (Scenario.chronicles_step depth processWide s (x := .registry id withNoop) rfl).1.registries
  have hg : made.registries.Has g := hmade ▸ s.registries.has_next_add _
  have hbefore : (made.registries.get g).Holds g (.opening g withNoop) := by
    rw [hmade, s.registries.get_add_next]
    exact Registry.holds_opening g withNoop
  -- all that follows is read off the history of the run
  obtain ⟨hregistries, hseen, hright⟩ :=
    Scenario.chronicles_after depth processWide made hsteps
  have hholds := hbefore.apply hg (Scenario.history depth processWide made steps)
  rw [← hregistries] at hholds
  refine ⟨hholds, fun deep key name hnone => ?_, fun deep key name factory hsome => ?_,
    fun deep key name e s' hcontains hrun => ?_, fun before x after heq => ?_, hseen,
    fun before name factory after heq => ?_⟩
  · exact Op.instantiate_of_none deep key ((hholds.found name).trans hnone)
  · exact Op.instantiate_of_some deep key ((hholds.found name).trans hsome)
  · obtain ⟨factory, hfactory⟩ := Option.isSome_iff_exists.1 hcontains
    rw [Op.instantiate_of_some deep key hfactory] at hrun
    exact Op.ofFactory_of_runFactory hrun
  · exact Happening.sees_of_right (hright before x after heq) (hbefore.apply hg before)
  · have hbefore := hbefore.apply hg before
    rw [← hbefore.found name, Happening.events, Registry.replaced?]
    show List.map _ (Option.toList (if Roster.contains _ name = true then _ else none)) = _
    rw [Roster.contains]
    split <;> rfl

/-- A factory that puts another one in its own place, looks at the names, asks for its own name, and
fails. -/
def Factory.replacing : Factory :=
  .mk [.register "g" "x" (.ofOutcome (.makes .noop)), .names "g", .ask "g" "k" "x"]
    (.fails "late" [])

/-- The factory is registered and run. -/
def Scenario.replacing : List Step :=
  [.register (.own "g") "x" .replacing, .instantiate (.own "g") "k" "x"]

theorem registry_remembers_replacing :
    let made := Scenario.after 2 none (.initial .empty) [.registry "g" true]
    (∀ x ∈ Scenario.replacing, x.sequential = true) ∧
      Remembers ⟨0⟩ (.opening ⟨0⟩ true) made.registries
        (Scenario.history 2 none made Scenario.replacing)
        (Scenario.registryEvents 2 none made Scenario.replacing)
        (Scenario.after 2 none made Scenario.replacing) :=
  ⟨by decide, registry_remembers 2 none (.initial .empty) "g" true (by decide)⟩

end DeferredMetrics
