import DeferredMetrics.Proofs.Discovering
import DeferredMetrics.Proofs.StepTraits

set_option autoImplicit false

/-! # What happens at registries

A `Happening` is one thing that happens at a registry: it is made, a factory is registered, somebody
asks for the provider of a name, or a factory looks at the names. The history of an operation is
the list of what happens at registries while it runs, in order, also inside the factories that are
run for it and up to the point at which it halts. The main statements say that a history accounts
for the registries and for all that is seen of them (`Chronicles`): `tells_instantiate` for asking a
registry, however deeply factories ask in their turn, and `Scenario.chronicles_after` for runs. -/

namespace DeferredMetrics

/-- All registries. -/
abbrev Registries := Table .registry Registry

/-- One thing that happens at a registry. -/
inductive Happening where
  /-- There is a new registry with this content. -/
  | opened (content : Registry)
  /-- A factory is registered. -/
  | registered (registry : RegistryRef) (name : String) (factory : StoredFactory)
  /-- Somebody asks for the provider of a name, and `found` is the factory that is run for it. -/
  | asked (registry : RegistryRef) (name : String) (found : Option StoredFactory)
  /-- A factory looks at the names and sees these. -/
  | listed (registry : RegistryRef) (names : List String)

namespace Happening

/-- The registries afterwards. -/
def apply (t : Registries) : Happening → Registries
  | .opened content => t.add content
  | .registered g name factory => t.update g fun r => r.insert name factory
  | _ => t

/-- What is seen of it. -/
def events (t : Registries) : Happening → List Event
  | .registered g name _ => ((t.get g).replaced? name).toList.map .log
  | .asked _ name (some (.program _)) => [.factory name]
  | .listed _ names => [.names names]
  | _ => []

/-- What is found is what is there. -/
def Right (t : Registries) : Happening → Prop
  | .asked g name found => found = (t.get g).get? name
  | .listed g names => names = (t.get g).names
  | _ => True

end Happening

/-- What has happened at registries, in order. -/
abbrev History := List Happening

namespace History

/-- The registries after all that has happened. -/
def apply (t : Registries) (H : History) : Registries := H.foldl Happening.apply t

/-- What was seen of all that has happened. -/
def events : Registries → History → List Event
  | _, [] => []
  | t, x :: H => x.events t ++ events (x.apply t) H

theorem apply_append (t : Registries) (H H' : History) :
    apply t (H ++ H') = apply (apply t H) H' := List.foldl_append

theorem events_append (t : Registries) (H H' : History) :
    events t (H ++ H') = events t H ++ events (apply t H) H' := by
  induction H generalizing t with
  | nil => rfl
  | cons x H ih =>
      simp only [List.cons_append, events, List.append_assoc, ih]
      rfl

/-- Each time what was found was there. -/
def Right (t : Registries) (H : History) : Prop :=
  ∀ before x after, H = before ++ x :: after → x.Right (apply t before)

theorem right_nil (t : Registries) : Right t [] := by
  intro before x after h
  simp at h

theorem right_singleton {t : Registries} {x : Happening} (h : x.Right t) : Right t [x] := by
  intro before y after heq
  obtain ⟨rfl, hyx⟩ | ⟨z, hz⟩ : before = [] ∧ y :: after = [x] ∨ ∃ z, before = x :: z := by
    cases before with
    | nil => exact .inl ⟨rfl, heq.symm⟩
    | cons z before => exact .inr ⟨before, by rw [(List.cons.inj heq).1]⟩
  · obtain ⟨rfl, rfl⟩ := List.cons.inj hyx
    exact h
  · subst hz
    simp at heq

theorem Right.append {t : Registries} {H H' : History} (h : Right t H) (h' : Right (apply t H) H') :
    Right t (H ++ H') := by
  intro before x after heq
  -- `x` is in the second history, or in the first one, or between them with an empty `rest`
  rcases List.append_eq_append_iff.1 heq with ⟨rest, rfl, hrest⟩ | ⟨rest, rfl, hrest⟩
  · rw [apply_append]
    exact h' rest x after hrest
  · cases rest with
    | nil =>
        rw [List.append_nil] at *
        exact h' [] x after hrest.symm
    | cons y rest =>
        obtain ⟨rfl, -⟩ := List.cons.inj hrest
        exact h before x rest rfl

end History

/-- The history accounts for what has become of the registries and for all that was seen of them. -/
structure Chronicles (H : History) (s s' : Store) : Prop where
  registries : s'.registries = History.apply s.registries H
  events : s'.registryEvents = s.registryEvents ++ History.events s.registries H
  right : History.Right s.registries H

namespace Chronicles

variable {s s' : Store}

theorem of_apart (h : Apart s s') : Chronicles [] s s' :=
  ⟨h.registries, by rw [h.events]; exact (List.append_nil _).symm, History.right_nil _⟩

theorem append {H H' : History} {s'' : Store} (h : Chronicles H s s') (h' : Chronicles H' s' s'') :
    Chronicles (H ++ H') s s'' where
  registries := by rw [h'.registries, h.registries, History.apply_append]
  events := by
    rw [h'.events, h.events, h.registries, History.events_append, List.append_assoc]
  right := h.right.append (h.registries ▸ h'.right)

theorem single {x : Happening} (hregistries : s'.registries = x.apply s.registries)
    (hevents : s'.registryEvents = s.registryEvents ++ x.events s.registries)
    (hright : x.Right s.registries) : Chronicles [x] s s' where
  registries := hregistries
  events := by rw [hevents, History.events, History.events, List.append_nil]
  right := History.right_singleton hright

end Chronicles

/-! ## Histories of operations -/

namespace Op

variable {α β : Type}

/-- The operation does at registries what the history says, from whatever store it begins. -/
def Tells (op : Op α) (history : Store → History) : Prop :=
  ∀ s, Chronicles (history s) s (op.left s)

/-- The history of one operation after another. -/
def andThen (op : Op α) (history : Store → History) (rest : α → Store → History) (s : Store) :
    History :=
  history s ++ match op s with
    | .ok a s' => rest a s'
    | .error .. => []

/-- Nothing happens at registries. -/
def quiet (_ : Store) : History := []

end Op

theorem Apart.refl (s : Store) : Apart s s := ⟨rfl, rfl⟩

theorem Apart.trans {s s' s'' : Store} (h : Apart s s') (h' : Apart s' s'') : Apart s s'' :=
  ⟨h'.registries.trans h.registries, h'.events.trans h.events⟩

/-- Operations leave registries alone. -/
def Trait.apart : Trait := .keeping Apart .refl .trans fun h => h.apart

namespace Op

variable {α β : Type}

theorem tells_of_apart {op : Op α} (h : Trait.apart.Has op) : Tells op quiet :=
  fun s => .of_apart (h s)

theorem Tells.bind {op : Op α} {f : α → Op β} {history : Store → History}
    {rest : α → Store → History} (h : Tells op history) (hf : ∀ a, Tells (f a) (rest a)) :
    Tells (op >>= f) (andThen op history rest) := by
  intro s
  have hop := h s
  unfold andThen
  cases hrun : op s with
  | ok a s' =>
      rw [left_of_ok hrun] at hop
      rw [left_bind_of_ok hrun]
      exact hop.append (hf a s')
  | error halt s' =>
      rw [left_of_error hrun] at hop
      rw [left_bind_of_error hrun, List.append_nil]
      exact hop

/-- What is done to an answer leaves registries alone. -/
theorem Tells.andApart {op : Op α} {f : α → Op β} {history : Store → History}
    (h : Tells op history) (hf : ∀ a, Trait.apart.Has (f a)) : Tells (op >>= f) history := by
  intro s
  have hbind := h.bind (fun a => tells_of_apart (hf a)) s
  unfold andThen at hbind
  cases hrun : op s <;> simpa only [hrun, quiet, List.append_nil] using hbind

theorem tells_look {f : Store → Op β} {history : Store → History}
    (h : ∀ s, Chronicles (history s) s ((f s).left s)) : Tells (get >>= f) history := h

/-! ### Factories -/

/-- What happens at registries when a registry is asked for the provider of a name. -/
abbrev Chronicler := RegistryRef → String → String → Store → History

/-- What happens when a factory does one thing. -/
def actHistory (told : Chronicler) : FactoryAction → Store → History
  | .register registry name factory =>
      andThen (named Directory.registries registry) quiet fun g _ =>
        [.registered g name (.program factory)]
  | .names registry =>
      andThen (named Directory.registries registry) quiet fun g s =>
        [.listed g (s.registry g).names]
  | .ask registry key name =>
      andThen (named Directory.registries registry) quiet fun g => told g key name
  | _ => quiet

/-- What happens when a factory does one thing after the other. -/
def actsHistory (ask : Asker) (told : Chronicler) : List FactoryAction → Store → History
  | [] => quiet
  | x :: xs => andThen (act ask x) (actHistory told x) fun _ => actsHistory ask told xs

/-- What happens when a factory ends. -/
def finishHistory (told : Chronicler) : Outcome → Store → History
  | .delegates registry key other =>
      andThen (named Directory.registries registry) quiet fun g => told g key other
  | _ => quiet

/-- What happens when a factory has begun. -/
def programHistory (ask : Asker) (told : Chronicler) (factory : Factory) : Store → History :=
  andThen (factory.actions.forM (act ask)) (actsHistory ask told factory.actions) fun _ =>
    finishHistory told factory.outcome

/-- What happens when the factory that is kept under `name` is run. -/
def factoryHistory (ask : Asker) (told : Chronicler) (name : String) :
    StoredFactory → Store → History
  | .noop => quiet
  | .program factory => fun s => programHistory ask told factory (s.see (.factory name))

/-- What happens when a registry is asked for the provider of the factory `name`. -/
def askHistory : Nat → Chronicler
  | 0, _, _, _ => quiet
  | depth + 1, g, _, name => fun s =>
      .asked g name ((s.registry g).get? name) ::
        match (s.registry g).get? name with
        | none => []
        | some factory => factoryHistory (instantiate depth) (askHistory depth) name factory s

theorem tells_register (g : RegistryRef) (name : String) (factory : StoredFactory) :
    Tells (register g name factory) fun _ => [.registered g name factory] := by
  refine tells_look fun s => ?_
  rw [left_bind_of_ok (modify_run _ s)]
  have hreplaces : (s.registries.get g).replaced? name = (s.registry g).replaced? name := rfl
  cases hreplaced : (s.registry g).replaced? name with
  | none =>
      refine .single rfl ?_ trivial
      rw [Happening.events, hreplaces, hreplaced]
      exact (List.append_nil _).symm
  | some message =>
      obtain rfl := Registry.eq_of_replaced? hreplaced
      refine .single rfl ?_ trivial
      rw [Happening.events, hreplaces, hreplaced]
      simp [log, left, Store.registryEvents, Store.log, Store.see, Store.updateRegistry,
        Event.ofRegistry]

/-- What is told of asking a registry is what happens. -/
def Asker.Tells (ask : Asker) (told : Chronicler) : Prop :=
  ∀ g key name, Op.Tells (ask g key name) (told g key name)

variable {ask : Asker} {told : Chronicler}

theorem tells_named {roster : Directory → Roster α} {name : String} {f : α → Op β}
    {rest : α → Store → History} (h : ∀ a, Tells (f a) (rest a)) :
    Tells (named roster name >>= f) (andThen (named roster name) quiet rest) :=
  (tells_of_apart (has_named roster name)).bind h

theorem tells_act (hask : ask.Tells told) (action : FactoryAction) :
    Tells (act ask action) (actHistory told action) := by
  cases action with
  | register registry name factory => exact tells_named fun g => tells_register g name _
  | names registry =>
      refine tells_named fun g => tells_look fun s => ?_
      exact .single rfl (by simp [Happening.events, see, left, Store.registryEvents, Store.see,
        Event.ofRegistry]) rfl
  | ask registry key name =>
      exact tells_named fun g => (hask g key name).andApart fun _ => Trait.apart.pure _
  | _ => exact tells_of_apart (has_act rfl)

theorem tells_acts (hask : ask.Tells told) (actions : List FactoryAction) :
    Tells (actions.forM (act ask)) (actsHistory ask told actions) := by
  induction actions with
  | nil => exact tells_of_apart (Trait.apart.pure ())
  | cons x xs ih => exact (tells_act hask x).bind fun _ => ih

theorem tells_finish (hask : ask.Tells told) (name : String) (outcome : Outcome) :
    Tells (finish ask name outcome) (finishHistory told outcome) := by
  cases outcome with
  | panics payload => exact tells_of_apart (Trait.apart.throw _)
  | fails reason causes => exact tells_of_apart (Trait.apart.pure _)
  | delegates registry key other =>
      refine tells_named fun g => (hask g key other).andApart fun answer => ?_
      cases answer <;> exact Trait.apart.pure _
  | makes spec =>
      exact tells_of_apart ((has_buildInvented spec).bind fun _ => Trait.apart.pure _)

theorem tells_program (hask : ask.Tells told) (name : String) (factory : Factory) :
    Tells (factory.actions.forM (act ask) >>= fun _ => finish ask name factory.outcome)
      (programHistory ask told factory) :=
  (tells_acts hask factory.actions).bind fun _ => tells_finish hask name factory.outcome

/-- Asking a registry does what its history says, however deeply factories ask in their turn. -/
theorem tells_instantiate (depth : Nat) : (instantiate depth).Tells (askHistory depth) := by
  induction depth with
  | zero => exact fun _ _ _ => tells_of_apart (Trait.apart.throw _)
  | succ depth ih =>
      intro g key name
      refine tells_look fun s => ?_
      simp only [askHistory]
      cases hfound : (s.registry g).get? name with
      | none =>
          exact .single rfl (List.append_nil _).symm hfound.symm
      | some stored =>
          cases stored with
          | noop =>
              have hasked : Chronicles [.asked g name (some .noop)] s s :=
                .single rfl (List.append_nil _).symm hfound.symm
              exact hasked.append (.of_apart (((has_makeProvider .noop).bind fun _ =>
                Trait.apart.pure _) s))
          | program factory =>
              -- the factory was found before it begins: what it registers comes after that
              have hbegun : Chronicles [.asked g name (some (.program factory))] s
                  (s.see (.factory name)) :=
                .single rfl (by simp [Happening.events, Store.registryEvents, Store.see,
                  Event.ofRegistry]) hfound.symm
              exact hbegun.append (tells_program ih name factory (s.see (.factory name)))

/-! ### Discovery -/

/-- What happens when the configuration of a registration is resolved. -/
def resolveHistory (depth : Nat) (r : RegistrationRef) (s : Store) : History :=
  let d := (s.registration r).discovery
  andThen (lookUp d.source d.key) quiet (fun
    | none => quiet
    | some value =>
        if (trim value).isEmpty then quiet else askHistory depth d.registry d.key (trim value)) s

/-- What happens when a registration is asked for the provider in effect. -/
def discoveryHistory (depth : Nat) (r : RegistrationRef) (s : Store) : History :=
  match (s.registration r).provider with
  | some _ => []
  | none => resolveHistory depth r s

theorem tells_lookUp (source : Source) (key : String) : Tells (lookUp source key) quiet := by
  cases source with
  | settings values =>
      exact fun s => .of_apart ⟨rfl, by simp [lookUp, left, bind_run, see_run, pure_run,
        Store.registryEvents, Store.see, Event.ofRegistry]⟩
  | environment => exact fun s => .of_apart (.refl s)

theorem tells_resolve (depth : Nat) (r : RegistrationRef) :
    Tells (resolve depth r) (resolveHistory depth r) := by
  refine tells_look fun s => ?_
  have hlookUp := tells_lookUp (s.registration r).discovery.source (s.registration r).discovery.key
  refine hlookUp.bind (fun value => ?_) s
  cases value with
  | none => exact tells_of_apart (Trait.apart.pure _)
  | some value =>
      simp only
      split
      · exact tells_of_apart (Trait.apart.pure _)
      · exact (tells_instantiate depth _ _ _).andApart fun _ => Trait.apart.pure _

theorem tells_getProvider (depth : Nat) (r : RegistrationRef) :
    Tells (getProvider depth r) (discoveryHistory depth r) := by
  intro s
  unfold discoveryHistory
  cases hslot : (s.registration r).provider with
  | some w =>
      rw [left_of_ok (getProvider_of_some depth hslot)]
      exact .of_apart (.refl s)
  | none =>
      rw [getProvider, left_bind_of_ok (registered_run hslot)]
      exact (tells_resolve depth r).andApart (fun found => has_adoptFound r found) s

theorem tells_getMeter (depth : Nat) (r : RegistrationRef) (scope : Scope) :
    Tells (getMeter depth r scope) (discoveryHistory depth r) := by
  refine (tells_getProvider depth r).andApart fun answer => ?_
  cases answer with
  | error e => exact Trait.apart.pure _
  | ok p => exact (has_requestMeter p scope).bind fun _ => Trait.apart.pure _

end Op

/-! ## Histories of runs -/

/-- What is in a new registry. -/
def Registry.opening (withNoop : Bool) : Registry := if withNoop then .preset else .empty

/-- What happens at registries in a step. -/
def Step.history (depth : Nat) : Step → Store → History
  | .registry _ withNoop => fun _ => [.opened (.opening withNoop)]
  | .registration _ _ _ none => fun _ => [.opened .preset]
  | .register id name factory =>
      Op.andThen (Op.registryNamed id) Op.quiet fun g _ => [.registered g name (.program factory)]
  | .instantiate id key name =>
      Op.andThen (Op.registryNamed id) Op.quiet fun g => Op.askHistory depth g key name
  | .resolve id =>
      Op.andThen (Op.named Directory.registrations id) Op.quiet (Op.resolveHistory depth)
  | .getProvider id =>
      Op.andThen (Op.named Directory.registrations id) Op.quiet (Op.discoveryHistory depth)
  | .getMeter id _ _ =>
      Op.andThen (Op.named Directory.registrations id) Op.quiet (Op.discoveryHistory depth)
  | _ => Op.quiet

namespace Op

/-- A new registry. -/
theorem chronicles_addRegistry (s : Store) (content : Registry) :
    Chronicles [.opened content] s (s.addRegistry content) :=
  .single rfl (List.append_nil _).symm trivial

theorem tells_registry (depth : Nat) (processWide : Option RegistrationRef) (id : String)
    (withNoop : Bool) :
    Tells (perform depth processWide (.registry id withNoop)) fun _ =>
      [.opened (.opening withNoop)] := by
  refine tells_look fun s => ?_
  rw [left_bind_of_ok (modify_run _ s)]
  refine (chronicles_addRegistry s _).append (.of_apart ?_)
  have hnamed : Trait.apart.Has ((modify fun u => u.updateDirectory fun d =>
      { d with registries := d.registries.insert id s.registries.next } : Op Unit) >>= fun _ =>
        get >>= fun u => pure (Reply.registry (u.registry s.registries.next).names
          (u.registry s.registries.next).outline.render)) :=
    (Trait.apart.modify (.updateDirectory _)).bind fun _ =>
      Trait.apart.look (fun _ _ => rfl) fun _ => Trait.apart.pure _
  exact hnamed _

theorem tells_registration (depth : Nat) (processWide : Option RegistrationRef) (id : String)
    (key : Option String) (source : SourceSpec) :
    Tells (perform depth processWide (.registration id key source none)) fun _ =>
      [.opened .preset] := fun s =>
  (chronicles_addRegistry s _).append
    (.of_apart (has_registrationWith (T := .apart) id key source s.registries.next _))

/-- Every step does at registries what its history says. -/
theorem tells_perform (depth : Nat) (processWide : Option RegistrationRef) {x : Step}
    (hx : x.sequential = true) : Tells (perform depth processWide x) (x.history depth) := by
  have hshow := fun answer => has_showFound (T := .apart) answer
  cases x with
  | registry id withNoop => exact tells_registry depth processWide id withNoop
  | register registry name factory =>
      exact (tells_of_apart (has_registryNamed registry)).bind fun g =>
        (tells_register g name _).andApart fun _ => Trait.apart.pure _
  | instantiate registry key name =>
      exact (tells_of_apart (has_registryNamed registry)).bind fun g =>
        (tells_instantiate depth g key name).andApart fun _ => hshow _
  | registration id key source registry =>
      cases registry with
      | none => exact tells_registration depth processWide id key source
      | some registry =>
          exact tells_of_apart ((has_named _ _).bind (has_registrationWith id key source))
  | resolve registration =>
      exact tells_named fun o => (tells_resolve depth o).andApart fun _ => hshow _
  | getProvider registration =>
      exact tells_named fun o => (tells_getProvider depth o).andApart fun _ => hshow _
  | getMeter registration id scope =>
      refine tells_named fun o => (tells_getMeter depth o scope).andApart fun answer => ?_
      cases answer with
      | ok m => exact has_nameMeter id m
      | error e => exact Trait.apart.pure _
  | race registration threads winner => cases hx
  | raceCreate registration meter threads provider => cases hx
  | _ => exact tells_of_apart (has_perform processWide rfl rfl fun h => by cases h)

end Op

namespace Scenario

/-- What happens at registries in the course of a run. -/
def history (depth : Nat) (processWide : Option RegistrationRef) : Store → List Step → History
  | _, [] => []
  | s, x :: xs =>
      x.history depth { s with trace := #[] } ++
        history depth processWide (step depth processWide s x).2 xs

/-- What is seen of registries in the course of a run. -/
def registryEvents (depth : Nat) (processWide : Option RegistrationRef) (s : Store)
    (steps : List Step) : List Event :=
  ((runFrom depth processWide s steps).flatMap Prod.snd).filter Event.ofRegistry

/-- A step does at registries what its history says. -/
theorem chronicles_step (depth : Nat) (processWide : Option RegistrationRef) (s : Store) {x : Step}
    (hx : x.sequential = true) :
    Chronicles (x.history depth { s with trace := #[] }) { s with trace := #[] }
        (step depth processWide s x).2 ∧
      (step depth processWide s x).1.2 = (step depth processWide s x).2.trace.toList := by
  have htells := Op.tells_perform depth processWide hx { s with trace := #[] }
  unfold step
  cases hrun : Op.perform depth processWide x { s with trace := #[] } with
  | ok reply s' => exact ⟨Op.left_of_ok hrun ▸ htells, rfl⟩
  | error halt s' => exact ⟨Op.left_of_error hrun ▸ htells, rfl⟩

/-- A run does at registries what its history says. -/
theorem chronicles_after (depth : Nat) (processWide : Option RegistrationRef) (s : Store)
    {steps : List Step} (hsteps : ∀ x ∈ steps, x.sequential = true) :
    (after depth processWide s steps).registries =
        (history depth processWide s steps).apply s.registries ∧
      registryEvents depth processWide s steps =
        (history depth processWide s steps).events s.registries ∧
      (history depth processWide s steps).Right s.registries := by
  induction steps generalizing s with
  | nil => exact ⟨rfl, rfl, History.right_nil _⟩
  | cons x xs ih =>
      obtain ⟨hstep, hseen⟩ :=
        chronicles_step depth processWide s (hsteps x List.mem_cons_self)
      obtain ⟨hregistries, hevents, hright⟩ :=
        ih (step depth processWide s x).2 fun y hy => hsteps y (List.mem_cons_of_mem x hy)
      rw [hstep.registries] at hregistries hevents hright
      refine ⟨?_, ?_, hstep.right.append hright⟩
      · rw [history, History.apply_append]
        exact hregistries
      · rw [history, History.events_append]
        calc registryEvents depth processWide s (x :: xs)
            = (step depth processWide s x).2.registryEvents ++
                registryEvents depth processWide (step depth processWide s x).2 xs := by
              rw [registryEvents, runFrom, List.flatMap_cons, List.filter_append, hseen]
              rfl
          _ = _ := congrArg₂ (· ++ ·) hstep.events hevents

end Scenario

end DeferredMetrics
