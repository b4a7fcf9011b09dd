import DeferredMetrics.Proofs.Chronicle
import DeferredMetrics.Proofs.Obtaining

set_option autoImplicit false

/-! # Factories that ask the next one

A factory may end by asking a registry in its turn: it answers what it is answered, and puts its own
name on an error. `HandedOn` says that a request was handed on in this way along a path of
factories, of any length, and `Concludes` lists the ways in which such a request ends. An error
comes back through the whole path, and nothing of it is lost (`PassedOn`). The main statement is
`delegated_request`. -/

namespace DeferredMetrics

/-! ## Errors that are passed on -/

namespace FactoryError

/-- The text of what the factory has answered. -/
def message : FactoryError → String
  | .failed reason _ => reason
  | .refused source => source.message

/-- The texts of its causes, each the cause of the one before it. -/
def sources : FactoryError → List String
  | .failed _ causes => causes
  | .refused source => source.sources

end FactoryError

namespace DiscoveryError

/-- The errors of other discoveries that the error is due to, each due to the next. -/
def discoveries : DiscoveryError → List DiscoveryError
  | .factoryRefused _ source => source :: source.discoveries
  | _ => []

/-- The factory `name` has failed for this reason: the reason and its causes come after the error,
and the text of the error speaks of the factory and ends with the reason in full. -/
structure Blames (name reason : String) (causes : List String) (e : DiscoveryError) : Prop where
  factory : e.OfFactory name
  sources : e.sources = reason :: causes
  message : ∃ before between, e.message = before ++ name ++ between ++ reason

/-- The text for a factory speaks of it and has the reason in full. -/
theorem failureText_contains (name reason : String) :
    ∃ before between, failureText name reason = before ++ name ++ between ++ reason :=
  ⟨_, _, rfl⟩

theorem blames_factoryRefused (name : String) (source : DiscoveryError) :
    (factoryRefused name source).Blames name source.message source.sources :=
  ⟨rfl, rfl, failureText_contains name source.message⟩

theorem blames_factory (name : String) (source : FactoryError) :
    (factory name source).Blames name source.message source.sources := by
  cases source with
  | failed reason causes => exact ⟨rfl, rfl, failureText_contains name reason⟩
  | refused source => exact blames_factoryRefused name source

/-- The error that comes back through the factories `names`, the outermost first. -/
def through (names : List String) (e : DiscoveryError) : DiscoveryError :=
  names.foldr factoryRefused e

/-- `top` is what has become of `last` on its way through the factories `names`, the outermost
first. -/
structure PassedOn (top : DiscoveryError) (names : List String) (last : DiscoveryError) : Prop where
  /-- Each of the factories has its error, in order; then come `last` and what it is due to. -/
  errors : ∃ outer, List.Forall₂ OfFactory names outer ∧
    top :: top.discoveries = outer ++ last :: last.discoveries ∧
    top.message :: top.sources = (outer ++ [last]).map message ++ last.sources
  /-- Each error but the last blames the next one. -/
  blames : (top :: top.discoveries).IsChain fun e next =>
    ∃ name, e.Blames name next.message next.sources

theorem blames_discoveries (e : DiscoveryError) :
    (e :: e.discoveries).IsChain fun e next =>
      ∃ name, e.Blames name next.message next.sources := by
  induction e with
  | unknownProvider key name => exact .singleton _
  | factoryFailed name reason causes => exact .singleton _
  | factoryRefused name source ih => exact .cons_cons ⟨name, blames_factoryRefused name source⟩ ih

theorem passedOn_through (names : List String) (last : DiscoveryError) :
    (last.through names).PassedOn names last := by
  refine ⟨?_, blames_discoveries _⟩
  induction names with
  | nil => exact ⟨[], .nil, rfl, rfl⟩
  | cons name names ih =>
      obtain ⟨outer, hnames, herrors, htexts⟩ := ih
      refine ⟨(last.through (name :: names)) :: outer, .cons rfl hnames, ?_, ?_⟩
      · exact congrArg (_ :: ·) herrors
      · exact congrArg (_ :: ·) htexts

end DiscoveryError

/-! ## Factories that have begun -/

/-- The name of the factory that began. -/
def Event.begun? : Event → Option String
  | .factory name => some name
  | _ => none

/-- The factories that were seen to begin, in order. -/
def Store.factoryRuns (s : Store) : List String := s.trace.toList.filterMap Event.begun?

/-- The factories that begin in what has happened at registries. -/
def History.begun (t : Registries) (H : History) : List String :=
  (events t H).filterMap Event.begun?

/-- The action asks a registry. -/
def FactoryAction.asks : FactoryAction → Bool
  | .ask .. => true
  | _ => false

/-- Before it ends the factory asks a registry. -/
def Factory.asksAside (factory : Factory) : Bool := factory.actions.any FactoryAction.asks

/-- Before it ends or when it ends, the factory asks a registry. -/
def Factory.asks (factory : Factory) : Bool :=
  factory.asksAside || match factory.outcome with
    | .delegates .. => true
    | _ => false

theorem Store.factoryRuns_eq (s : Store) :
    s.factoryRuns = s.registryEvents.filterMap Event.begun? := by
  unfold factoryRuns registryEvents
  rw [List.filterMap_filter]
  refine congrArg (List.filterMap · _) (funext fun e => ?_)
  cases e with
  | log message => cases message <;> rfl
  | _ => rfl

theorem Store.factoryRuns_see_factory (s : Store) (name : String) :
    (s.see (.factory name)).factoryRuns = s.factoryRuns ++ [name] := by
  simp [factoryRuns, see, Event.begun?]

theorem Chronicles.factoryRuns {H : History} {s s' : Store} (h : Chronicles H s s') :
    s'.factoryRuns = s.factoryRuns ++ History.begun s.registries H := by
  rw [Store.factoryRuns_eq, h.events, List.filterMap_append, ← Store.factoryRuns_eq, History.begun]

theorem Chronicles.factoryRuns_of_begun {H : History} {name : String} {s s' : Store}
    (h : Chronicles H (s.see (.factory name)) s') :
    s'.factoryRuns = s.factoryRuns ++ name :: History.begun s.registries H := by
  rw [h.factoryRuns, Store.factoryRuns_see_factory, List.append_assoc]
  rfl

namespace History

theorem begun_append (t : Registries) (H H' : History) :
    begun t (H ++ H') = begun t H ++ begun (apply t H) H' := by
  rw [begun, events_append, List.filterMap_append, begun, begun]

theorem begun_registered (t : Registries) (g : RegistryRef) (name : String)
    (factory : StoredFactory) : begun t [.registered g name factory] = [] := by
  have hevents : events t [.registered g name factory] =
      ((t.get g).replaced? name).toList.map .log := List.append_nil _
  rw [begun, hevents]
  cases (t.get g).replaced? name <;> rfl

theorem begun_andThen {α : Type} {op : Op α} {history : Store → History}
    {rest : α → Store → History} {s : Store} (h : ∀ t, begun t (history s) = [])
    (hrest : ∀ a s' t, op s = .ok a s' → begun t (rest a s') = []) (t : Registries) :
    begun t (Op.andThen op history rest s) = [] := by
  unfold Op.andThen
  rw [begun_append, h]
  cases hrun : op s with
  | ok a s' => exact hrest a s' _ hrun
  | error halt s' => rfl

end History

namespace Op

variable {ask : Asker} {told : Chronicler}

theorem begun_actHistory {action : FactoryAction} (h : action.asks = false) (s : Store)
    (t : Registries) : History.begun t (actHistory told action s) = [] := by
  cases action with
  | register registry name factory =>
      exact History.begun_andThen (fun _ => rfl)
        (fun g _ t _ => History.begun_registered t g name _) t
  | names registry => exact History.begun_andThen (fun _ => rfl) (fun _ _ _ _ => rfl) t
  | ask registry key name => cases h
  | _ => rfl

/-- Actions that ask no registry begin no factory. -/
theorem begun_actsHistory {actions : List FactoryAction}
    (h : actions.any FactoryAction.asks = false) (s : Store) (t : Registries) :
    History.begun t (actsHistory ask told actions s) = [] := by
  induction actions generalizing s t with
  | nil => rfl
  | cons action actions ih =>
      rw [List.any_cons, Bool.or_eq_false_iff] at h
      exact History.begun_andThen (begun_actHistory h.1 s) (fun _ s' t _ => ih h.2 s' t) t

/-- A factory that asks no registry begins no other. -/
theorem begun_programHistory {factory : Factory} (h : factory.asks = false) (s : Store)
    (t : Registries) : History.begun t (programHistory ask told factory s) = [] := by
  rw [Factory.asks, Bool.or_eq_false_iff] at h
  refine History.begun_andThen (begun_actsHistory h.1 s) (fun _ s' t _ => ?_) t
  cases houtcome : factory.outcome with
  | delegates registry key other => rw [houtcome] at h; cases h.2
  | _ => rfl

end Op

/-! ## Paths of factories -/

/-- What a registry is asked for: the factory `name`, whose name comes from `key`. -/
structure Place where
  registry : RegistryRef
  key : String
  name : String

/-- A place and the factory that is found there, which asks for another one. -/
structure Relay extends Place where
  factory : Factory

/-- The factory that is found at a place. -/
def Store.factoryAt (s : Store) (p : Place) : Option StoredFactory :=
  (s.registry p.registry).get? p.name

/-- Ask the registry of a place for the provider of its factory. -/
def Op.request (depth : Nat) (p : Place) : Op (Except DiscoveryError ProviderRef) :=
  instantiate depth p.registry p.key p.name

/-- The factory of the relay is found in `s` and run, and ends with asking for `next` in `s'`. What
it does before may ask registries too, `depth` levels deep. -/
structure HandsOver (depth : Nat) (s : Store) (x : Relay) (s' : Store) (next : Place) : Prop where
  found : s.factoryAt x.toPlace = some (.program x.factory)
  acts : x.factory.actions.forM (Op.act (Op.instantiate depth)) (s.see (.factory x.name)) =
    .ok () s'
  ends : ∃ registry, x.factory.outcome = .delegates registry next.key next.name ∧
    s'.directory.registries.get? registry = some next.registry

/-- A request for `p` in `s` is handed over from relay to relay until `last` is asked for in `s'`,
where `depth` levels are left. -/
inductive HandedOn (depth : Nat) : Store → Place → List Relay → Store → Place → Prop where
  | here (s : Store) (p : Place) : HandedOn depth s p [] s p
  | next {s s₁ s' : Store} {x : Relay} {rest : List Relay} {p last : Place}
      (h : HandsOver (rest.length + depth) s x s₁ p) (hrest : HandedOn depth s₁ p rest s' last) :
      HandedOn depth s x.toPlace (x :: rest) s' last

/-- The names of the factories of a path. -/
def namesAlong (path : List Relay) : List String := path.map fun x => x.name

/-- What the factory `name` leaves of its run, which begins in `s`: it began once, and if it asks no
registry, no other has begun. The one that is there from the start is not seen to begin, and leaves
its provider and nothing else. -/
def RunsOnce (name : String) (s s' : Store) : StoredFactory → Prop
  | .noop => s' = s.addProvider .noop
  | .program factory => ∃ new, s'.factoryRuns = s.factoryRuns ++ name :: new ∧
      (factory.asks = false → new = [])

/-- The ways in which a request ends that the factories `names` have handed on, and for which `last`
is asked for in `s`, where `depth + 1` levels are left. -/
inductive Concludes (depth : Nat) (names : List String) (last : Place) (s : Store) :
    EStateM.Result Halt Store (Except DiscoveryError ProviderRef) → Prop where
  /-- There is no factory of the name, and none is run: the last error says so, and has no cause. -/
  | unknown {top : DiscoveryError} (hfactory : s.factoryAt last = none)
      (htop : top.PassedOn names (.unknownProvider last.key last.name)) :
      Concludes depth names last s (.ok (.error top) s)
  /-- The factory makes a provider, and that one is the answer. -/
  | made {stored : StoredFactory} {p : ProviderRef} {s' : Store}
      (hfactory : s.factoryAt last = some stored) (hruns : RunsOnce last.name s s' stored)
      (h : Op.callFactory (Op.instantiate depth) last.name stored s = .ok (.ok p) s') :
      Concludes depth names last s (.ok (.ok p) s')
  /-- The factory fails: the last error is its error, and the causes are those it has answered. -/
  | failed {stored : StoredFactory} {source : FactoryError} {top : DiscoveryError} {s' : Store}
      (hfactory : s.factoryAt last = some stored) (hruns : RunsOnce last.name s s' stored)
      (h : Op.callFactory (Op.instantiate depth) last.name stored s = .ok (.error source) s')
      (hlast : (DiscoveryError.factory last.name source).Blames last.name source.message
        source.sources)
      (htop : top.PassedOn names (.factory last.name source)) :
      Concludes depth names last s (.ok (.error top) s')
  /-- The factory panics, or waits for ever, and so does the request. -/
  | halted {stored : StoredFactory} {halt : Halt} {s' : Store}
      (hfactory : s.factoryAt last = some stored) (hruns : RunsOnce last.name s s' stored)
      (h : Op.callFactory (Op.instantiate depth) last.name stored s = .error halt s') :
      Concludes depth names last s (.error halt s')

/-- The factories of the path have begun between `s` and `s'`, each once and in order, and no other
unless one of them asks for it before it ends. -/
def BegunAlong (path : List Relay) (s s' : Store) : Prop :=
  ∃ new, s'.factoryRuns = s.factoryRuns ++ new ∧ (namesAlong path).Sublist new ∧
    ((∀ x ∈ path, x.factory.asksAside = false) → new = namesAlong path)

namespace HandsOver

variable {depth : Nat} {s s' : Store} {x : Relay} {next : Place}

/-- The request for a factory that hands over is the request for the next one, and the name of the
factory on the error. -/
theorem request_eq (h : HandsOver depth s x s' next) :
    Op.request (depth + 1) x.toPlace s =
      (Op.request depth next >>= fun answer =>
        pure (answer.mapError (.factoryRefused x.name))) s' := by
  obtain ⟨registry, houtcome, hregistry⟩ := h.ends
  rw [Op.request, Op.instantiate_of_some depth x.key h.found, Op.runFactory,
    Op.bind_of_ok (Op.see_run _ s), Op.bind_of_ok h.acts, houtcome, Op.finish,
    Op.bind_of_ok (Op.named_of_some hregistry)]
  refine congrFun (bind_congr fun answer => ?_) s'
  cases answer <;> rfl

theorem factoryRuns (h : HandsOver depth s x s' next) :
    ∃ new, s'.factoryRuns = s.factoryRuns ++ x.name :: new ∧
      (x.factory.asksAside = false → new = []) := by
  have hacts := Op.tells_acts (Op.tells_instantiate depth) x.factory.actions
    (s.see (.factory x.name))
  rw [Op.left_of_ok h.acts] at hacts
  exact ⟨_, hacts.factoryRuns_of_begun, fun hasks => Op.begun_actsHistory hasks _ _⟩

end HandsOver

namespace HandedOn

variable {depth : Nat} {s s' : Store} {p last : Place} {path : List Relay}

theorem request_eq (h : HandedOn depth s p path s' last) :
    Op.request (path.length + depth) p s =
      (Op.request depth last >>= fun answer =>
        pure (answer.mapError (.through (namesAlong path)))) s' := by
  induction h with
  | here s p =>
      have hthrough : ∀ answer : Except DiscoveryError ProviderRef,
          answer.mapError (.through []) = answer := fun answer => by cases answer <;> rfl
      simp only [namesAlong, List.map_nil, hthrough, List.length_nil, Nat.zero_add]
      exact congrFun (bind_pure _).symm s
  | @next s s₁ s' x rest p last hover hrest ih =>
      calc Op.request ((x :: rest).length + depth) x.toPlace s
        _ = (Op.request (rest.length + depth) p >>= fun answer =>
              pure (answer.mapError (.factoryRefused x.name))) s₁ := by
            rw [List.length_cons, Nat.add_right_comm, hover.request_eq]
        _ = (Op.request depth last >>= fun answer =>
              pure (answer.mapError (.through (namesAlong rest))) >>= fun answer =>
                pure (answer.mapError (.factoryRefused x.name))) s' := by
            rw [Op.bind_run, ih, ← Op.bind_run, bind_assoc]
        -- what the rest of the path has made of the answer gets the name of `x`
        _ = (Op.request depth last >>= fun answer =>
              pure (answer.mapError (.through (namesAlong (x :: rest))))) s' := by
            refine congrFun (bind_congr fun answer => ?_) s'
            cases answer <;> rfl

theorem begunAlong (h : HandedOn depth s p path s' last) : BegunAlong path s s' := by
  induction h with
  | here s p => exact ⟨[], (List.append_nil _).symm, .slnil, fun _ => rfl⟩
  | @next s s₁ s' x rest p last hover hrest ih =>
      -- `x`, then what it asks for aside, then the rest of the path
      obtain ⟨aside, haside, hquiet⟩ := hover.factoryRuns
      obtain ⟨new, hnew, hsub, hexact⟩ := ih
      refine ⟨x.name :: aside ++ new, ?_, ?_, fun hasks => ?_⟩
      · rw [hnew, haside, List.append_assoc]
      · exact .cons_cons _ (hsub.trans (List.sublist_append_right aside new))
      · rw [hquiet (hasks x (.head _)), hexact fun y hy => hasks y (.tail _ hy)]
        rfl

end HandedOn

namespace Op

variable {s : Store} {last : Place}

theorem left_callFactory (ask : Asker) (name : String) (stored : StoredFactory) (s : Store) :
    (callFactory ask name stored).left s = (runFactory ask name stored).left s := by
  rw [runFactory_eq]
  cases hrun : callFactory ask name stored s with
  | ok answer s' =>
      rw [left_of_ok hrun, left_bind_of_ok hrun]
      rfl
  | error halt s' => rw [left_of_error hrun, left_bind_of_error hrun]

/-- A factory runs once, however it ends. -/
theorem runsOnce_callFactory (depth : Nat) (name : String) (stored : StoredFactory) (s : Store) :
    RunsOnce name s ((callFactory (instantiate depth) name stored).left s) stored := by
  cases stored with
  | noop => rfl
  | program factory =>
      -- of its own code only the begin is seen, all else is seen of those that it asks for
      have hrun := tells_program (tells_instantiate depth) name factory (s.see (.factory name))
      rw [left_callFactory, runFactory, left_bind_of_ok (see_run _ s)]
      exact ⟨_, hrun.factoryRuns_of_begun, fun hasks => begun_programHistory hasks _ _⟩

/-- A request that was handed on along a path ends in one of the ways. -/
theorem concludes_request {depth : Nat} {s s' : Store} {p last : Place} {path : List Relay}
    (h : HandedOn (depth + 1) s p path s' last) :
    Concludes depth (namesAlong path) last s' (request (path.length + (depth + 1)) p s) := by
  rw [h.request_eq, request]
  cases hfactory : s'.factoryAt last with
  | none =>
      rw [bind_of_ok (instantiate_of_none depth last.key hfactory)]
      exact .unknown hfactory (DiscoveryError.passedOn_through _ _)
  | some stored =>
      have hruns := runsOnce_callFactory depth last.name stored s'
      rw [bind_run, instantiate_of_some depth last.key hfactory, runFactory_eq, bind_run]
      cases hrun : callFactory (instantiate depth) last.name stored s' with
      | error halt s'' =>
          rw [left_of_error hrun] at hruns
          exact .halted hfactory hruns hrun
      | ok answer s'' =>
          rw [left_of_ok hrun] at hruns
          cases answer with
          | ok q => exact .made hfactory hruns hrun
          | error source =>
              exact .failed hfactory hruns hrun (DiscoveryError.blames_factory last.name source)
                (DiscoveryError.passedOn_through _ _)

end Op

/-- A request that factories have handed on along a path, of any length: the factories of the path
have run once each and in order, and the request ends in one of the ways that are listed. -/
theorem delegated_request {depth : Nat} {s s' : Store} {p last : Place} {path : List Relay}
    (h : HandedOn (depth + 1) s p path s' last) :
    BegunAlong path s s' ∧
      Concludes depth (namesAlong path) last s' (Op.request (path.length + (depth + 1)) p s) :=
  ⟨h.begunAlong, Op.concludes_request h⟩

/-- Three registries: the factory `x` of the first asks the second for `y`, which looks at the names
of the third and asks that one for `z`, which fails. -/
def Store.relaying : Store :=
  Scenario.after 1 none (.initial .empty)
    [.registry "a" false, .registry "b" true, .registry "c" false,
      .register (.own "a") "x" (.ofOutcome (.delegates "b" "second" "y")),
      .register (.own "b") "y" (.mk [.names "c"] (.delegates "c" "third" "z")),
      .register (.own "c") "z" (.ofOutcome (.fails "no endpoint" ["refused", "timed out"]))]

/-- The first of the factories that hand on. -/
def Relay.first : Relay := ⟨⟨⟨0⟩, "first", "x"⟩, .ofOutcome (.delegates "b" "second" "y")⟩

/-- The second one. -/
def Relay.second : Relay := ⟨⟨⟨1⟩, "second", "y"⟩, .mk [.names "c"] (.delegates "c" "third" "z")⟩

/-- What is left when `z` is asked for. -/
def Store.relayed : Store :=
  ((Store.relaying.see (.factory "x")).see (.factory "y")).see (.names ["z"])

theorem handedOn_relaying :
    HandedOn 1 .relaying Relay.first.toPlace [.first, .second] .relayed ⟨⟨2⟩, "third", "z"⟩ := by
  have hfirst : HandsOver 2 .relaying .first (Store.relaying.see (.factory "x"))
      Relay.second.toPlace := ⟨rfl, rfl, "b", rfl, rfl⟩
  have hsecond : HandsOver 1 (Store.relaying.see (.factory "x")) .second .relayed
      ⟨⟨2⟩, "third", "z"⟩ := ⟨rfl, rfl, "c", rfl, rfl⟩
  exact .next hfirst (.next hsecond (.here _ _))

theorem delegated_request_relaying :
    BegunAlong [.first, .second] .relaying .relayed ∧
      Concludes 0 ["x", "y"] ⟨⟨2⟩, "third", "z"⟩ .relayed
        (Op.request 3 ⟨⟨0⟩, "first", "x"⟩ .relaying) :=
  delegated_request handedOn_relaying

end DeferredMetrics
