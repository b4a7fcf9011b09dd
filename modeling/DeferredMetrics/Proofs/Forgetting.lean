import DeferredMetrics.Proofs.StepTraits

set_option autoImplicit false

/-! # A run goes on in the same way whatever was called before

Every operation writes its calls down, and none looks at those that were made before. That is a
trait (`Trait.oblivious`), and every step has it, also one in which threads race
(`oblivious_perform`). So from two stores that differ in nothing but the calls made before a run
gets the same replies, shows the same, makes the same calls, and leaves stores that differ in
nothing else either (`GoesOnAs.of_calls`), however it goes on. -/

namespace DeferredMetrics

namespace Op

variable {α : Type}

/-- The result of an operation with the calls `past` before all others. -/
def recalled (past : Array Call) : EStateM.Result Halt Store α → EStateM.Result Halt Store α
  | .ok a s => .ok a (s.recall past)
  | .error halt s => .error halt (s.recall past)

/-- What was called before makes no difference to the operation. -/
def Oblivious (op : Op α) : Prop := ∀ past s, op (s.recall past) = recalled past (op s)

end Op

/-- Operations are oblivious. -/
def Trait.oblivious : Trait where
  Has := Op.Oblivious
  pure _ := fun _ _ => rfl
  throw _ := fun _ _ => rfl
  modify h := fun past s => congrArg (EStateM.Result.ok ()) (h.forgets past s)
  bind {α β op f} h hf := by
    intro past s
    rw [Op.bind_run, Op.bind_run, h past s]
    cases op s with
    | ok a s' => exact hf a past s'
    | error halt s' => rfl
  look {β f} hsame h := by
    intro past s
    show f (s.recall past) (s.recall past) = _
    rw [hsame]
    exact h s past s
  attempt {α op} child name h := by
    intro past s
    unfold Op.attempt
    rw [h past s]
    cases op s with
    | ok a s' => rfl
    | error halt s' => cases halt <;> rfl

namespace Op

variable {T : Trait} {α : Type}

/-! ## At registries -/

/-- A change that takes no notice of calls. -/
theorem oblivious_modify {f : Store → Store} (h : ∀ past s, f (s.recall past) = (f s).recall past) :
    Trait.oblivious.Has (modify f : Op Unit) := fun past s =>
  congrArg (EStateM.Result.ok ()) (h past s)

theorem oblivious_see (e : Event) : Trait.oblivious.Has (see e) := oblivious_modify fun _ _ => rfl

theorem oblivious_coversRegistries : CoversRegistries .oblivious :=
  ⟨fun _ => oblivious_see _, fun _ _ => oblivious_modify fun _ _ => rfl⟩

theorem oblivious_discovers (depth : Nat) : Discovers .oblivious depth where
  lookUp source key := by
    cases source with
    | settings values => exact (oblivious_see _).bind fun _ => Trait.oblivious.pure _
    | environment => exact Trait.oblivious.look (fun _ _ => rfl) fun _ => Trait.oblivious.pure _
  ask := has_instantiate oblivious_coversRegistries depth

/-! ## Races -/

theorem has_times {op : Op α} (h : T.Has op) (n : Nat) : T.Has (times op n) := by
  induction n with
  | zero => exact T.pure _
  | succ n ih => exact h.bind fun _ => ih.bind fun _ => T.pure _

theorem oblivious_unseen {op : Op α} (h : Trait.oblivious.Has op) :
    Trait.oblivious.Has (unseen op) :=
  Trait.oblivious.look (fun _ _ => rfl) fun _ => (oblivious_modify fun _ _ => rfl).bind fun _ =>
    h.bind fun _ => Trait.oblivious.look (fun _ _ => rfl) fun _ =>
      (oblivious_modify fun _ _ => rfl).bind fun _ => Trait.oblivious.pure _

theorem has_offerRecording (o : RegistrationRef) : T.Has (offerRecording o) :=
  (has_makeProvider _).bind fun p => (has_install o p false).bind fun _ =>
    (has_registered o).bind fun _ => T.pure _

theorem oblivious_race (registration : String) (threads : Nat) (winner : String) :
    Trait.oblivious.Has (race registration threads winner) := by
  refine (has_named _ _).bind fun o => ?_
  refine (oblivious_unseen (has_times (has_offerRecording o) threads)).bind fun x => ?_
  simp only
  cases x.1.find? fun offer => offer.2.1 with
  | none => exact Trait.oblivious.look (fun _ _ => rfl) fun _ => Trait.oblivious.pure _
  | some offer =>
      exact (Trait.oblivious.modify (.enterProvider winner _)).bind fun _ =>
        Trait.oblivious.look (fun _ _ => rfl) fun _ => Trait.oblivious.pure _

/-! ## Threads beside an installation -/

open Installation

theorem has_askForMeter (p : ProviderRef) (m : MeterRef) (tally : Tally)
    (left : List MeterRef) : T.Has (askForMeter p m tally left) := by
  refine T.look (fun _ _ => rfl) fun s => ?_
  refine (T.attempt _ _ (has_requestMeter p _)).bind fun answer => ?_
  cases answer with
  | none => exact T.pure _
  | some target => exact (has_note _).bind fun _ => T.pure _

theorem has_enterMeter (m target : MeterRef) (tally : Tally) (left : List MeterRef) :
    T.Has (enterMeter m target tally left) := by
  refine T.look (fun _ _ => rfl) fun s => ?_
  simp only
  split
  · exact (has_log rfl).bind fun _ => T.pure _
  · exact T.pure _

theorem has_leaveMeter (m : MeterRef) (inner tally : Tally) (left : List MeterRef) :
    T.Has (leaveMeter m inner tally left) :=
  T.look (fun _ _ => rfl) fun _ => (has_log rfl).bind fun _ => T.pure _

theorem has_advance (r : RegistrationRef) (p : ProviderRef) (phase : Phase) :
    T.Has (advance r p phase) := by
  cases phase with
  | before =>
      refine T.look (fun _ _ => rfl) fun s => ?_
      split
      · exact (has_log rfl).bind fun _ => T.pure _
      · exact (T.modify (.updateRegistration r _)).bind fun _ => T.pure _
  | written =>
      refine T.look (fun _ _ => rfl) fun s => (has_note _).bind fun _ => ?_
      refine T.look (fun _ _ => rfl) fun s => ?_
      simp only
      split
      · exact (has_log rfl).bind fun _ => T.pure _
      · exact (T.modify (.updateProvider _ _)).bind fun _ => T.pure _
  | meters tally left =>
      cases left with
      | nil => exact (has_log rfl).bind fun _ => T.pure _
      | cons m left => exact has_askForMeter p m tally left
  | asked m target tally left => exact has_enterMeter m target tally left
  | instruments m target inner innerLeft tally left =>
      cases innerLeft with
      | nil => exact (T.modify (.updateMeter m _)).bind fun _ => T.pure _
      | cons i innerLeft =>
          exact (has_instrumentName i).bind fun n =>
            (has_isolated _ n (has_bindInstrument target i)).bind fun _ =>
              T.pure _
  | closing m inner tally left => exact has_leaveMeter m inner tally left
  | bound =>
      exact (has_log rfl).bind fun _ =>
        (T.modify (.updateRegistration r _)).bind fun _ => T.pure _
  | ended installed => exact T.pure _

theorem has_move (r : RegistrationRef) (p : ProviderRef) (phase : Phase) (x : Move) :
    T.Has (move r p phase x) := by
  cases x with
  | advance => exact (has_advance r p phase).bind fun _ => T.pure _
  | requestMeter scope =>
      simp only [move]
      split
      · exact T.pure _
      · exact T.look (fun _ _ => rfl) fun _ =>
          (has_requestMeter _ scope).bind fun _ => T.pure _
  | requestMeterFrom provider scope =>
      refine T.look (fun _ _ => rfl) fun s => ?_
      split
      · exact T.pure _
      · exact (has_requestMeter provider scope).bind fun _ => T.pure _
  | requestInstrument meter request =>
      refine T.look (fun _ _ => rfl) fun s => ?_
      split
      · exact T.pure _
      · exact (has_requestInstrument meter request).bind fun _ => T.pure _
  | look => exact (has_registered r).bind fun _ => T.pure _
  | record instrument sample attributes =>
      exact (has_record instrument sample attributes).bind fun _ => T.pure _
  | observe instrument => exact (has_observe instrument).bind fun _ => T.pure _

end Op

namespace Installation

/-- The machine in which the calls `past` were made before all others. -/
def Machine.recall (past : Array Call) (m : Machine) : Machine := ⟨m.phase, m.store.recall past⟩

theorem Machine.step_recall (r : RegistrationRef) (p : ProviderRef) (past : Array Call)
    (m : Machine) (x : Move) :
    (m.recall past).step r p x = ((m.step r p x).1, (m.step r p x).2.recall past) := by
  unfold Machine.step
  have hmove : Op.move r p (m.recall past).phase x (m.recall past).store =
      Op.recalled past (Op.move r p m.phase x m.store) :=
    Op.has_move (T := .oblivious) r p m.phase x past m.store
  rw [hmove]
  cases Op.move r p m.phase x m.store <;> rfl

theorem Machine.run_recall (r : RegistrationRef) (p : ProviderRef) (past : Array Call)
    (m : Machine) (moves : List Move) :
    run r p (m.recall past) moves =
      ((run r p m moves).1, (run r p m moves).2.recall past) := by
  induction moves generalizing m with
  | nil => rfl
  | cons x moves ih => simp only [run, step_recall, ih]

theorem createBeside_recall (r : RegistrationRef) (p : ProviderRef) (meter : MeterRef)
    (request : Request) (past : Array Call) (fuel pending : Nat) (m : Machine) :
    createBeside r p meter request fuel pending (m.recall past) =
      ((createBeside r p meter request fuel pending m).1,
        (createBeside r p meter request fuel pending m).2.recall past) := by
  induction fuel generalizing pending m with
  | zero => rfl
  | succ fuel ih =>
      cases pending with
      | zero =>
          simp only [createBeside, Machine.step_recall]
          exact ih 0 _
      | succ left =>
          simp only [createBeside, Machine.step_recall]
          split <;> simp only [ih]

end Installation

namespace Op

open Installation

/-- What threads leave takes the place of the store, with what was called before. -/
theorem oblivious_get_set {α : Type} (beside : Store → List InstrumentRef × Machine)
    (rest : List InstrumentRef → Phase → Op α)
    (hbeside : ∀ past s, beside (s.recall past) = ((beside s).1, (beside s).2.recall past))
    (hrest : ∀ is phase, Trait.oblivious.Has (rest is phase)) :
    Trait.oblivious.Has (get >>= fun s => match beside s with
      | (is, machine) => (set machine.store : Op PUnit) >>= fun _ => rest is machine.phase) := by
  intro past s
  show (rest (beside (s.recall past)).1 (beside (s.recall past)).2.phase)
    (beside (s.recall past)).2.store = _
  rw [hbeside]
  exact hrest _ _ past _

theorem oblivious_raceCreate (registration meter : String) (threads : Nat) (provider : String) :
    Trait.oblivious.Has (raceCreate registration meter threads provider) := by
  refine (has_named _ _).bind fun o => (has_named _ _).bind fun m => ?_
  refine (has_providerNamed _).bind fun p => (oblivious_unseen ?_).bind fun _ =>
    Trait.oblivious.look (fun _ _ => rfl) fun _ => Trait.oblivious.pure _
  -- the threads work on a copy of the store, which then takes its place
  refine oblivious_get_set (fun s => createBeside o p m ⟨.counter, .named racedName, none⟩
      (turns s threads) threads ⟨.before, s⟩)
    (fun is phase => is.forM (fun i => record i (.count 1) .empty) >>= fun _ =>
      pure (decide (phase = .ended true))) (fun past s => ?_) fun is phase => ?_
  · exact createBeside_recall o p m _ past (turns s threads) threads ⟨.before, s⟩
  · exact (has_forM fun i => has_record i _ _).bind fun _ => Trait.oblivious.pure _

/-! ## Steps -/

theorem oblivious_registry (depth : Nat) (processWide : Option RegistrationRef) (id : String)
    (withNoop : Bool) :
    Trait.oblivious.Has (perform depth processWide (.registry id withNoop)) :=
  Trait.oblivious.look (fun _ _ => rfl) fun _ => (oblivious_modify fun _ _ => rfl).bind fun _ =>
    (Trait.oblivious.modify (.updateDirectory _)).bind fun _ =>
      Trait.oblivious.look (fun _ _ => rfl) fun _ => Trait.oblivious.pure _

theorem oblivious_registration (id : String) (key : Option String) (source : SourceSpec)
    (registry : Option String) : Trait.oblivious.Has (registration id key source registry) := by
  have hrest := has_registrationWith (T := .oblivious) id key source
  cases registry with
  | some name => exact (has_named _ _).bind hrest
  | none =>
      have hmade : Trait.oblivious.Has (get >>= fun s =>
          (modify fun s => s.addRegistry Registry.preset : Op Unit) >>= fun _ =>
            pure s.registries.next) :=
        Trait.oblivious.look (fun _ _ => rfl) fun _ =>
          (oblivious_modify fun _ _ => rfl).bind fun _ => Trait.oblivious.pure _
      exact hmade.bind hrest

/-- No step takes notice of what was called before it. -/
theorem oblivious_perform (depth : Nat) (processWide : Option RegistrationRef) (x : Step) :
    Trait.oblivious.Has (perform depth processWide x) := by
  cases x with
  | registry id withNoop => exact oblivious_registry depth processWide id withNoop
  | register registry name factory =>
      exact (has_registryNamed registry).bind fun g =>
        (has_register oblivious_coversRegistries g name _).bind fun _ => Trait.oblivious.pure _
  | registration id key source registry => exact oblivious_registration id key source registry
  | race registration threads winner => exact oblivious_race registration threads winner
  | raceCreate registration meter threads provider =>
      exact oblivious_raceCreate registration meter threads provider
  | _ => exact has_perform processWide rfl rfl fun _ => oblivious_discovers depth

end Op

/-! ## Runs -/

theorem Scenario.step_recall (depth : Nat) (processWide : Option RegistrationRef)
    (past : Array Call) (s : Store) (x : Step) :
    step depth processWide (s.recall past) x =
      ((step depth processWide s x).1, (step depth processWide s x).2.recall past) := by
  have hrun := Op.oblivious_perform depth processWide x past { s with trace := #[] }
  unfold step
  rw [show ({ s.recall past with trace := #[] } : Store) =
    Store.recall past { s with trace := #[] } from rfl, hrun]
  cases Op.perform depth processWide x { s with trace := #[] } <;> rfl

theorem Op.left_recall {α : Type} {op : Op α} (h : op.Oblivious) (past : Array Call) (s : Store) :
    op.left (s.recall past) = (op.left s).recall past := by
  unfold left
  rw [h past s]
  cases op s <;> rfl

/-- A leg of a run: what comes next in it. -/
inductive Leg where
  /-- A step, in which factories may ask registries `depth` levels deep. -/
  | step (depth : Nat) (processWide : Option RegistrationRef) (x : Step)
  /-- A provider of any kind comes in. -/
  | backend (name : String) (p : Provider)

namespace Leg

/-- The reply, with what is seen, and the store that is left. Nothing replies to a provider that
comes in. -/
def go (s : Store) : Leg → Option (Reply × List Event) × Store
  | .step depth processWide x =>
      (some (Scenario.step depth processWide s x).1, (Scenario.step depth processWide s x).2)
  | .backend name p => (none, (Op.makeNamed name p).left s)

/-- The replies to all legs from a store on. -/
def replies : Store → List Leg → List (Option (Reply × List Event))
  | _, [] => []
  | s, x :: legs => (x.go s).1 :: replies (x.go s).2 legs

/-- The store that all legs leave. -/
def after (s : Store) (legs : List Leg) : Store := legs.foldl (fun s x => (x.go s).2) s

theorem go_recall (past : Array Call) (s : Store) (x : Leg) :
    x.go (s.recall past) = ((x.go s).1, (x.go s).2.recall past) := by
  cases x with
  | step depth processWide x =>
      rw [go, Scenario.step_recall]
      rfl
  | backend name p =>
      have hmake : (Op.makeNamed name p).Oblivious := Op.has_makeNamed (T := .oblivious) name p
      exact congrArg (Prod.mk none) (Op.left_recall hmake past s)

theorem replies_recall (past : Array Call) (s : Store) (legs : List Leg) :
    replies (s.recall past) legs = replies s legs := by
  induction legs generalizing s with
  | nil => rfl
  | cons x legs ih =>
      simp only [replies, go_recall]
      rw [ih]

theorem after_recall (past : Array Call) (s : Store) (legs : List Leg) :
    after (s.recall past) legs = (after s legs).recall past := by
  induction legs generalizing s with
  | nil => rfl
  | cons x legs ih =>
      show after (x.go (s.recall past)).2 legs = _
      rw [go_recall]
      exact ih _

end Leg

/-- However a run goes on from `t` and from `s`, it gets the same replies, shows the same, makes the
same calls and leaves the same objects; and if threads go on then beside an installation, they get
the same. -/
structure GoesOnAs (t s : Store) : Prop where
  replies : ∀ legs, Leg.replies s legs = Leg.replies t legs
  calls : ∀ legs, ∃ new,
    (Leg.after s legs).calls = s.calls ++ new ∧ (Leg.after t legs).calls = t.calls ++ new
  objects : ∀ legs,
    Leg.after s legs = { Leg.after t legs with calls := (Leg.after s legs).calls }
  threads : ∀ legs r p phase moves,
    (Installation.Machine.run r p ⟨phase, Leg.after s legs⟩ moves).1 =
      (Installation.Machine.run r p ⟨phase, Leg.after t legs⟩ moves).1

/-- Stores that differ in nothing but the calls made so far go on in the same way. -/
theorem GoesOnAs.of_calls {s t : Store} (h : s = { t with calls := s.calls }) : GoesOnAs t s := by
  -- both are one store without calls that recalls what was called before
  let base : Store := { t with calls := #[] }
  have hs : s = base.recall s.calls := by
    show s = { t with calls := s.calls ++ #[] }
    rwa [Array.append_empty]
  have ht : t = base.recall t.calls := by
    show t = { t with calls := t.calls ++ #[] }
    rw [Array.append_empty]
  have hafter : ∀ {u : Store}, u = base.recall u.calls → ∀ legs,
      Leg.after u legs = (Leg.after base legs).recall u.calls := by
    intro u hu legs
    calc Leg.after u legs
        = Leg.after (base.recall u.calls) legs := congrArg (Leg.after · legs) hu
      _ = _ := Leg.after_recall u.calls base legs
  have hthreads : ∀ {u : Store}, u = base.recall u.calls → ∀ legs r p phase moves,
      (Installation.Machine.run r p ⟨phase, Leg.after u legs⟩ moves).1 =
        (Installation.Machine.run r p ⟨phase, Leg.after base legs⟩ moves).1 := by
    intro u hu legs r p phase moves
    have hrun := congrArg Prod.fst
      (Installation.Machine.run_recall r p u.calls ⟨phase, Leg.after base legs⟩ moves)
    rw [hafter hu]
    exact hrun
  constructor
  case replies =>
    intro legs
    rw [hs, ht, Leg.replies_recall, Leg.replies_recall]
  case calls =>
    intro legs
    rw [hafter hs, hafter ht]
    exact ⟨_, rfl, rfl⟩
  case objects =>
    intro legs
    rw [hafter hs, hafter ht]
    rfl
  case threads =>
    intro legs r p phase moves
    rw [hthreads hs, hthreads ht]

end DeferredMetrics
