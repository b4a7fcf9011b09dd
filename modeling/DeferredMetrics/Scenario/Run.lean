import DeferredMetrics.Scenario.Perform

set_option autoImplicit false

/-! # Running a scenario

Each step answers a reply and whatever could be seen while it ran. A step that halts answers why,
and the scenario goes on with what the step left behind. -/

namespace DeferredMetrics

/-- A list of steps, and the world that they begin in. -/
structure Scenario where
  environment : Environment
  /-- There is a registration that belongs to the whole process. -/
  processWide : Bool
  steps : List Step

namespace Scenario

/-- The name of the registration that belongs to the whole process. -/
def processWideName : String := "global"

/-- A bound for the levels of discoveries inside discoveries. A deeper one would have met the same
factory twice with the same contents of all registries, and would never end. -/
def depthFor (factories : Nat) : Nat := Nat.pow (factories + 2) (factories + 2)

/-- The bound for the factories of a scenario. -/
def depth (s : Scenario) : Nat := depthFor ((s.steps.map Step.factories).foldr Nat.add 0)

/-- A step with an empty trace: the reply, what was seen, and the store that is left. -/
def step (depth : Nat) (processWide : Option RegistrationRef) (s : Store) (x : Step) :
    (Reply × List Event) × Store :=
  match Op.perform depth processWide x { s with trace := #[] } with
  | .ok reply s => ((reply, s.trace.toList), s)
  | .error halt s => ((.halted halt, s.trace.toList), s)

/-- The store that steps leave. -/
def after (depth : Nat) (processWide : Option RegistrationRef) (s : Store) (steps : List Step) :
    Store :=
  steps.foldl (fun s x => (step depth processWide s x).2) s

/-- The replies of steps from a store on. -/
def runFrom (depth : Nat) (processWide : Option RegistrationRef) :
    Store → List Step → List (Reply × List Event)
  | _, [] => []
  | s, x :: xs =>
      let (entry, s) := step depth processWide s x
      entry :: runFrom depth processWide s xs

@[simp] theorem length_runFrom (depth : Nat) (processWide : Option RegistrationRef) (s : Store)
    (steps : List Step) :
    (runFrom depth processWide s steps).length = steps.length := by
  induction steps generalizing s with
  | nil => rfl
  | cons x xs ih => simp [runFrom, ih]

/-- The store that a scenario begins with. -/
def start (s : Scenario) : Store :=
  let empty := Store.initial s.environment
  if s.processWide then
    (step 0 none empty (.registration processWideName none .environment none)).2
  else empty

/-- The registration that belongs to the whole process, if there is one. Its name may be taken over
by another one, which does not belong to the process then. -/
def registration? (s : Scenario) : Option RegistrationRef :=
  s.start.directory.registrations.get? processWideName

/-- The replies of a scenario, each with what was seen. -/
def run (s : Scenario) : List (Reply × List Event) :=
  runFrom s.depth s.registration? s.start s.steps

end Scenario

end DeferredMetrics
