import DeferredMetrics.Gate

set_option autoImplicit false

/-! # Threads at a gate

Several threads call one gate. A call looks at the gate, waits for the lock, looks again, runs its
action, fires the gate and gives the lock back; a call that finds the gate fired at either look
answers `false`. One step of one thread is atomic, an action takes as many steps as its plan says,
and it may panic at its end: then the thread gives the lock back without firing the gate. A
schedule is the list of the threads that take the steps. -/

namespace DeferredMetrics

namespace Gate

/-- What the action of a thread does: how many steps it takes, and whether it panics after them. -/
structure Plan where
  steps : Nat
  panics : Bool
deriving DecidableEq, Inhabited

/-- Where a thread is in its call. -/
inductive Stage where
  /-- It has not looked at the gate. -/
  | start
  /-- It has seen that the gate is not fired, and waits for the lock. -/
  | waiting
  /-- It has the lock, and has not looked again. -/
  | entered
  /-- Its action is under way, with some steps to come. -/
  | acting (left : Nat)
  /-- Its action is done, and the gate not fired yet. -/
  | acted
  /-- It has fired the gate, and has the lock still. -/
  | firing
  /-- It has seen that the gate is fired, and has the lock still. -/
  | late
  /-- Its action has panicked, and it has the lock still. -/
  | failing
  | returned (answer : Bool)
  | panicked
deriving DecidableEq, Inhabited

namespace Stage

/-- The thread has the lock. -/
def holdsLock : Stage → Bool
  | .entered | .acting _ | .acted | .firing | .late | .failing => true
  | .start | .waiting | .returned _ | .panicked => false

/-- The call of the thread is over. -/
def isOver : Stage → Bool
  | .returned _ | .panicked => true
  | _ => false

end Stage

/-- A gate with its lock and the threads that call it. -/
structure Machine where
  gate : Gate
  /-- The thread that has the lock. -/
  lock : Option Nat
  stage : Nat → Stage
  /-- The threads whose actions were done, the latest first. -/
  completed : List Nat

namespace Machine

/-- A gate that no thread has called yet. -/
def initial (gate : Gate) : Machine := ⟨gate, none, fun _ => .start, []⟩

/-- The machine with a thread at another stage. -/
def setStage (m : Machine) (t : Nat) (stage : Stage) : Machine :=
  { m with stage := fun u => if u = t then stage else m.stage u }

/-- The machine in which a thread gives the lock back and its call is over. -/
def leave (m : Machine) (t : Nat) (stage : Stage) : Machine :=
  { m.setStage t stage with lock := none }

/-- One step of the thread `t`. A thread that waits for a taken lock, or whose call is over, does
nothing. -/
def step (plan : Nat → Plan) (m : Machine) (t : Nat) : Machine :=
  match m.stage t with
  | .start => m.setStage t (if m.gate.fired then .returned false else .waiting)
  | .waiting =>
      if m.lock.isNone then { m.setStage t .entered with lock := some t } else m
  | .entered => m.setStage t (if m.gate.fired then .late else .acting (plan t).steps)
  | .acting (left + 1) => m.setStage t (.acting left)
  | .acting 0 =>
      if (plan t).panics then m.setStage t .failing
      else { m.setStage t .acted with completed := t :: m.completed }
  | .acted => { m.setStage t .firing with gate := passed }
  | .firing => m.leave t (.returned true)
  | .late => m.leave t (.returned false)
  | .failing => m.leave t .panicked
  | .returned _ => m
  | .panicked => m

/-- The steps of a schedule. -/
def run (plan : Nat → Plan) (m : Machine) (schedule : List Nat) : Machine :=
  schedule.foldl (step plan) m

@[simp] theorem stage_setStage_self (m : Machine) (t : Nat) (stage : Stage) :
    (m.setStage t stage).stage t = stage := by
  simp [setStage]

theorem stage_setStage_of_ne (m : Machine) {t u : Nat} (stage : Stage) (h : u ≠ t) :
    (m.setStage t stage).stage u = m.stage u := by
  simp [setStage, h]

@[simp] theorem run_nil (plan : Nat → Plan) (m : Machine) : m.run plan [] = m := rfl

@[simp] theorem run_cons (plan : Nat → Plan) (m : Machine) (t : Nat) (schedule : List Nat) :
    m.run plan (t :: schedule) = (m.step plan t).run plan schedule := rfl

theorem run_append (plan : Nat → Plan) (m : Machine) (before after : List Nat) :
    m.run plan (before ++ after) = (m.run plan before).run plan after :=
  List.foldl_append

end Machine

/-! ## A race

As many threads call the gate at once, each with an action of one step: all of them look at the gate
before any goes on, and then one after the other takes the steps that are left to it. -/

/-- The plan of every thread of a race. -/
def racePlan : Nat → Plan := fun _ => ⟨1, false⟩

/-- The schedule of a race. After its first look a thread has six steps left if its action runs, and
fewer if it finds the gate fired. -/
def raceSchedule (threads : Nat) : List Nat :=
  List.range threads ++ (List.range threads).flatMap (List.replicate 6)

/-- The machine after a race. -/
def race (gate : Gate) (threads : Nat) : Machine :=
  (Machine.initial gate).run racePlan (raceSchedule threads)

namespace Machine

/-- How many of the first threads have answered `true`. -/
def winners (m : Machine) (threads : Nat) : Nat :=
  (List.range threads).countP fun t => decide (m.stage t = .returned true)

end Machine

end Gate

end DeferredMetrics
