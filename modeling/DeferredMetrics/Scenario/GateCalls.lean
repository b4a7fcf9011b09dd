import DeferredMetrics.Fault
import DeferredMetrics.Gate.Threads

set_option autoImplicit false

/-! # Calling a gate

A gate is called with an action that counts its runs. The action may also look at the gate, or panic
after it has counted. -/

namespace DeferredMetrics

/-- A call on a gate. -/
inductive GateCall where
  /-- The action does nothing else. -/
  | run
  /-- The action looks at the gate. -/
  | peek
  /-- The gate is only shown. -/
  | outline
  /-- The action panics. -/
  | panic (payload : Payload)
  /-- As many threads call the gate at once. -/
  | race (threads : Nat)
deriving Inhabited

/-- What a call answers. -/
inductive GateReply where
  | ran (won : Bool)
  /-- Whether the action ran, and what it saw of the gate if it did. -/
  | peeked (won : Bool) (seen : Option Bool)
  | outline
  | panicked (payload : Payload)
  /-- How many threads had their action run. -/
  | winners (n : Nat)
deriving Inhabited

/-- A gate, how often an action has run, and what the last action that looked saw. -/
structure GateRun where
  gate : Gate
  runs : Nat
  seen : Option Bool
deriving DecidableEq, Inhabited

namespace GateRun

/-- A gate that nobody has called. -/
def start : GateRun := ⟨.ready, 0, none⟩

/-- The action of every call. -/
def count : EStateM Payload GateRun Unit := modify fun s => { s with runs := s.runs + 1 }

/-- Look at the gate. -/
def look : EStateM Payload GateRun Unit := modify fun s => { s with seen := some s.gate.fired }

/-- Call the gate. -/
def call (action : EStateM Payload GateRun Unit) : EStateM Payload GateRun Bool :=
  Gate.callOnce GateRun.gate (fun g s => { s with gate := g }) action

/-- The gate after threads called it at once, and how many of them had their action run. -/
def race (threads : Nat) : EStateM Payload GateRun Nat := do
  let m := Gate.race (← get).gate threads
  modify fun s => { s with gate := m.gate, runs := s.runs + m.completed.length }
  return m.winners threads

/-- Make a call. -/
def perform : GateCall → EStateM Payload GateRun GateReply
  | .run => do return .ran (← call count)
  | .peek => do
      modify fun s => { s with seen := none }
      let won ← call (do count; look)
      return .peeked won (← get).seen
  | .outline => return .outline
  | .panic payload => do return .ran (← call (do count; throw payload))
  | .race threads => do return .winners (← race threads)

/-- Make calls in turn: what each answers, with the gate as it is then. -/
def runFrom : GateRun → List GateCall → List (GateReply × GateRun)
  | _, [] => []
  | s, x :: xs =>
      match perform x s with
      | .ok reply s => (reply, s) :: runFrom s xs
      | .error payload s => (.panicked payload, s) :: runFrom s xs

/-- Make calls on a new gate. -/
def run (calls : List GateCall) : List (GateReply × GateRun) := runFrom start calls

end GateRun

end DeferredMetrics
