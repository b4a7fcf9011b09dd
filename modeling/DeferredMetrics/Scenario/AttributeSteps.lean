import DeferredMetrics.Attribute
import DeferredMetrics.Roster

set_option autoImplicit false

/-! # Working on named attribute sets

A step takes one named set out of the roster, works on it with the other sets at hand, and puts the
result back under its name. A name that was not used yet has the empty set. -/

namespace DeferredMetrics

/-- What a step does with its set. -/
inductive AttributeAction where
  | clear
  /-- Replace the set by the attributes of a list. -/
  | ofList (entries : List Attribute)
  | extend (entries : List Attribute)
  /-- Extend the set by another one, which may be the set itself. -/
  | extendBy (other : String)
  | push (key : String) (value : AttributeValue)
  /-- Replace the set by another one, which may be the set itself. -/
  | copy (other : String)
  | get (key : String)
  /-- Compare the set with another one. -/
  | compare (other : String)

/-- A step: the set that it works on, and what it does with it. -/
structure AttributeStep where
  set : String
  action : AttributeAction

/-- The answer of a step, beside the set that it leaves. -/
inductive AttributeReply where
  | nothing
  | value (v : AttributeValue)
  | flag (b : Bool)

namespace AttributeAction

/-- What the action makes of a set. -/
def apply (others : Roster AttributeSet) (name : String) (s : AttributeSet) :
    AttributeAction → AttributeSet
  | .clear => .empty
  | .ofList entries => .ofList entries
  | .extend entries => s.extend entries
  | .extendBy other =>
      if other = name then s.extend s.entries
      else s.extend ((others.get? other).getD .empty).entries
  | .push key value => s.push key value
  | .copy other => if other = name then s else (others.get? other).getD .empty
  | .get _ => s
  | .compare _ => s

/-- What the action answers. -/
def reply (others : Roster AttributeSet) (s : AttributeSet) : AttributeAction → AttributeReply
  | .get key =>
      match s.get? key with
      | some v => .value v
      | none => .nothing
  | .compare other =>
      match others.get? other with
      | some t => .flag (s.agrees t)
      | none => .nothing
  | _ => .nothing

end AttributeAction

namespace AttributeStep

/-- Do one step: its answer, the set that it leaves, and all sets afterwards. -/
def perform (sets : Roster AttributeSet) (x : AttributeStep) :
    (AttributeReply × AttributeSet) × Roster AttributeSet :=
  let s := (sets.get? x.set).getD .empty
  let others := sets.erase x.set
  let result := x.action.apply others x.set s
  ((x.action.reply others s, result), others.insert x.set result)

/-- The answers of steps from some sets on, each with the set that its step leaves. -/
def runFrom : Roster AttributeSet → List AttributeStep → List (AttributeReply × AttributeSet)
  | _, [] => []
  | sets, x :: xs =>
      let (entry, sets) := perform sets x
      entry :: runFrom sets xs

/-- The answers of steps on sets that have no name yet. -/
def run (steps : List AttributeStep) : List (AttributeReply × AttributeSet) :=
  runFrom .empty steps

end AttributeStep

end DeferredMetrics
