set_option autoImplicit false

/-! # The one-time gate

A gate lets one action through. A call on a gate that has fired does nothing and answers `false`; a
call on one that has not runs its action, fires the gate and answers `true`. An action that does not
end normally leaves the gate as it was, so that a later call can try again. -/

namespace DeferredMetrics

/-- A gate by whether it has fired. -/
structure Gate where
  fired : Bool
deriving DecidableEq, Inhabited

namespace Gate

/-- A gate that no action has passed. -/
def ready : Gate := ⟨false⟩

/-- A gate that an action has passed. -/
def passed : Gate := ⟨true⟩

/-- Run `action` unless the gate that `read` shows has fired; once the action is done, `write` the
fired gate. The answer is whether the action ran. -/
def callOnce {ε σ : Type} (read : σ → Gate) (write : Gate → σ → σ) (action : EStateM ε σ Unit) :
    EStateM ε σ Bool := fun s =>
  if (read s).fired then .ok false s
  else
    match action s with
    | .ok _ s => .ok true (write passed s)
    | .error e s => .error e s

section Laws

variable {ε σ : Type} {read : σ → Gate} {write : Gate → σ → σ} {action : EStateM ε σ Unit} {s : σ}

/-- A gate that has fired lets nothing through. -/
theorem callOnce_of_fired (h : (read s).fired = true) :
    callOnce read write action s = .ok false s := by
  simp [callOnce, h]

/-- A gate that has not fired runs the action and fires when the action is done. -/
theorem callOnce_of_ok {s' : σ} (h : (read s).fired = false) (ha : action s = .ok () s') :
    callOnce read write action s = .ok true (write passed s') := by
  simp [callOnce, h, ha]

/-- An action that does not end normally leaves the gate unfired. -/
theorem callOnce_of_error {e : ε} {s' : σ} (h : (read s).fired = false)
    (ha : action s = .error e s') : callOnce read write action s = .error e s' := by
  simp [callOnce, h, ha]

end Laws

end Gate

end DeferredMetrics
