set_option autoImplicit false

/-! # How an operation can end without an answer

Code that the library calls (a backend, a callback, a factory) may panic with a payload. An
operation may also wait for itself: it follows handles around a circle, or a factory asks for itself
without end. And an operation may speak of an object that nothing is named after. -/

namespace DeferredMetrics

/-- What a panic carries: a text, or something that is no text. -/
inductive Payload where
  | text (t : String)
  | other
deriving DecidableEq, Inhabited

namespace Payload

/-- The text of the payload, with a fixed text for payloads that have none. -/
def reason : Payload → String
  | .text t => t
  | .other => "<non-string panic payload>"

end Payload

/-- Why an operation has no answer. -/
inductive Halt where
  /-- Code that the library called has panicked. -/
  | panic (payload : Payload)
  /-- The operation waits for itself and never ends. -/
  | waiting
  /-- Nothing of the wanted sort is named `name`. -/
  | unnamed (name : String)
deriving DecidableEq, Inhabited

end DeferredMetrics
