import DeferredMetrics.Binding

set_option autoImplicit false

/-! # Registrations

A registration takes at most one provider, through its gate: the provider is written down,
everything issued before is bound to it, and then the gate has fired. A caller that offers a
provider too late is told so by the answer and by a warning; a provider that discovery offers too
late is dropped in silence. -/

namespace DeferredMetrics

namespace Store

/-- The gate of a registration. -/
def gate (s : Store) (r : RegistrationRef) : Gate := (s.registration r).gate

/-- The store with another gate in a registration. -/
def withGate (r : RegistrationRef) (g : Gate) (s : Store) : Store :=
  s.updateRegistration r fun o => { o with gate := g }

/-- The store in which a registration has the provider `p`. -/
def writeProvider (s : Store) (r : RegistrationRef) (p : ProviderRef) : Store :=
  s.updateRegistration r fun o => { o with provider := some p }

end Store

namespace Op

/-- What happens when a provider takes effect. -/
def takeEffect (r : RegistrationRef) (p : ProviderRef) (discovered : Bool) : Op Unit := do
  modify fun s => s.writeProvider r p
  bindProvider ((← get).registration r).deferred p
  log (.installed discovered)

/-- Offer a provider that a caller or discovery has; the answer is whether it took effect. -/
def install (r : RegistrationRef) (p : ProviderRef) (discovered : Bool) : Op Bool := do
  let installed ← Gate.callOnce (fun s => s.gate r) (Store.withGate r) (takeEffect r p discovered)
  if !installed && !discovered then
    log .refused
  return installed

/-- Offer a provider; the answer is whether it took effect. -/
def setProvider (r : RegistrationRef) (p : ProviderRef) : Op Bool := install r p false

/-- The provider that took effect. -/
def registered (r : RegistrationRef) : Op (Option ProviderRef) := do
  return ((← get).registration r).provider

/-- Make a registration with a deferred provider of its own. -/
def makeRegistration (discovery : Discovery) : Op RegistrationRef := do
  let deferred ← makeProvider .freshDeferred
  let r := (← get).registrations.next
  modify fun s => s.addRegistration ⟨none, .ready, deferred, discovery⟩
  return r

end Op

end DeferredMetrics
