import DeferredMetrics.Fault

set_option autoImplicit false

/-! # Factories

A factory is the code that makes a provider when the configuration asks for one. Here it is a list
of things it does first and the way in which it ends. It speaks of all objects by their names, which
mean what they mean when it runs. -/

namespace DeferredMetrics

/-- What provider to make. -/
inductive ProviderSpec where
  /-- One that keeps all it is asked for and given. -/
  | recording
  /-- One that discards everything. -/
  | noop
  /-- A deferred provider that belongs to no registration. -/
  | deferred
  /-- The deferred provider of a registration. -/
  | deferredOf (registration : String)
  /-- A provider that is there already. -/
  | existing (name : String)
  /-- A recording one that shows the calls it gets, looks at the registration `peek` when asked for
  a meter, and panics for the listed names. -/
  | probe (panicMeters panicInstruments : List (String × Payload)) (peek : Option String)
  /-- One that hands on to an OpenTelemetry SDK, which rejects the listed instruments. -/
  | sdk (reject : List (String × String))
deriving Inhabited

/-- The way in which a factory ends. -/
inductive Outcome where
  | panics (payload : Payload)
  /-- It fails with a reason and the causes of that reason. -/
  | fails (reason : String) (causes : List String)
  /-- It answers what a registry answers for `name`. -/
  | delegates (registry key name : String)
  | makes (spec : ProviderSpec)
deriving Inhabited

mutual

/-- A factory: what it does first, then how it ends. -/
inductive Factory where
  | mk (actions : List FactoryAction) (outcome : Outcome)

/-- One thing that a factory does. -/
inductive FactoryAction where
  /-- It registers a factory. -/
  | register (registry name : String) (factory : Factory)
  /-- It looks at the names of a registry. -/
  | names (registry : String)
  /-- It asks a registry for a provider and drops the answer. -/
  | ask (registry key name : String)
  /-- It offers a provider to a registration. -/
  | offer (registration provider : String)
  /-- It looks at the provider of a registration. -/
  | registered (registration : String)
  /-- It sets or removes a value of the configuration of a registration. -/
  | configure (registration key : String) (value : Option String)

end

namespace Factory

/-- A factory that ends at once. -/
def ofOutcome (outcome : Outcome) : Factory := .mk [] outcome

instance : Inhabited Factory := ⟨ofOutcome default⟩

/-- What the factory does before it ends. -/
def actions : Factory → List FactoryAction
  | .mk actions _ => actions

/-- How the factory ends. -/
def outcome : Factory → Outcome
  | .mk _ outcome => outcome

mutual

/-- How many factories the factory is made of, itself included. -/
def count : Factory → Nat
  | .mk actions _ => 1 + countActions actions

/-- How many factories a list of actions registers, those inside them included. -/
def countActions : List FactoryAction → Nat
  | [] => 0
  | .register _ _ factory :: actions => factory.count + countActions actions
  | _ :: actions => countActions actions

end

end Factory

end DeferredMetrics
