import DeferredMetrics.Store.Objects

set_option autoImplicit false

/-! # The steps of a scenario

A scenario is a list of steps. A step speaks of objects by name; a step that makes an object or gets
one names it, and a later object of the same name takes the name over. -/

namespace DeferredMetrics

/-- A registry, by its own name or as the one that a registration discovers with. -/
inductive RegistryName where
  | own (name : String)
  | ofRegistration (registration : String)
deriving DecidableEq, Inhabited

/-- A deferred provider, by its own name or as the one that a registration owns. -/
inductive DeferredName where
  | own (provider : String)
  | ofRegistration (registration : String)
deriving DecidableEq, Inhabited

/-- Where a new registration reads its configuration. -/
inductive SourceSpec where
  | settings (values : List (String × String))
  | environment
deriving Inhabited

/-- The ways in which a callback goes through its answers. -/
inductive CallbackKind where
  /-- Over and over, shown, with samples that it adds. -/
  | function
  /-- Once, shown. -/
  | generator
  /-- Once, not shown. -/
  | list
deriving DecidableEq, Inhabited

/-- One step of a scenario. -/
inductive Step where
  | provider (id : String) (spec : ProviderSpec)
  /-- A new registry, with the factory of discarding providers or without it. -/
  | registry (id : String) (withNoop : Bool)
  | register (registry : RegistryName) (name : String) (factory : Factory)
  | names (registry : RegistryName)
  | contains (registry : RegistryName) (name : String)
  | instantiate (registry : RegistryName) (key name : String)
  | outlineRegistry (registry : RegistryName)
  | registration (id : String) (key : Option String) (source : SourceSpec)
      (registry : Option String)
  | configure (registration key : String) (value : Option String)
  | resolve (registration : String)
  | getProvider (registration : String)
  | setProvider (registration provider : String)
  | registered (registration : String)
  | outline (registration : String)
  | outlineDiscovery (registration : String)
  /-- Look at a deferred provider and everything below it. -/
  | tree (provider : DeferredName)
  | getMeter (registration id : String) (scope : Scope)
  | meter (provider id : String) (scope : Scope)
  | noopMeter (id : String) (scope : Scope)
  | recordingMeter (id : String) (scope : Scope)
  /-- Name a meter that a deferred provider issued. -/
  | issuedMeter (provider : DeferredName) (index : Nat) (id : String)
  /-- Name the target of a meter that a deferred provider issued. -/
  | meterTarget (provider : DeferredName) (index : Nat) (id : String)
  | scope (meter : String)
  | create (meter id : String) (kind : Kind) (descriptor : Descriptor) (callback : Option String)
  | add (instrument : String) (value : Int) (attributes : AttributeSet)
  | increment (instrument : String) (attributes : AttributeSet)
  | record (instrument : String) (value : Binary64) (attributes : AttributeSet)
  | observe (instrument : String)
  | descriptor (instrument : String)
  | bound (instrument : String)
  /-- Name the target of a deferred instrument. -/
  | instrumentTarget (instrument id : String)
  | callback (id : String) (kind : CallbackKind) (answers : List Feed) (additions : List Addition)
  | poll (callback : String)
  | polls (callback : String)
  /-- As many threads add the value as many times each. -/
  | parallelAdd (instrument : String) (threads times : Nat) (value : Int)
  /-- As many threads each offer a recording provider at once. -/
  | race (registration : String) (threads : Nat) (winner : String)
  /-- As many threads each create a counter while a provider is offered, and increment it then. -/
  | raceCreate (registration meter : String) (threads : Nat) (provider : String)
  | backend (provider : String)
  | events (provider : String)
  | sum (provider name : String)
  | meterSums (provider name : String)
  | meterNamed (provider name : String)
  | meterLog (meter : String)
  | meterSum (meter name : String)
  | collect (provider : String)
deriving Inhabited

namespace Step

/-- How many factories the step speaks of. -/
def factories : Step → Nat
  | .register _ _ factory => factory.count
  | _ => 0

end Step

end DeferredMetrics
