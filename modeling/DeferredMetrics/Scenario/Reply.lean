import DeferredMetrics.Backend
import DeferredMetrics.Discovery.Error

set_option autoImplicit false

/-! # What the steps of a scenario answer -/

namespace DeferredMetrics

/-- A meter that a deferred provider issued, as it is seen from outside. -/
structure IssuedMeter where
  scope : Scope
  bound : Bool
  target : Option Scope
  instruments : List (Kind × Descriptor)
  outline : String
deriving Inhabited

/-- A deferred provider as it is seen from outside. -/
structure IssuedTree where
  bound : Bool
  target : Identity
  outline : String
  meters : List IssuedMeter
deriving Inhabited

/-- What became of providers that were offered at once. -/
structure RaceResult where
  wins : Nat
  /-- How many threads saw a provider afterwards. -/
  seen : Nat
  winnerMeters : Option Nat
  loserMeters : Nat
  /-- How many messages of each severity were logged. -/
  messages : List (Level × Nat)
deriving Inhabited

/-- What became of counters that were created while a provider was offered. -/
structure RaceCreateResult where
  won : Bool
  sum : Binary64
  meters : Nat
  created : Nat
deriving Inhabited

/-- The answer of a step. -/
inductive Reply where
  | nothing
  | flag (b : Bool)
  | count (n : Nat)
  | text (t : String)
  | names (names : List String)
  | identity (identity : Identity)
  | failed (error : DiscoveryError)
  | halted (halt : Halt)
  | registry (names : List String) (outline : String)
  | registration (key : String) (names : List String)
  | tree (tree : IssuedTree)
  | meter (scope : Scope) (issued : Bool)
  | scope (scope : Scope)
  | instrument (descriptor : Descriptor) (issued : Bool)
  | descriptor (descriptor : Descriptor)
  | bound (bound : Bool) (outline : String) (target : Option Descriptor)
  | batch (batch : Batch)
  | polled (batch : Batch) (outline : String)
  | race (result : RaceResult)
  | raceCreate (result : RaceCreateResult)
  | backend (meters : List MeterLog)
  | backendMeter (meter : MeterLog)
  | meterLog (meter : MeterLog)
  | events (events : List Recorded)
  | number (x : Binary64)
  | numbers (xs : List Binary64)
deriving Inhabited

end DeferredMetrics
