import DeferredMetrics.Registration.Threads
import DeferredMetrics.Scenario.Names

set_option autoImplicit false

/-! # Races

Threads that offer providers at once pass the gate one after the other. Threads that create
instruments while a provider is offered take their steps in turn with the installation. Nothing of a
race is shown but its result, and the result does not hang on the order. -/

namespace DeferredMetrics

namespace RaceResult

/-- How many messages of the level are among the events. -/
def countLevel (events : List Event) (level : Level) : Nat :=
  events.countP fun e =>
    match e with
    | .log m => decide (m.level = level)
    | _ => false

/-- The levels that occur, with the number of messages. -/
def messagesIn (events : List Event) : List (Level × Nat) :=
  ([.debug, .warn, .error].map fun l => (l, countLevel events l)).filter fun e => e.2 != 0

end RaceResult

namespace Op

/-- Do something `n` times. -/
def repeatedly (op : Op Unit) : Nat → Op Unit
  | 0 => return ()
  | n + 1 => do
      op
      repeatedly op n

/-- Do something `n` times and keep the answers. -/
def times {α : Type} (op : Op α) : Nat → Op (List α)
  | 0 => return []
  | n + 1 => do
      let x ← op
      return x :: (← times op n)

/-- Do something unseen; the answer comes with what would have been seen. -/
def unseen {α : Type} (op : Op α) : Op (α × List Event) := do
  let before := (← get).trace
  modify fun s => { s with trace := #[] }
  let x ← op
  let hidden := (← get).trace.toList
  modify fun s => { s with trace := before }
  return (x, hidden)

/-- One thread offers a recording provider: the provider, whether it took effect, and whether the
thread sees a provider then. -/
def offerRecording (o : RegistrationRef) : Op (ProviderRef × Bool × Bool) := do
  let p ← makeProvider (.freshRecording none)
  let won ← setProvider o p
  return (p, won, (← registered o).isSome)

/-- Threads that each offer a recording provider. -/
def race (registration : String) (threads : Nat) (winner : String) : Op Reply := do
  let o ← named Directory.registrations registration
  let (offers, hidden) ← unseen (times (offerRecording o) threads)
  let won := offers.find? fun offer => offer.2.1
  if let some offer := won then
    modify fun s => s.nameProvider winner offer.1
  let s ← get
  let lost := offers.filter fun offer => !offer.2.1
  return .race
    { wins := offers.countP fun offer => offer.2.1
      seen := offers.countP fun offer => offer.2.2
      winnerMeters := won.map fun offer => (s.provider offer.1).meters.length
      loserMeters := (lost.map fun offer => (s.provider offer.1).meters.length).foldr Nat.add 0
      messages := RaceResult.messagesIn hidden }

/-- The name of the counters that threads create while a provider is offered. -/
def racedName : String := "raced"

/-- Threads that each create a counter while a provider is offered, and increment it then. -/
def raceCreate (registration meter : String) (threads : Nat) (provider : String) : Op Reply := do
  let o ← named Directory.registrations registration
  let m ← meterNamed meter
  let p ← providerNamed provider
  let (won, _) ← unseen do
    let s ← get
    let (counters, machine) := Installation.createBeside o p m
      ⟨.counter, .named racedName, none⟩ (Installation.turns s threads) threads ⟨.before, s⟩
    set machine.store
    counters.forM fun i => record i (.count 1) .empty
    return decide (machine.phase = .ended true)
  let s ← get
  return .raceCreate
    { won := won
      sum := s.sum p racedName
      meters := (s.backend p).length
      created := ((s.backend p).map fun l => l.created.length).foldr Nat.add 0 }

end Op

end DeferredMetrics
