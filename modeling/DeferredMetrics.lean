import DeferredMetrics.Attribute
import DeferredMetrics.Backend
import DeferredMetrics.Binary64
import DeferredMetrics.Binding
import DeferredMetrics.Discovery.Error
import DeferredMetrics.Discovery.Factory
import DeferredMetrics.Discovery.Resolve
import DeferredMetrics.Environment
import DeferredMetrics.Event
import DeferredMetrics.Fault
import DeferredMetrics.Gate
import DeferredMetrics.Gate.Threads
import DeferredMetrics.Instrument
import DeferredMetrics.Issue
import DeferredMetrics.Observations
import DeferredMetrics.OpenTelemetry
import DeferredMetrics.Registration
import DeferredMetrics.Registration.Threads
import DeferredMetrics.Roster
import DeferredMetrics.Samples
import DeferredMetrics.Scenario.AttributeSteps
import DeferredMetrics.Scenario.GateCalls
import DeferredMetrics.Scenario.Names
import DeferredMetrics.Scenario.Perform
import DeferredMetrics.Scenario.Races
import DeferredMetrics.Scenario.Reply
import DeferredMetrics.Scenario.Run
import DeferredMetrics.Scenario.Step
import DeferredMetrics.Scope
import DeferredMetrics.Store.Basic
import DeferredMetrics.Store.Calls
import DeferredMetrics.Store.Chain
import DeferredMetrics.Store.Naming
import DeferredMetrics.Store.Objects
import DeferredMetrics.Store.Outlines
import DeferredMetrics.Store.Table
import DeferredMetrics.Text.Blank
import DeferredMetrics.Text.Outline
import DeferredMetrics.Text.Printable
import DeferredMetrics.Text.Quoted
import DeferredMetrics.Text.Utf8
import DeferredMetrics.Proofs.Chains
import DeferredMetrics.Proofs.Looking
import DeferredMetrics.Proofs.Running
import DeferredMetrics.Proofs.Requests
import DeferredMetrics.Proofs.Trials
import DeferredMetrics.Proofs.Exchanges
import DeferredMetrics.Proofs.InstrumentTrials
import DeferredMetrics.Proofs.Aside
import DeferredMetrics.Proofs.MeterTrials
import DeferredMetrics.Proofs.Upgrade
import DeferredMetrics.Proofs.Later
import DeferredMetrics.Proofs.Sound
import DeferredMetrics.Proofs.SoundSteps
import DeferredMetrics.Proofs.SoundBinding
import DeferredMetrics.Proofs.Deeds
import DeferredMetrics.Proofs.Install
import DeferredMetrics.Proofs.Discovering
import DeferredMetrics.Proofs.Performing
import DeferredMetrics.Proofs.Doing
import DeferredMetrics.Proofs.Asked
import DeferredMetrics.Proofs.Rebinding
import DeferredMetrics.Proofs.Agreement
import DeferredMetrics.Proofs.Decisions
import DeferredMetrics.Proofs.Depicts
import DeferredMetrics.Proofs.Mirrors
import DeferredMetrics.Proofs.Asking
import DeferredMetrics.Proofs.Live
import DeferredMetrics.Proofs.Waiting
import DeferredMetrics.Proofs.Handover
import DeferredMetrics.Proofs.Independence
import DeferredMetrics.Proofs.Passing
import DeferredMetrics.Proofs.Giving
import DeferredMetrics.Proofs.Issuing
import DeferredMetrics.Proofs.Tallies
import DeferredMetrics.Proofs.WriteOnce
import DeferredMetrics.Proofs.Books
import DeferredMetrics.Proofs.Lines
import DeferredMetrics.Proofs.Lineage
import DeferredMetrics.Proofs.LineageSteps
import DeferredMetrics.Proofs.Using
import DeferredMetrics.Proofs.Beside
import DeferredMetrics.Proofs.Connected
import DeferredMetrics.Proofs.Publication
import DeferredMetrics.Proofs.Registering
import DeferredMetrics.Proofs.Family
import DeferredMetrics.Proofs.Composition
import DeferredMetrics.Proofs.Wiring
import DeferredMetrics.Proofs.Streaming
import DeferredMetrics.Proofs.Mute
import DeferredMetrics.Proofs.Inert
import DeferredMetrics.Proofs.Unregistered
import DeferredMetrics.Proofs.Orders
import DeferredMetrics.Proofs.Delivering
import DeferredMetrics.Proofs.Collecting
import DeferredMetrics.Proofs.Bridge
import DeferredMetrics.Proofs.Carrying
import DeferredMetrics.Proofs.Undecided
import DeferredMetrics.Proofs.Messages
import DeferredMetrics.Proofs.Reporting
import DeferredMetrics.Proofs.Traits
import DeferredMetrics.Proofs.StepTraits
import DeferredMetrics.Proofs.Forgetting
import DeferredMetrics.Proofs.Mutexes
import DeferredMetrics.Proofs.Panicking
import DeferredMetrics.Proofs.ByteOrder
import DeferredMetrics.Proofs.Chronicle
import DeferredMetrics.Proofs.Remembering
import DeferredMetrics.Proofs.Reading
import DeferredMetrics.Proofs.Settling
import DeferredMetrics.Proofs.Obtaining
import DeferredMetrics.Proofs.Attributes
import DeferredMetrics.Proofs.Selecting
import DeferredMetrics.Proofs.Delegation
import DeferredMetrics.Proofs.Exhausting
import DeferredMetrics.Proofs.Telling
import DeferredMetrics.Proofs.Orderly
import DeferredMetrics.Proofs.Midway
import DeferredMetrics.Proofs.Courses
