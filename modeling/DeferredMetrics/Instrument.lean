import DeferredMetrics.Attribute

set_option autoImplicit false

/-! # Instruments as callers describe them

Six kinds of instrument, the descriptor a caller gives when it asks for one, what a caller hands to
an instrument (`Sample`) and what an observable instrument hands back (`Batch`). -/

namespace DeferredMetrics

/-- The kind of an instrument: three are recorded to, three are observed. -/
inductive Kind where
  | counter
  | upDownCounter
  | histogram
  | observableCounter
  | observableGauge
  | observableUpDownCounter
deriving DecidableEq, Inhabited

namespace Kind

/-- All kinds, the recorded ones first. -/
def all : List Kind :=
  [.counter, .upDownCounter, .histogram, .observableCounter, .observableGauge,
    .observableUpDownCounter]

/-- The name of the kind. -/
def name : Kind → String
  | .counter => "counter"
  | .upDownCounter => "up_down_counter"
  | .histogram => "histogram"
  | .observableCounter => "observable_counter"
  | .observableGauge => "observable_gauge"
  | .observableUpDownCounter => "observable_up_down_counter"

/-- The values of the instrument are asked for through a callback. -/
def isObservable : Kind → Bool
  | .counter | .upDownCounter | .histogram => false
  | .observableCounter | .observableGauge | .observableUpDownCounter => true

/-- The kind with the given name. -/
def ofName? (s : String) : Option Kind := all.find? fun k => k.name == s

theorem mem_all (k : Kind) : k ∈ all := by cases k <;> decide

theorem name_injective {j k : Kind} (h : j.name = k.name) : j = k := by
  cases j <;> cases k <;> first | rfl | exact absurd h (by decide)

end Kind

/-- What a caller says about an instrument: its name, its unit and a description. -/
structure Descriptor where
  name : String
  unit : String
  description : String
deriving DecidableEq, Inhabited

namespace Descriptor

/-- A descriptor with a name and nothing else. -/
def named (name : String) : Descriptor := ⟨name, "", ""⟩

/-- The descriptor with another unit. -/
def withUnit (d : Descriptor) (unit : String) : Descriptor := { d with unit }

/-- The descriptor with another description. -/
def withDescription (d : Descriptor) (description : String) : Descriptor := { d with description }

end Descriptor

/-- One value from one observation, with its attributes. -/
structure Measurement where
  value : Binary64
  attributes : AttributeSet
deriving DecidableEq, Inhabited

namespace Measurement

/-- A measurement without attributes. -/
def bare (value : Binary64) : Measurement := ⟨value, .empty⟩

/-- Values and attributes agree. -/
def agrees (m n : Measurement) : Bool :=
  m.value.agrees n.value && m.attributes.agrees n.attributes

end Measurement

/-- What one observation yields. -/
abbrev Batch := List Measurement

/-- What a caller hands to a recorded instrument. -/
inductive Sample where
  /-- An increment of a counter. -/
  | count (n : UInt64)
  /-- A change of an up-down counter. -/
  | delta (i : Int64)
  /-- A value of a histogram. -/
  | value (x : Binary64)
deriving DecidableEq, Inhabited

namespace Sample

/-- The sample as a floating-point number, rounded to nearest where it is an integer. -/
def toBinary64 : Sample → Binary64
  | .count n => .ofNat n.toNat
  | .delta i => .ofInt i.toInt
  | .value x => x

end Sample

end DeferredMetrics
