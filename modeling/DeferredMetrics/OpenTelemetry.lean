import DeferredMetrics.Instrument

set_option autoImplicit false

/-! # The vocabulary of OpenTelemetry

An OpenTelemetry SDK has values of its own for attributes, and a builder for each kind of
instrument. Attributes go over one by one, each value to the variant of its type. -/

namespace DeferredMetrics

/-- The value of an attribute as an SDK gets it. -/
inductive SdkValue where
  | string (t : String)
  | bool (b : Bool)
  | f64 (x : Binary64)
  | i64 (i : Int64)
deriving DecidableEq, Inhabited

/-- An attribute as an SDK gets it. -/
structure SdkAttribute where
  key : String
  value : SdkValue
deriving DecidableEq, Inhabited

/-- A value for an SDK. -/
def AttributeValue.toSdk : AttributeValue → SdkValue
  | .text t => .string t
  | .flag b => .bool b
  | .number x => .f64 x
  | .integer i => .i64 i

/-- An attribute for an SDK. -/
def Attribute.toSdk (a : Attribute) : SdkAttribute := ⟨a.key, a.value.toSdk⟩

/-- Attributes for an SDK. -/
def AttributeSet.toSdk (s : AttributeSet) : List SdkAttribute := s.entries.map Attribute.toSdk

/-- The builder of an SDK that makes instruments of a kind. Counts are unsigned, changes signed, and
everything else is floating point. -/
def Kind.sdkBuilder : Kind → String
  | .counter => "u64_counter"
  | .upDownCounter => "i64_up_down_counter"
  | .histogram => "f64_histogram"
  | .observableCounter => "f64_observable_counter"
  | .observableGauge => "f64_observable_gauge"
  | .observableUpDownCounter => "f64_observable_up_down_counter"

/-- A builder makes instruments of one kind only. -/
theorem Kind.sdkBuilder_injective {j k : Kind} (h : j.sdkBuilder = k.sdkBuilder) : j = k := by
  cases j <;> cases k <;> first | rfl | exact absurd h (by decide)

theorem AttributeValue.toSdk_injective {v w : AttributeValue} (h : v.toSdk = w.toSdk) : v = w := by
  cases v <;> cases w <;> simp_all [AttributeValue.toSdk]

@[simp] theorem AttributeSet.length_toSdk (s : AttributeSet) : s.toSdk.length = s.size := by
  simp [AttributeSet.toSdk, AttributeSet.size]

end DeferredMetrics
