import DeferredMetrics.OpenTelemetry
import DeferredMetrics.Scope
import DeferredMetrics.Store.Table

set_option autoImplicit false

/-! # Events

What can be seen of a run from outside: the messages that the library logs, and the calls that it
makes to code that is not its own (configurations, factories, callbacks, backends). -/

namespace DeferredMetrics

/-- How a provider is shown: by the registration whose deferred provider it is, or by a name. -/
inductive Identity where
  /-- There is no provider. -/
  | absent
  /-- The deferred provider of the named registration. -/
  | deferredOf (registration : String)
  /-- A named provider; `fresh` if it got its name just now. -/
  | named (provider : String) (fresh : Bool)
deriving DecidableEq, Inhabited

/-- Severity of a message. -/
inductive Level where
  | debug
  | warn
  | error
deriving DecidableEq, Inhabited

/-- The severity in capitals. -/
def Level.name : Level → String
  | .debug => "DEBUG"
  | .warn => "WARN"
  | .error => "ERROR"

/-- What a child of a deferred node is. -/
inductive ChildKind where
  | meter
  | instrument
deriving DecidableEq, Inhabited

/-- The word for a child in a message. -/
def ChildKind.name : ChildKind → String
  | .meter => "meter"
  | .instrument => "instrument"

/-- A message of the library. -/
inductive Message where
  /-- A provider took effect, by discovery or because a caller offered it. -/
  | installed (discovered : Bool)
  /-- A caller offered a provider to a registration that has one. -/
  | refused
  /-- A deferred provider got its target; of `total` meters `rebound` got one too. -/
  | providerBound (rebound total : Nat)
  /-- A deferred meter got its target; of `total` instruments `rebound` got one too. -/
  | meterBound (meter : String) (rebound total : Nat)
  /-- A child got no target because the backend panicked. -/
  | childFailed (child : ChildKind) (name reason : String)
  /-- A factory was registered under a name that had one. -/
  | factoryReplaced (name : String)
  /-- A target was offered to a deferred provider that has one. -/
  | providerAlreadyBound
  /-- A target was offered to a deferred meter that has one. -/
  | meterAlreadyBound (meter : String)
  /-- A target was offered to a deferred instrument that has one. -/
  | instrumentAlreadyBound (instrument : String)
  /-- A target was offered to a deferred observable instrument that has one. -/
  | observableAlreadyBound (instrument : String)
deriving DecidableEq, Inhabited

/-- The value of a field of a message. -/
inductive FieldValue where
  | text (t : String)
  | flag (b : Bool)
  | count (n : Nat)
deriving DecidableEq, Inhabited

namespace Message

/-- The severity of the message. -/
def level : Message → Level
  | .refused => .warn
  | .childFailed .. => .error
  | _ => .debug

/-- The text of the message. -/
def text : Message → String
  | .installed _ => "MeterProvider installed"
  | .refused => "不允许覆盖已注册的 MeterProvider，本次注册被忽略"
  | .providerBound .. => "proxy provider upgraded"
  | .meterBound .. => "proxy meter upgraded"
  | .childFailed .. => "代理升级时子节点重绑定失败，已跳过"
  | .factoryReplaced _ => "MeterProvider factory replaced"
  | .providerAlreadyBound => "proxy provider already upgraded, ignoring"
  | .meterAlreadyBound _ => "proxy meter already upgraded"
  | .instrumentAlreadyBound _ => "proxy instrument already bound, keeping the first target"
  | .observableAlreadyBound _ => "proxy observable already bound, keeping the first target"

/-- The fields of the message by name. -/
def fields : Message → List (String × FieldValue)
  | .installed discovered => [("auto_resolved", .flag discovered)]
  | .refused => []
  | .providerBound rebound total => [("rebound", .count rebound), ("total", .count total)]
  | .meterBound meter rebound total =>
      [("meter", .text meter), ("rebound", .count rebound), ("total", .count total)]
  | .childFailed child name reason =>
      [("node", .text child.name), ("name", .text name), ("reason", .text reason)]
  | .factoryReplaced name => [("provider", .text name)]
  | .providerAlreadyBound => []
  | .meterAlreadyBound meter => [("meter", .text meter)]
  | .instrumentAlreadyBound instrument => [("instrument", .text instrument)]
  | .observableAlreadyBound instrument => [("instrument", .text instrument)]

end Message

/-- One thing that can be seen of a run. -/
inductive Event where
  | log (message : Message)
  /-- A configuration was asked for the value of `key`. -/
  | lookup (key : String)
  /-- The factory `name` began. -/
  | factory (name : String)
  /-- A factory looked at the names of a registry. -/
  | names (names : List String)
  /-- A factory offered a provider, with this answer. -/
  | offered (taken : Bool)
  /-- A factory looked at the provider of a registration. -/
  | registered (provider : Identity)
  /-- The probe `probe` was asked for a meter. -/
  | meterAsked (probe : String) (scope : Scope)
  /-- A probe looked at the provider of a registration. -/
  | peeked (provider : Identity)
  /-- A meter of the probe `probe` was asked for an instrument. -/
  | instrumentAsked (probe : String) (kind : Kind) (descriptor : Descriptor)
  /-- The callback `callback` was asked for the `n`-th time, from zero. -/
  | polled (callback : String) (n : Nat)
  /-- The OpenTelemetry SDK `sdk` was asked for a meter. -/
  | sdkMeter (sdk : String) (scope : Scope)
  /-- A builder of the OpenTelemetry SDK `sdk` was asked for an instrument, with a callback or
  without one. -/
  | sdkInstrument (sdk builder : String) (descriptor : Descriptor) (callback : Bool)
  /-- The instrument `instrument` of an SDK, which has the name `name`, received a sample. -/
  | sdkSample (instrument : InstrumentRef) (name : String) (sample : Sample)
    (attributes : List SdkAttribute)
  /-- An SDK read one measurement from the callback of its instrument `instrument`. -/
  | sdkObserved (instrument : InstrumentRef) (name : String) (value : Binary64)
    (attributes : List SdkAttribute)
deriving DecidableEq, Inhabited

end DeferredMetrics
