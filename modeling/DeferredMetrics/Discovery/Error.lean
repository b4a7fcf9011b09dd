set_option autoImplicit false

/-! # Why no provider could be made from the configuration

Either nobody registered the configured name, or the factory of that name failed. A failed factory
gives its reason: a chain of texts, each the cause of the one before it, or the error of another
discovery that it had asked. -/

namespace DeferredMetrics

/-- An error of discovery. -/
inductive DiscoveryError where
  /-- The value of `key` names a factory that is not registered. -/
  | unknownProvider (key name : String)
  /-- The factory `name` failed with a reason of its own and the causes of that reason. -/
  | factoryFailed (name reason : String) (causes : List String)
  /-- The factory `name` failed because a discovery inside it did. -/
  | factoryRefused (name : String) (source : DiscoveryError)
deriving DecidableEq, Inhabited

namespace DiscoveryError

/-- The text for the factory `name` whose reason is `reason`. -/
def failureText (name reason : String) : String :=
  "MeterProvider 工厂 `" ++ name ++ "` 构造失败: " ++ reason

/-- The text of the error; of the reasons it holds the first one only. -/
def message : DiscoveryError → String
  | .unknownProvider key name =>
      "环境变量 `" ++ key ++ "` 指定的 MeterProvider `" ++ name ++ "` 未注册"
  | .factoryFailed name reason _ => failureText name reason
  | .factoryRefused name source => failureText name source.message

/-- The texts of the reasons, each the cause of the one before it. -/
def sources : DiscoveryError → List String
  | .unknownProvider .. => []
  | .factoryFailed _ reason causes => reason :: causes
  | .factoryRefused _ source => source.message :: source.sources

/-- The name of the factory that was asked for. -/
def provider : DiscoveryError → String
  | .unknownProvider _ name => name
  | .factoryFailed name .. => name
  | .factoryRefused name _ => name

@[simp] theorem sources_factoryRefused (name : String) (source : DiscoveryError) :
    (factoryRefused name source).sources = source.message :: source.sources := rfl

end DiscoveryError

end DeferredMetrics
