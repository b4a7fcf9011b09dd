set_option autoImplicit false

/-! # Instrumentation scopes

A meter is asked for by a scope: a name, and optionally a version and a schema address. An absent
version differs from an empty one. -/

namespace DeferredMetrics

/-- What a meter is asked for by. -/
structure Scope where
  name : String
  version : Option String
  schemaUrl : Option String
deriving DecidableEq, Inhabited

namespace Scope

/-- A scope with a name and nothing else. -/
def named (name : String) : Scope := ⟨name, none, none⟩

/-- The scope with the given version. -/
def withVersion (s : Scope) (version : String) : Scope := { s with version := some version }

/-- The scope with the given schema address. -/
def withSchemaUrl (s : Scope) (schemaUrl : String) : Scope :=
  { s with schemaUrl := some schemaUrl }

end Scope

end DeferredMetrics
