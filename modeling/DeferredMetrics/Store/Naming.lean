import DeferredMetrics.Store.Basic

set_option autoImplicit false

/-! # Naming providers

A provider is shown by the registration that it is the deferred provider of, else by the first of
its names, else by a name that is made up for it. -/

namespace DeferredMetrics

namespace Store

/-- The store in which a name means the provider `p`. -/
def enterProvider (s : Store) (name : String) (p : NamedProvider) : Store :=
  s.updateDirectory fun d => { d with providers := d.providers.insert name p }

/-- The store in which the provider `r` has a name. -/
def nameProvider (s : Store) (name : String) (r : ProviderRef) : Store :=
  s.enterProvider name ⟨r, false⟩

/-- The store in which the provider `r` has a name to be shown by. -/
def nameStray (s : Store) (name : String) (r : ProviderRef) : Store :=
  s.enterProvider name ⟨r, true⟩

/-- The next name to be made up. -/
def inventedName (s : Store) : String := "auto" ++ toString (s.directory.inventions + 1)

/-- The store in which one name more has been made up. -/
def countInvention (s : Store) : Store :=
  s.updateDirectory fun d => { d with inventions := d.inventions + 1 }

end Store

namespace Op

/-- The provider of that name. -/
def providerNamed (name : String) : Op ProviderRef := do
  return (← named Directory.providers name).ref

/-- Make up a name. -/
def invent : Op String := do
  let name := (← get).inventedName
  modify Store.countInvention
  return name

/-- How a provider is shown. -/
def identify : Option ProviderRef → Op Identity
  | none => return .absent
  | some r => do
      let s ← get
      match s.directory.registrations.nameOf? fun o => decide ((s.registration o).deferred = r) with
      | some name => return .deferredOf name
      | none =>
          match s.directory.providers.nameOf? fun q => decide (q.ref = r) with
          | some name => return .named name false
          | none => do
              let name ← invent
              modify fun s => s.nameStray name r
              return .named name true

end Op

end DeferredMetrics
