import DeferredMetrics.Proofs.SoundBinding

set_option autoImplicit false

/-! # What an operation can do

Whatever an operation does to providers, meters, instruments and callbacks, and whatever calls it
writes down, it does in a few kinds of deeds. A deed says exactly what becomes of the tables and
which calls were made; all else that happens is `aside`. What every deed keeps of a sound store is
kept by every path of deeds (`keeps_of_deeds`). Binding a meter with all its instruments is one
deed: while it goes on, the calls tell of a target that the meter does not have yet. -/

namespace DeferredMetrics

open Relation (ReflTransGen)

/-- An instrument is given a sample or is observed by the call. -/
def Call.gives : Call → Bool
  | .sample .. => true
  | .observe _ => true
  | _ => false

/-- The callback was called once more. -/
def Callback.count (c : Callback) : Callback := { c with asked := c.asked + 1 }

/-- One thing that an operation does. -/
inductive Deed : Store → Store → Prop where
  | aside {s s' : Store} (hproviders : s'.providers = s.providers) (hmeters : s'.meters = s.meters)
      (hinstruments : s'.instruments = s.instruments) (hcallbacks : s'.callbacks = s.callbacks)
      (hcalls : s'.calls = s.calls) : Deed s s'
  /-- A provider that has neither target nor meters. -/
  | addProvider {s : Store} {p : Provider} (htarget : p.target? = none) (hissued : p.issued = []) :
      Deed s (s.addProvider p)
  /-- A meter that stands alone. -/
  | addMeter {s : Store} {m : Meter} (hissuer : m.issuer = none)
      (hbody : m.body.isDeferred = false) : Deed s (s.addMeter m)
  | addCallback {s : Store} (c : Callback) : Deed s (s.addCallback c)
  | give {s : Store} {c : Call} (hc : c.gives = true) : Deed s (s.note c)
  | keep {s : Store} (m : MeterRef) (events : List Recorded) :
      Deed s (s.updateMeter m fun m => m.keep events)
  | poll {s : Store} (c : CallbackRef) :
      Deed s ((s.note (.poll c)).updateCallback c Callback.count)
  | askMeter {s : Store} {p e : ProviderRef} (scope : Scope) (hp : s.providers.Has p)
      (he : s.providerEnd? p = some e) : Deed s (s.askMeter p e scope)
  /-- A provider whose chain has no end is asked for a meter. -/
  | loseMeter {s : Store} {p : ProviderRef} (scope : Scope) (hend : s.providerEnd? p = none) :
      Deed s (s.note (.meter p scope))
  | askInstrument {s : Store} {m t : MeterRef} (request : Request) (ht : s.meterEnd? m = some t) :
      Deed s (s.askInstrument m t request)
  /-- A meter whose chain has no end is asked for an instrument. -/
  | loseInstrument {s : Store} {m : MeterRef} (request : Request) (hend : s.meterEnd? m = none) :
      Deed s (s.note (.instrument m request))
  /-- A registration gets a provider. -/
  | assign {s : Store} {r : RegistrationRef} {p : ProviderRef} (hr : s.registrations.Has r)
      (htarget : (s.provider (s.registration r).deferred).target? = none) : Deed s (s.assign r p)
  /-- A provider that has a target is told another one. -/
  | tellAgain {s : Store} {d : ProviderRef} (p : ProviderRef)
      (htarget : (s.provider d).target?.isSome = true) : Deed s (s.note (.bindProvider d p))
  /-- A meter and its instruments get targets; the one of the meter was made just now. -/
  | bindMeter {s : Store} {e : ProviderRef} {m t : MeterRef} (hserves : s.Serves e t)
      (hwaits : s.MeterWaits m) (hne : m ≠ t) : Deed s (s.bindMeter m t)

/-- A deed that keeps a store sound. -/
structure SoundDeed (s s' : Store) : Prop where
  deed : Deed s s'
  sound : Sound s → Sound s'

/-- A relation between a store and a later one holds along a path if it holds of every deed. -/
theorem keeps_of_deeds {P : Store → Store → Prop} (hrefl : ∀ s, P s s)
    (htrans : ∀ s s' s'', P s s' → P s' s'' → P s s'')
    (hdeed : ∀ s s', Sound s → Sound s' → Deed s s' → P s s') {s s' : Store} (h : Sound s)
    (hdeeds : ReflTransGen SoundDeed s s') : Sound s' ∧ P s s' := by
  induction hdeeds with
  | refl => exact ⟨h, hrefl s⟩
  | tail _ hdone ih =>
      obtain ⟨hs, hP⟩ := ih
      have hs' := hdone.sound hs
      exact ⟨hs', htrans _ _ _ hP (hdeed _ _ hs hs' hdone.deed)⟩

end DeferredMetrics
