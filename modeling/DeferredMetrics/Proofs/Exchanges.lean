import DeferredMetrics.Proofs.Trials

set_option autoImplicit false

/-! # What trials leave in the tables

A provider that is asked for something is changed by nothing but what it is asked and what it
answers (`Provider.serve`), and its later answers depend on how many exchanges there were before
(`refusal_foldl_serve`). With that the tables after any number of trials have a closed form: one
update of the row of the provider, one of the row of each new meter. -/

namespace DeferredMetrics

/-- Something that a provider was asked, directly or through one of its meters, and what was
answered. -/
inductive Exchange where
  | meter (scope : Scope) (answer : Except Payload MeterRef)
  | instrument (request : Request) (answer : Except Payload InstrumentRef)

namespace Exchange

/-- What was asked. -/
def ask : Exchange → Ask
  | .meter scope _ => .meter scope
  | .instrument request _ => .instrument request

/-- The payload of the panic that was the answer, if one was. -/
def refusal? : Exchange → Option Payload
  | .meter _ (.error payload) => some payload
  | .instrument _ (.error payload) => some payload
  | _ => none

end Exchange

namespace Provider

/-- The provider after an exchange. -/
def serve (p : Provider) : Exchange → Provider
  | .meter _ (.ok t) => p.probed.hold t
  | .instrument request (.ok j) => p.probed.keepRequest request j
  | _ => p.probed

@[simp] theorem refusal_hold (p : Provider) (t : MeterRef) (n : Nat) (ask : Ask) :
    (p.hold t).refusal n ask = p.refusal n ask := by
  cases p <;> cases ask <;> rfl

@[simp] theorem refusal_keepRequest (p : Provider) (request : Request) (j : InstrumentRef)
    (n : Nat) (ask : Ask) : (p.keepRequest request j).refusal n ask = p.refusal n ask := by
  unfold keepRequest
  split
  · cases p <;> cases ask <;> rfl
  · rfl

theorem refusal_probed (p : Provider) (n : Nat) (ask : Ask) :
    p.probed.refusal n ask = p.refusal (n + 1) ask := by
  cases p with
  | recording q =>
      cases hq : q.probe with
      | none => cases ask <;> simp [probed, refusal, hq]
      | some probe =>
          have hasked : q.asked + 1 + n = q.asked + (n + 1) := by omega
          cases ask <;> simp [probed, refusal, hq, countCall, hasked]
  | _ => cases ask <;> rfl

/-- After an exchange a provider answers as it would have answered one call later. -/
theorem refusal_serve (p : Provider) (x : Exchange) (n : Nat) (ask : Ask) :
    (p.serve x).refusal n ask = p.refusal (n + 1) ask := by
  unfold serve
  split <;> simp [refusal_probed]

theorem refusal_foldl_serve (p : Provider) (xs : List Exchange) (n : Nat) (ask : Ask) :
    (xs.foldl serve p).refusal n ask = p.refusal (n + xs.length) ask := by
  induction xs generalizing p with
  | nil => rfl
  | cons x xs ih =>
      have hlength : n + xs.length + 1 = n + (x :: xs).length := by simp; omega
      rw [List.foldl_cons, ih, refusal_serve, hlength]

@[simp] theorem target?_probed (p : Provider) : p.probed.target? = p.target? := by
  cases p with
  | recording q => cases hq : q.probe <;> simp [probed, hq, countCall, target?]
  | _ => rfl

@[simp] theorem target?_hold (p : Provider) (t : MeterRef) : (p.hold t).target? = p.target? := by
  cases p <;> rfl

@[simp] theorem target?_keepRequest (p : Provider) (request : Request) (j : InstrumentRef) :
    (p.keepRequest request j).target? = p.target? := by
  unfold keepRequest
  split
  · cases p <;> rfl
  · rfl

@[simp] theorem target?_serve (p : Provider) (x : Exchange) : (p.serve x).target? = p.target? := by
  unfold serve
  split <;> simp

theorem target?_foldl_serve (p : Provider) (xs : List Exchange) :
    (xs.foldl serve p).target? = p.target? := by
  induction xs generalizing p with
  | nil => rfl
  | cons x xs ih => exact (ih _).trans (target?_serve p x)

theorem quiet_probed {p : Provider} (h : p.Quiet) : p.probed.Quiet := by
  cases p with
  | recording q =>
      have hprobe : q.probe = none := h
      simpa [probed, hprobe] using h
  | _ => exact h

theorem quiet_hold {p : Provider} (t : MeterRef) (h : p.Quiet) : (p.hold t).Quiet := by
  cases p <;> exact h

theorem quiet_keepRequest {p : Provider} (request : Request) (j : InstrumentRef) (h : p.Quiet) :
    (p.keepRequest request j).Quiet := by
  unfold keepRequest
  split
  · cases p <;> exact h
  · exact h

/-- A quiet provider stays quiet. -/
theorem quiet_serve {p : Provider} (x : Exchange) (h : p.Quiet) : (p.serve x).Quiet := by
  unfold serve
  split
  · exact quiet_hold _ (quiet_probed h)
  · exact quiet_keepRequest _ _ (quiet_probed h)
  · exact quiet_probed h

theorem quiet_foldl_serve {p : Provider} (xs : List Exchange) (h : p.Quiet) :
    (xs.foldl serve p).Quiet := by
  induction xs generalizing p with
  | nil => exact h
  | cons x xs ih => exact ih (quiet_serve x h)

theorem fits_hold {p : Provider} {body : MeterBody} (t : MeterRef) (h : p.Fits body) :
    (p.hold t).Fits body := by
  cases h <;> constructor

theorem fits_keepRequest {p : Provider} {body : MeterBody} (request : Request) (j : InstrumentRef)
    (h : p.Fits body) : (p.keepRequest request j).Fits body := by
  unfold keepRequest
  split
  · cases h <;> constructor
  · exact h

theorem fits_serve {p : Provider} {body : MeterBody} (x : Exchange) (h : p.Fits body) :
    (p.serve x).Fits body := by
  unfold serve
  split
  · exact fits_hold _ (fits_probed h)
  · exact fits_keepRequest _ _ (fits_probed h)
  · exact fits_probed h

theorem freshBody_serve (p : Provider) (x : Exchange) : (p.serve x).freshBody = p.freshBody := by
  have h := fits_serve x (fits_freshBody p)
  generalize p.serve x = q at h
  cases p <;> cases h <;> rfl

theorem freshBody_foldl_serve (p : Provider) (xs : List Exchange) :
    (xs.foldl serve p).freshBody = p.freshBody := by
  induction xs generalizing p with
  | nil => rfl
  | cons x xs ih => exact (ih _).trans (freshBody_serve p x)

end Provider

namespace Meter

/-- The meter after it was asked for an instrument and answered. -/
def take (m : Meter) (request : Request) (answer : Except Payload InstrumentRef) : Meter :=
  match answer with
  | .ok j => m.keepRequest request j
  | .error _ => m

@[simp] theorem scope_keepRequest (m : Meter) (request : Request) (j : InstrumentRef) :
    (m.keepRequest request j).scope = m.scope := by
  cases hm : m.body <;> simp [keepRequest, hm, noteCreated, hold]

@[simp] theorem issuer_keepRequest (m : Meter) (request : Request) (j : InstrumentRef) :
    (m.keepRequest request j).issuer = m.issuer := by
  cases hm : m.body <;> simp [keepRequest, hm, noteCreated, hold]

@[simp] theorem target?_keepRequest (m : Meter) (request : Request) (j : InstrumentRef) :
    (m.keepRequest request j).target? = m.target? := by
  cases hm : m.body <;> simp [keepRequest, hm, noteCreated, hold, target?]

theorem fits_keepRequest {p : Provider} {m : Meter} (request : Request) (j : InstrumentRef)
    (h : p.Fits m.body) : p.Fits (m.keepRequest request j).body := by
  unfold keepRequest noteCreated hold
  split
  · rename_i hm
    rw [hm] at h ⊢
    cases h
    constructor
  · rename_i hm
    rw [hm] at h ⊢
    cases h
    constructor
  · exact h

section Take

variable (m : Meter) (request : Request) (answer : Except Payload InstrumentRef)

@[simp] theorem scope_take : (m.take request answer).scope = m.scope := by
  cases answer <;> simp [take]

@[simp] theorem issuer_take : (m.take request answer).issuer = m.issuer := by
  cases answer <;> simp [take]

@[simp] theorem target?_take : (m.take request answer).target? = m.target? := by
  cases answer <;> simp [take]

theorem fits_take {p : Provider} (h : p.Fits m.body) : p.Fits (m.take request answer).body := by
  cases answer with
  | error payload => exact h
  | ok j => exact fits_keepRequest request j h

end Take

theorem scope_foldl_take (xs : List InstrumentTrial) (m : Meter) :
    (xs.foldl (fun m x => m.take x.request x.answer) m).scope = m.scope := by
  induction xs generalizing m with
  | nil => rfl
  | cons x xs ih => exact (ih _).trans (scope_take m _ _)

theorem issuer_foldl_take (xs : List InstrumentTrial) (m : Meter) :
    (xs.foldl (fun m x => m.take x.request x.answer) m).issuer = m.issuer := by
  induction xs generalizing m with
  | nil => rfl
  | cons x xs ih => exact (ih _).trans (issuer_take m _ _)

end Meter

/-! ## One request -/

namespace Store

variable (s : Store)

theorem providers_giveMeter (e : ProviderRef) (scope : Scope) :
    (s.giveMeter e scope).providers =
      s.providers.update e fun p => p.serve (.meter scope (s.meterAnswer e scope)) := by
  unfold giveMeter meterAnswer
  cases (s.provider e).refusal 0 (.meter scope) with
  | some payload => rfl
  | none => exact Table.update_update s.providers _ _ e

theorem meters_giveMeter (e : ProviderRef) (scope : Scope) :
    (s.giveMeter e scope).meters =
      match s.meterAnswer e scope with
      | .ok _ => s.meters.add ⟨scope, some e, (s.provider e).freshBody⟩
      | .error _ => s.meters := by
  unfold giveMeter meterAnswer
  cases (s.provider e).refusal 0 (.meter scope) <;> rfl

theorem instruments_giveMeter (e : ProviderRef) (scope : Scope) :
    (s.giveMeter e scope).instruments = s.instruments := by
  unfold giveMeter
  cases (s.provider e).refusal 0 (.meter scope) <;> rfl

theorem calls_giveMeter (e : ProviderRef) (scope : Scope) :
    (s.giveMeter e scope).calls = s.calls := by
  unfold giveMeter
  cases (s.provider e).refusal 0 (.meter scope) <;> rfl

theorem providers_giveInstrument {t : MeterRef} {e : ProviderRef} (request : Request)
    (hissuer : (s.meter t).issuer = some e) :
    (s.giveInstrument t request).providers =
      s.providers.update e fun p =>
        p.serve (.instrument request (s.instrumentAnswer t request)) := by
  unfold giveInstrument instrumentAnswer
  rw [hissuer]
  simp only
  cases s.instrumentRefusal (some e) request with
  | some payload => rfl
  | none => exact Table.update_update s.providers _ _ e

theorem meters_updateIssuer (issuer : Option ProviderRef) (f : Provider → Provider) :
    (s.updateIssuer issuer f).meters = s.meters := by
  cases issuer <;> rfl

theorem instruments_updateIssuer (issuer : Option ProviderRef) (f : Provider → Provider) :
    (s.updateIssuer issuer f).instruments = s.instruments := by
  cases issuer <;> rfl

theorem meters_giveInstrument (t : MeterRef) (request : Request) :
    (s.giveInstrument t request).meters =
      s.meters.update t fun m => m.take request (s.instrumentAnswer t request) := by
  unfold giveInstrument instrumentAnswer
  simp only
  cases s.instrumentRefusal (s.meter t).issuer request with
  | some payload =>
      simp only [meters_updateIssuer]
      exact (Table.update_eq_self s.meters _ t rfl).symm
  | none =>
      show (Table.update (updateIssuer _ _ _).meters t _) = _
      rw [meters_updateIssuer, meters_updateIssuer]
      rfl

theorem instruments_giveInstrument (t : MeterRef) (request : Request) :
    (s.giveInstrument t request).instruments =
      match s.instrumentAnswer t request with
      | .ok _ => s.instruments.add ⟨request, t, (s.meter t).freshDestination⟩
      | .error _ => s.instruments := by
  unfold giveInstrument instrumentAnswer
  simp only
  cases s.instrumentRefusal (s.meter t).issuer request with
  | some payload => exact instruments_updateIssuer _ _ _
  | none =>
      show (Table.add (updateIssuer _ _ _).instruments _) = _
      rw [instruments_updateIssuer, instruments_updateIssuer]

theorem calls_giveInstrument (t : MeterRef) (request : Request) :
    (s.giveInstrument t request).calls = s.calls := by
  unfold giveInstrument updateIssuer
  cases (s.meter t).issuer <;> simp only <;> split <;> rfl

/-! What is written down of a request changes nothing else. -/

section NoteReturn

variable {α : Type} (answer : Except Payload α) (returned : α → Call)

/-- What is written down of a return, if there is one. -/
def returns : List Call :=
  match answer with
  | .ok a => [returned a]
  | .error _ => []

theorem providers_noteReturn : (s.noteReturn answer returned).providers = s.providers := by
  cases answer <;> rfl

theorem meters_noteReturn : (s.noteReturn answer returned).meters = s.meters := by
  cases answer <;> rfl

theorem instruments_noteReturn : (s.noteReturn answer returned).instruments = s.instruments := by
  cases answer <;> rfl

theorem calls_noteReturn :
    (s.noteReturn answer returned).calls.toList = s.calls.toList ++ returns answer returned := by
  cases answer <;> simp [noteReturn, returns, note]

end NoteReturn

section AskMeter

variable (p : ProviderRef) {e : ProviderRef}

theorem meterAnswer_eq_next {t : MeterRef} {scope : Scope} (h : s.meterAnswer e scope = .ok t) :
    t = s.meters.next := by
  unfold meterAnswer at h
  split at h
  · cases h
  · exact (Except.ok.inj h).symm

theorem providers_askMeter (e : ProviderRef) (scope : Scope) :
    (s.askMeter p e scope).providers =
      s.providers.update e fun q => q.serve (.meter scope (s.meterAnswer e scope)) := by
  rw [askMeter, providers_noteReturn]
  exact providers_giveMeter (s.note (.meter p scope)) e scope

theorem meters_askMeter (e : ProviderRef) (scope : Scope) :
    (s.askMeter p e scope).meters =
      match s.meterAnswer e scope with
      | .ok _ => s.meters.add ⟨scope, some e, (s.provider e).freshBody⟩
      | .error _ => s.meters := by
  rw [askMeter, meters_noteReturn]
  exact meters_giveMeter (s.note (.meter p scope)) e scope

theorem meters_askMeter_of_ok {t : MeterRef} {scope : Scope} (h : s.meterAnswer e scope = .ok t) :
    (s.askMeter p e scope).meters = s.meters.add ⟨scope, some e, (s.provider e).freshBody⟩ := by
  rw [meters_askMeter, h]

theorem meters_askMeter_of_error {scope : Scope} {payload : Payload}
    (h : s.meterAnswer e scope = .error payload) : (s.askMeter p e scope).meters = s.meters := by
  rw [meters_askMeter, h]

theorem instruments_askMeter (e : ProviderRef) (scope : Scope) :
    (s.askMeter p e scope).instruments = s.instruments := by
  rw [askMeter, instruments_noteReturn]
  exact instruments_giveMeter (s.note (.meter p scope)) e scope

theorem calls_askMeter (e : ProviderRef) (scope : Scope) :
    (s.askMeter p e scope).calls.toList =
      s.calls.toList ++ .meter p scope :: returns (s.meterAnswer e scope) .meterReturned := by
  rw [askMeter, calls_noteReturn, calls_giveMeter]
  simp [note]

end AskMeter

section AskInstrument

variable (m : MeterRef) {t : MeterRef}

theorem instrumentAnswer_eq_next {request : Request} {j : InstrumentRef}
    (h : s.instrumentAnswer t request = .ok j) : j = s.instruments.next := by
  unfold instrumentAnswer at h
  split at h
  · cases h
  · exact (Except.ok.inj h).symm

theorem providers_askInstrument {e : ProviderRef} (request : Request)
    (hissuer : (s.meter t).issuer = some e) :
    (s.askInstrument m t request).providers =
      s.providers.update e fun p =>
        p.serve (.instrument request (s.instrumentAnswer t request)) := by
  rw [askInstrument, providers_noteReturn]
  exact providers_giveInstrument (s.note (.instrument m request)) request hissuer

theorem meters_askInstrument (t : MeterRef) (request : Request) :
    (s.askInstrument m t request).meters =
      s.meters.update t fun x => x.take request (s.instrumentAnswer t request) := by
  rw [askInstrument, meters_noteReturn]
  exact meters_giveInstrument (s.note (.instrument m request)) t request

theorem instruments_askInstrument (t : MeterRef) (request : Request) :
    (s.askInstrument m t request).instruments =
      match s.instrumentAnswer t request with
      | .ok _ => s.instruments.add ⟨request, t, (s.meter t).freshDestination⟩
      | .error _ => s.instruments := by
  rw [askInstrument, instruments_noteReturn]
  exact instruments_giveInstrument (s.note (.instrument m request)) t request

theorem instruments_askInstrument_of_ok {request : Request} {j : InstrumentRef}
    (h : s.instrumentAnswer t request = .ok j) :
    (s.askInstrument m t request).instruments =
      s.instruments.add ⟨request, t, (s.meter t).freshDestination⟩ := by
  rw [instruments_askInstrument, h]

theorem instruments_askInstrument_of_error {request : Request} {payload : Payload}
    (h : s.instrumentAnswer t request = .error payload) :
    (s.askInstrument m t request).instruments = s.instruments := by
  rw [instruments_askInstrument, h]

theorem instrument_askInstrument_ite {request : Request} {j : InstrumentRef}
    (h : s.instrumentAnswer t request = .ok j) (i : InstrumentRef) :
    (s.askInstrument m t request).instrument i =
      if i = j then ⟨request, t, (s.meter t).freshDestination⟩ else s.instrument i := by
  rw [instrument, instruments_askInstrument_of_ok s m h, Table.get_add,
    instrumentAnswer_eq_next s h]
  rfl

theorem calls_askInstrument (t : MeterRef) (request : Request) :
    (s.askInstrument m t request).calls.toList =
      s.calls.toList ++ .instrument m request ::
        returns (s.instrumentAnswer t request) .instrumentReturned := by
  rw [askInstrument, calls_noteReturn, calls_giveInstrument]
  simp [note]

end AskInstrument

end Store

end DeferredMetrics
