import DeferredMetrics.Proofs.Mirrors

set_option autoImplicit false

/-! # Asking a plain provider

The steps of a program that ask for something do to a store what they do to a ledger that depicts
it, whether the provider that answers is a recording one or a deferred one that waits:
`mirrors_requestMeter` and `mirrors_create` say so for any relation that such requests preserve. -/

namespace DeferredMetrics

namespace Op

variable {s : Store} {w : ProviderRef}

/-- A plain provider answers, and nothing is shown of it. -/
theorem requestMeter_of_plain (hw : (s.provider w).Plain) {q : ProviderRef}
    (hq : s.providerEnd? q = some w) (scope : Scope) :
    requestMeter q scope s = .ok s.meters.next (s.askMeter q w scope) := by
  obtain ⟨s', hs', hrun⟩ := requestMeter_run scope hq
  rw [hrun, hs'.same hw.quiet, Store.meterAnswer_of_plain hw]
  rfl

/-- A meter of a plain provider answers, and nothing is shown of it. -/
theorem requestInstrument_of_plain (h : Sound s) (hw : (s.provider w).Plain) {m t : MeterRef}
    (hm : s.meterEnd? m = some t) (ht : (s.meter t).issuer = some w) (request : Request) :
    requestInstrument m request s = .ok s.instruments.next (s.askInstrument m t request) := by
  have hfits : s.MeterFits t := fun e he => (h.tree.fits t e he).2
  have hquiet : s.QuietMeter t := by
    intro e he
    rw [ht, Option.some.injEq] at he
    exact he ▸ hw.quiet
  obtain ⟨s', hs', hrun⟩ := requestInstrument_run request hm hfits
  rw [hrun, hs'.same hquiet, Store.instrumentAnswer_of_plain hw ht]
  rfl

theorem nameMeter_run (id : String) (m : MeterRef) (s : Store) :
    nameMeter id m s = .ok (.meter (s.meter m).scope ((s.nameMeter id m).isIssued m))
      (s.nameMeter id m) := rfl

variable {a : Ledger} {R : Store → Ledger → Prop} {V : Reply → Reply → Prop}

/-- Asking for a meter and naming it. -/
theorem mirrors_requestMeter (h : Depicts w s a) {q : ProviderRef} (hq : s.providerEnd? q = some w)
    (id : String) (scope : Scope)
    (hR : R ((s.askMeter q w scope).nameMeter id s.meters.next) (a.addMeter id scope))
    (hV : V (.meter scope (((s.askMeter q w scope).nameMeter id s.meters.next).isIssued
      s.meters.next)) (.meter scope false)) :
    Mirrors R V (requestMeter q scope >>= nameMeter id) (Booking.addMeter id scope) s a := by
  refine mirrors_of_ok ?_ rfl hV hR
  rw [bind_of_ok (requestMeter_of_plain h.plain hq scope), nameMeter_run,
    (h.issueMeter q scope).2.2]

theorem mirrors_callbackFor_bind {β δ : Type} {W : β → δ → Prop} (h : Depicts w s a) (hhere : R s a)
    (id : String) (kind : Kind) (callback : Option String) {f : Option CallbackRef → Op β}
    {g : Option CallbackRef → Booking δ} (hf : ∀ c, Mirrors R W (f c) (g c) s a) :
    Mirrors R W (callbackFor id kind callback >>= f) (Booking.callbackFor id kind callback >>= g)
      s a := by
  have hcallback : ∀ name, Option.Rel Eq (s.directory.callbacks.get? name)
      (a.callbackNames.get? name) := by
    intro name
    rw [h.callbackNames]
    cases s.directory.callbacks.get? name with
    | none => exact .none
    | some c => exact .some rfl
  unfold callbackFor Booking.callbackFor
  cases kind.isObservable with
  | false => exact hf none
  | true =>
      cases callback with
      | none => exact mirrors_of_error rfl rfl hhere
      | some name =>
          simp only
          rw [bind_assoc, bind_assoc]
          refine mirrors_named_bind (hcallback name) hhere fun c c' hc => ?_
          rw [hc]
          exact hf (some c')

/-- Asking a meter for an instrument and naming it. The reply counts the instrument as deferred
only if the list of the meter has got longer. -/
theorem requestNamed_run (h : Depicts w s a) {m t : MeterRef} {k : Nat}
    (ht : (s.provider w).meters[k]? = some t) (hm : s.meterEnd? m = some t) (id : String)
    (request : Request) :
    ∃ issued, requestNamed m id request s = .ok (.instrument request.descriptor issued)
        ((s.askInstrument m t request).nameInstrument id ⟨s.instruments.next, issued⟩) ∧
      (((s.askInstrument m t request).meter m).instruments = (s.meter m).instruments →
        issued = false) := by
  obtain ⟨l, _, hkept⟩ := h.exists_kept ht
  have hrun := requestInstrument_of_plain h.sound h.plain hm hkept.issuer request
  have hnew := (h.stands_askInstrument m ht request).row
  refine ⟨s.isIssued m && decide ((s.meter m).instruments.length <
    ((s.askInstrument m t request).meter m).instruments.length), ?_, fun hsame => ?_⟩
  · rw [requestNamed, bind_of_ok (get_run s), bind_of_ok hrun, bind_of_ok (get_run _), hnew]
    rfl
  · rw [hsame]
    simp

/-- Creating an instrument of the meter of a name. -/
theorem mirrors_create (h : Depicts w s a) (hhere : R s a) (meter id : String) (kind : Kind)
    (descriptor : Descriptor) (callback : Option String)
    (hR : ∀ m t (k : Nat) request issued, (s.provider w).meters[k]? = some t →
      s.meterEnd? m = some t →
      R ((s.askInstrument m t request).nameInstrument id ⟨s.instruments.next, issued⟩)
        (a.addInstrument id ⟨k, request⟩))
    (hV : ∀ m t (k : Nat) request issued, (s.provider w).meters[k]? = some t →
      (((s.askInstrument m t request).meter m).instruments = (s.meter m).instruments →
        issued = false) →
      V (.instrument descriptor issued) (.instrument descriptor false)) :
    Mirrors R V (create meter id kind descriptor callback)
      (Booking.create meter id kind descriptor callback) s a := by
  refine mirrors_named_bind (h.meterNames meter) hhere fun m k hm => ?_
  obtain ⟨t, ht, hend⟩ := hm
  refine mirrors_callbackFor_bind h hhere id kind callback fun c => ?_
  obtain ⟨issued, hrun, hissued⟩ := requestNamed_run h ht hend id ⟨kind, descriptor, c⟩
  exact mirrors_of_ok hrun rfl (hV m t k _ issued ht hissued) (hR m t k _ issued ht hend)

end Op

end DeferredMetrics
