import DeferredMetrics.Proofs.Forgetting
import DeferredMetrics.Proofs.Messages
import DeferredMetrics.Proofs.Mutexes
import DeferredMetrics.Proofs.Rebinding

set_option autoImplicit false

/-! # A panic of a backend behind bound nodes

A bound node hands a request on, and there is nothing around the backend that would catch its
panic: it gets to the caller as it is. What the request leaves then is what the backend has done to
itself, and the node is as it was (`Spared`), its mutex free again. The main statement is
`panic_spares`: the run goes on as from a store in which only that was done. -/

namespace DeferredMetrics

/-- A probe looks at no registration when it is asked for a meter. -/
def Provider.Blind : Provider → Prop
  | .recording q => ∀ probe, q.probe = some probe → probe.peek = none
  | _ => True

/-- The store after the code behind the provider `e` has counted a call and has panicked; names may
have been made up to show what it looked at, and `trace` is what was seen. -/
def Store.disturb (s : Store) (e : ProviderRef) (directory : Directory) (trace : Array Event) :
    Store :=
  { s with
    providers := s.providers.update e Provider.probed
    directory := directory
    trace := trace }

/-- The call `call`, which has led from `s` to `s'`, has panicked in the code behind the provider
`e`. -/
structure Spared (s : Store) (e : ProviderRef) (call : Call) (s' : Store) : Prop where
  /-- Nothing has changed but what the backend did to itself and what it has shown. -/
  store : s' = { s.disturb e s'.directory s'.trace with calls := s.calls.push call }
  /-- The library says nothing. -/
  messages : s'.messages = s.messages
  /-- At most there are names that providers are shown by, and none without a look at one. -/
  directory : s'.directory = { s.directory with
    providers := s'.directory.providers, inventions := s'.directory.inventions }
  blind : (s.provider e).Blind → s'.directory = s.directory
  /-- Every provider has the target and the list that it had. -/
  provider : ∀ q, (s'.provider q).target? = (s.provider q).target? ∧
    (s'.provider q).issued = (s.provider q).issued
  meter : ∀ m, s'.meter m = s.meter m
  instrument : ∀ i, s'.instrument i = s.instrument i
  /-- The run goes on as if the call had not been made. -/
  goesOn : GoesOnAs (s.disturb e s'.directory s'.trace) s'

namespace Provider

theorem target?_and_issued_probed (p : Provider) :
    p.probed.target? = p.target? ∧ p.probed.issued = p.issued :=
  ⟨target?_probed p, (like_probed p).issued⟩

end Provider

/-- What a request that was refused leaves, up to what is shown. -/
theorem Spared.of_shown {s s' : Store} {e : ProviderRef} {call : Call}
    (h : Shown ((s.note call).updateProvider e Provider.probed) s')
    (hblind : (s.provider e).Blind → s'.directory = s.directory) : Spared s e call s' := by
  have hstore : s' = { s.disturb e s'.directory s'.trace with calls := s.calls.push call } := by
    obtain ⟨hproviders, hmeters, hinstruments, hcallbacks, hregistries, hregistrations,
      henvironment, hcalls, _, _, _⟩ := h
    cases s'
    simp only [Store.disturb, Store.mk.injEq]
    exact ⟨hproviders, hmeters, hinstruments, hcallbacks, hregistries, hregistrations,
      henvironment, trivial, trivial, hcalls⟩
  refine ⟨hstore, h.messages.trans (Store.messages_congr rfl), h.directory, hblind, fun q => ?_,
    h.meter, h.instrument, .of_calls ?_⟩
  · rw [h.provider]
    show ((s.updateProvider e Provider.probed).provider q).target? = _ ∧
      ((s.updateProvider e Provider.probed).provider q).issued = _
    rw [Store.provider_updateProvider]
    split
    · exact Provider.target?_and_issued_probed _
    · exact ⟨rfl, rfl⟩
  · rw [show s'.calls = s.calls.push call from h.calls]
    exact hstore

namespace Store

variable {s : Store} {e : ProviderRef} {payload : Payload}

theorem meterAnswer_of_refusal {scope : Scope}
    (h : (s.provider e).refusal 0 (.meter scope) = some payload) :
    s.meterAnswer e scope = .error payload := by
  simp only [meterAnswer, h]

/-- A provider that refuses a meter has counted the call and done nothing else. -/
theorem askMeter_of_refusal (d : ProviderRef) {scope : Scope}
    (h : (s.provider e).refusal 0 (.meter scope) = some payload) :
    s.askMeter d e scope = (s.note (.meter d scope)).updateProvider e Provider.probed := by
  have h' : ((s.note (.meter d scope)).provider e).refusal 0 (.meter scope) = some payload := h
  simp only [askMeter, meterAnswer_of_refusal h, noteReturn, giveMeter, h']

end Store

namespace Op

variable {s : Store} {e : ProviderRef} {payload : Payload}

/-- Only a probe refuses a meter, and if it is blind it shows the call and nothing else. -/
theorem issueMeter_of_blind {scope : Scope} (hblind : (s.provider e).Blind)
    (h : (s.provider e).refusal 0 (.meter scope) = some payload) :
    ∃ s', issueMeter e scope s = .error (.panic payload) s' ∧ s'.directory = s.directory := by
  cases hq : s.provider e with
  | recording q =>
      rw [hq] at h hblind
      obtain ⟨probe, hprobe, hpanics⟩ := Option.bind_eq_some_iff.1 h
      have hrun : probeMeter e q scope s = .error (.panic payload)
          ((s.updateProvider e Provider.countCall).see (.meterAsked probe.label scope)) := by
        simp only [probeMeter, hprobe, bind_run, modify_run, see_run, get_run, hblind probe hprobe]
        exact panicIf_of_some hpanics _
      rw [issueMeter, bind_of_ok (get_run s), hq]
      exact ⟨_, bind_of_error hrun, rfl⟩
  | _ =>
      rw [hq] at h
      cases h

/-- A request for a meter that the end of the chain refuses panics with what the backend panics
with. -/
theorem requestMeter_of_refusal {d : ProviderRef} {scope : Scope} (he : s.providerEnd? d = some e)
    (h : (s.provider e).refusal 0 (.meter scope) = some payload) :
    ∃ s', requestMeter d scope s = .error (.panic payload) s' ∧ Spared s e (.meter d scope) s' := by
  obtain ⟨s', hs', hrun⟩ := requestMeter_run scope he
  rw [Store.askMeter_of_refusal d h] at hs'
  rw [Store.meterAnswer_of_refusal h] at hrun
  refine ⟨s', hrun, .of_shown hs'.shown fun hblind => ?_⟩
  -- `s'` is known up to what is shown; what a blind probe shows is known, and it is the same run
  obtain ⟨s₁, hissue, hdirectory⟩ :=
    issueMeter_of_blind (s := s.note (.meter d scope)) hblind h
  have hend : (s.note (.meter d scope)).providerEnd? d = some e := he
  have hsame : requestMeter d scope s = .error (.panic payload) s₁ := by
    rw [requestMeter, bind_of_ok (note_run _ s), bind_of_ok (providerEnd_of_some hend),
      bind_of_error hissue]
  cases hrun.symm.trans hsame
  exact hdirectory

/-- What a meter of a backend refuses was counted by the backend and shown, and no name is made up
for that. -/
theorem issueInstrument_of_refusal {t : MeterRef} {request : Request} (hfits : s.MeterFits t)
    (hissuer : (s.meter t).issuer = some e)
    (h : (s.provider e).refusal 0 (.instrument request) = some payload) :
    ∃ event, event.isRequest = true ∧ issueInstrument t request s =
      .error (.panic payload) ((s.updateProvider e Provider.probed).see event) := by
  have hfit := hfits e hissuer
  rw [issueInstrument, bind_of_ok (get_run s)]
  -- only probes and the SDK refuse, and what the meter is made of fits its issuer
  cases hq : s.provider e with
  | recording q =>
      rw [hq] at h
      obtain ⟨m, hbody⟩ := hfit.body_of_recording hq
      obtain ⟨probe, hprobe, hpanics⟩ := Option.bind_eq_some_iff.1 h
      refine ⟨.instrumentAsked probe.label request.kind request.descriptor, rfl, ?_⟩
      rw [s.updateProvider_congr (g := Provider.countCall) (by simp [hq, Provider.probed, hprobe])]
      simp only [hbody, hissuer]
      refine bind_of_error ?_
      rw [probeInstrument, bind_of_ok (get_run s), hq]
      simp only [hprobe, bind_run, modify_run, see_run]
      exact panicIf_of_some hpanics _
  | sdk q =>
      rw [hq] at h
      have hbody := hfit.body_of_sdk hq
      refine ⟨.sdkInstrument q.label request.kind.sdkBuilder request.descriptor
        request.callback.isSome, rfl,
        ?_⟩
      rw [s.updateProvider_eq_self (by simp [hq, Provider.probed])]
      simp only [hbody, hissuer]
      refine bind_of_error ?_
      rw [requestFromSdk_run request hq]
      exact bind_of_error (panicIf_of_some h _)
  | _ =>
      rw [hq] at h
      cases h

/-- A request for an instrument that the backend behind the end of the chain refuses panics with
what the backend panics with. -/
theorem requestInstrument_of_refusal (hsound : Sound s) {m t : MeterRef} {request : Request}
    (ht : s.meterEnd? m = some t) (hissuer : (s.meter t).issuer = some e)
    (h : (s.provider e).refusal 0 (.instrument request) = some payload) :
    ∃ s', requestInstrument m request s = .error (.panic payload) s' ∧
      Spared s e (.instrument m request) s' := by
  have hfits : (s.note (.instrument m request)).MeterFits t :=
    fun x hx => (hsound.tree.fits t x hx).2
  obtain ⟨event, hevent, hissue⟩ := issueInstrument_of_refusal hfits hissuer h
  have hend : (s.note (.instrument m request)).meterEnd? m = some t := ht
  refine ⟨_, ?_, .of_shown (.see _ event hevent) fun _ => rfl⟩
  rw [requestInstrument, bind_of_ok (note_run _ s), bind_of_ok (meterEnd_of_some hend),
    bind_of_error hissue]

end Op

/-- In any store that can be reached, a request on a node that the backend at the end of its chain
refuses panics with what the backend panics with, and spares everything else, now and in every run
from there on. A thread that makes the request under the mutexes of the nodes on the way finds the
same, and holds none of them afterwards. -/
theorem panic_spares {s : Store} (h : Reachable s) :
    (∀ d e scope payload, s.providerEnd? d = some e →
      (s.provider e).refusal 0 (.meter scope) = some payload →
      ∃ s', Op.requestMeter d scope s = .error (.panic payload) s' ∧
        Op.holdingMeter d scope ⟨s, []⟩ = .error (.panic payload) ⟨s', []⟩ ∧
        Spared s e (.meter d scope) s') ∧
    (∀ m t e request payload, s.meterEnd? m = some t → (s.meter t).issuer = some e →
      (s.provider e).refusal 0 (.instrument request) = some payload →
      ∃ s', Op.requestInstrument m request s = .error (.panic payload) s' ∧
        Op.holdingInstrument m request ⟨s, []⟩ = .error (.panic payload) ⟨s', []⟩ ∧
        Spared s e (.instrument m request) s') := by
  constructor
  · intro d e scope payload he hrefusal
    obtain ⟨s', hrun, hspared⟩ := Op.requestMeter_of_refusal he hrefusal
    exact ⟨s', hrun, (Op.holdingMeter_run scope he).trans (congrArg (Op.holding []) hrun), hspared⟩
  · intro m t e request payload ht hissuer hrefusal
    have hsound := reachable_sound h
    obtain ⟨s', hrun, hspared⟩ := Op.requestInstrument_of_refusal hsound ht hissuer hrefusal
    have hfits : s.MeterFits t := fun x hx => (hsound.tree.fits t x hx).2
    exact ⟨s', hrun,
      (Op.holdingInstrument_run request ht hfits).trans (congrArg (Op.holding []) hrun), hspared⟩

/-- The poisoned registration after its backend was installed. -/
def Store.wary : Store := Scenario.after 1 none .poisoned [.setProvider "r" "p"]

theorem reachable_wary : Reachable .wary := reachable_poisoned.after 1 none (by decide)

theorem panic_spares_wary :
    (∃ s', Op.requestMeter ⟨0⟩ (.named "refused") .wary = .error (.panic (.text "down")) s' ∧
      Op.holdingMeter ⟨0⟩ (.named "refused") ⟨.wary, []⟩ =
        .error (.panic (.text "down")) ⟨s', []⟩ ∧
      Spared .wary ⟨1⟩ (.meter ⟨0⟩ (.named "refused")) s') ∧
    (∃ s', Op.requestInstrument ⟨0⟩ ⟨.counter, .named "hits", none⟩ .wary =
        .error (.panic (.text "full")) s' ∧
      Op.holdingInstrument ⟨0⟩ ⟨.counter, .named "hits", none⟩ ⟨.wary, []⟩ =
        .error (.panic (.text "full")) ⟨s', []⟩ ∧
      Spared .wary ⟨1⟩ (.instrument ⟨0⟩ ⟨.counter, .named "hits", none⟩) s') :=
  ⟨(panic_spares reachable_wary).1 _ _ _ _ (by decide +kernel) (by decide +kernel),
    (panic_spares reachable_wary).2 _ ⟨2⟩ _ _ _ (by decide +kernel) (by decide +kernel)
      (by decide +kernel)⟩

end DeferredMetrics
