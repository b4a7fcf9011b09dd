import DeferredMetrics.Proofs.Shown

set_option autoImplicit false

/-! # What a request does

A request for a meter or an instrument goes to the end of a chain, where it is either refused with
a panic or answered with a new object. `Store.askMeter` and `Store.askInstrument` are the stores
after a request, `Store.meterAnswer` and `Store.instrumentAnswer` the answers; the main statements,
`requestMeter_run` and `requestInstrument_run`, say that a request does just this, up to what it
shows. -/

namespace DeferredMetrics

namespace Store

/-- The store with a change of the provider that issued a meter, if one did. -/
def updateIssuer (s : Store) (issuer : Option ProviderRef) (f : Provider → Provider) : Store :=
  match issuer with
  | some e => s.updateProvider e f
  | none => s

/-- The payload with which a meter of the issuer refuses a request, if it refuses it. -/
def instrumentRefusal (s : Store) (issuer : Option ProviderRef) (request : Request) :
    Option Payload :=
  issuer.bind fun e => (s.provider e).refusal 0 (.instrument request)

/-- The store after the provider `e` was asked for a meter: its probe has counted the call, and
unless it was refused, there is a new meter, which `e` keeps if it keeps any. -/
def giveMeter (s : Store) (e : ProviderRef) (scope : Scope) : Store :=
  let s' := s.updateProvider e Provider.probed
  match (s.provider e).refusal 0 (.meter scope) with
  | some _ => s'
  | none => (s'.addMeter ⟨scope, some e, (s.provider e).freshBody⟩).updateProvider e fun q =>
      q.hold s.meters.next

/-- What a provider with the end `e` answers when it is asked for a meter. -/
def meterAnswer (s : Store) (e : ProviderRef) (scope : Scope) : Except Payload MeterRef :=
  match (s.provider e).refusal 0 (.meter scope) with
  | some payload => .error payload
  | none => .ok s.meters.next

/-- The store after the meter `t` was asked for an instrument: the probe of the provider that
issued `t` has counted the call, and unless it was refused, there is a new instrument, which `t`
and its issuer take notice of. -/
def giveInstrument (s : Store) (t : MeterRef) (request : Request) : Store :=
  let issuer := (s.meter t).issuer
  let s' := s.updateIssuer issuer Provider.probed
  match s.instrumentRefusal issuer request with
  | some _ => s'
  | none => ((s'.updateIssuer issuer fun p => p.keepRequest request s.instruments.next).updateMeter t
      fun m => m.keepRequest request s.instruments.next).addInstrument
        ⟨request, t, (s.meter t).freshDestination⟩

/-- What a meter with the end `t` answers when it is asked for an instrument. -/
def instrumentAnswer (s : Store) (t : MeterRef) (request : Request) :
    Except Payload InstrumentRef :=
  match s.instrumentRefusal (s.meter t).issuer request with
  | some payload => .error payload
  | none => .ok s.instruments.next

/-- The store in which a call has returned, unless it was refused. -/
def noteReturn {α : Type} (s : Store) (answer : Except Payload α) (returned : α → Call) : Store :=
  match answer with
  | .ok a => s.note (returned a)
  | .error _ => s

/-- The store after `p`, with the end `e`, was asked for a meter. -/
def askMeter (s : Store) (p e : ProviderRef) (scope : Scope) : Store :=
  ((s.note (.meter p scope)).giveMeter e scope).noteReturn (s.meterAnswer e scope) .meterReturned

/-- The store after `m`, with the end `t`, was asked for an instrument. -/
def askInstrument (s : Store) (m t : MeterRef) (request : Request) : Store :=
  ((s.note (.instrument m request)).giveInstrument t request).noteReturn
    (s.instrumentAnswer t request) .instrumentReturned

/-- Nothing is shown of what the provider that issued the meter `t` is asked, if one did. -/
def QuietMeter (s : Store) (t : MeterRef) : Prop :=
  ∀ e, (s.meter t).issuer = some e → (s.provider e).Quiet

/-- The meter `t` is one that its issuer issues, if it has one. -/
def MeterFits (s : Store) (t : MeterRef) : Prop :=
  ∀ e, (s.meter t).issuer = some e → (s.provider e).Fits (s.meter t).body

end Store

theorem Shown.updateIssuer {s s' : Store} (h : Shown s s') (issuer : Option ProviderRef)
    (f : Provider → Provider) : Shown (s.updateIssuer issuer f) (s'.updateIssuer issuer f) := by
  cases issuer with
  | none => exact h
  | some e => exact h.updateProvider e f

theorem Shown.noteReturn {α : Type} {s s' : Store} (h : Shown s s') (answer : Except Payload α)
    (returned : α → Call) :
    Shown (s.noteReturn answer returned) (s'.noteReturn answer returned) := by
  cases answer with
  | ok a => exact h.note (returned a)
  | error payload => exact h

theorem ShownUnless.noteReturn {α : Type} {quiet : Prop} {s s' : Store} (h : ShownUnless quiet s s')
    (answer : Except Payload α) (returned : α → Call) :
    ShownUnless quiet (s.noteReturn answer returned) (s'.noteReturn answer returned) :=
  h.map (f := fun s => s.noteReturn answer returned) (h.shown.noteReturn answer returned)

namespace Op

/-- The result that an answer of a backend makes: a refusal is a panic. -/
def answering {α : Type} (answer : Except Payload α) (s : Store) : EStateM.Result Halt Store α :=
  match answer with
  | .ok a => .ok a s
  | .error payload => .error (.panic payload) s

/-- Writing down what a request returned. -/
theorem answering_bind {α : Type} {op : Op α} {answer : Except Payload α} {s s' : Store}
    (returned : α → Call) (h : op s = answering answer s') :
    (op >>= fun a => note (returned a) >>= fun _ => pure a) s =
      answering answer (s'.noteReturn answer returned) := by
  rw [bind_run, h]
  cases answer <;> rfl

theorem panicIf_of_some {x : Option Payload} {payload : Payload} (h : x = some payload)
    (s : Store) :
    panicIf x s = .error (.panic payload) s := by
  rw [h]
  rfl

theorem panicIf_of_none {x : Option Payload} (h : x = none) (s : Store) :
    panicIf x s = .ok () s := by
  rw [h]
  rfl

/-- A probe that is asked for a meter shows the call, counts it, and then panics or not. -/
theorem probeMeter_run {r : ProviderRef} {q : RecordingProvider} (scope : Scope) {s : Store}
    (hq : s.provider r = .recording q) :
    ∃ s', ShownUnless (q.probe = none) (s.updateProvider r Provider.probed) s' ∧
      probeMeter r q scope s = panicIf ((Provider.recording q).refusal 0 (.meter scope)) s' := by
  cases hprobe : q.probe with
  | none =>
      refine ⟨s, ?_, by simp [probeMeter, Provider.refusal, hprobe, panicIf]⟩
      rw [s.updateProvider_eq_self (by simp [hq, Provider.probed, hprobe])]
      exact .refl s
  | some probe =>
      rw [s.updateProvider_congr (g := Provider.countCall) (by simp [hq, Provider.probed, hprobe])]
      let s₁ := (s.updateProvider r Provider.countCall).see (.meterAsked probe.label scope)
      have h₁ : Shown (s.updateProvider r Provider.countCall) s₁ := Shown.see _ _ rfl
      have hrefusal : (Provider.recording q).refusal 0 (.meter scope) =
          probe.panicsForMeter q.asked scope := by simp [Provider.refusal, hprobe]
      rw [hrefusal]
      cases hpeek : probe.peek.bind s₁.directory.registrations.get? with
      | none =>
          refine ⟨s₁, .loud h₁ (by simp), ?_⟩
          simp only [probeMeter, hprobe, bind_run, modify_run, see_run, get_run]
          rw [hpeek]
      | some o =>
          obtain ⟨id, s₂, hrun, h₂⟩ := identify_registered o s₁
          have hshown := (h₁.trans h₂).trans (Shown.see s₂ (.peeked id) rfl)
          refine ⟨s₂.see (.peeked id), .loud hshown (by simp), ?_⟩
          simp only [probeMeter, hprobe, bind_run, modify_run, see_run, get_run]
          rw [hpeek]
          simp only [bind_run, get_run]
          rw [hrun]
          rfl

/-- A request for a meter that gets to the provider `e`. -/
theorem issueMeter_run (e : ProviderRef) (scope : Scope) (s : Store) :
    ∃ s', ShownUnless (s.provider e).Quiet (s.giveMeter e scope) s' ∧
      issueMeter e scope s = answering (s.meterAnswer e scope) s' := by
  have hprobed : (s.provider e).probed = s.provider e →
      s.updateProvider e Provider.probed = s := s.updateProvider_eq_self
  unfold Store.giveMeter Store.meterAnswer
  rw [issueMeter, bind_of_ok (get_run s)]
  cases hq : s.provider e with
  | noop =>
      rw [hprobed (by simp [hq, Provider.probed])]
      have hself : (s.addMeter ⟨scope, some e, .noop⟩).provider e = .noop := hq
      refine ⟨_, .refl _, ?_⟩
      simp only [Provider.refusal, Provider.freshBody]
      rw [Store.updateProvider_eq_self _ (by simp [hself, Provider.hold])]
      rfl
  | recording q =>
      obtain ⟨s', hs', hrun⟩ := probeMeter_run scope hq
      simp only [bind_run]
      rw [hrun]
      cases hrefusal : (Provider.recording q).refusal 0 (.meter scope) with
      | some payload =>
          refine ⟨s', hs', ?_⟩
          rw [panicIf_of_some rfl]
          rfl
      | none =>
          refine ⟨_, (hs'.addMeter _).updateProvider e _, ?_⟩
          rw [panicIf_of_none rfl]
          have hnext : s'.meters.next = s.meters.next := congrArg Table.next hs'.shown.meters
          rw [← hnext]
          rfl
  | deferred q =>
      rw [hprobed (by simp [hq, Provider.probed])]
      exact ⟨_, .refl _, rfl⟩
  | sdk q =>
      rw [hprobed (by simp [hq, Provider.probed])]
      have hself : (s.addMeter ⟨scope, some e, .sdk⟩).provider e = .sdk q := hq
      simp only [Provider.refusal, Provider.freshBody]
      rw [Store.updateProvider_eq_self _ (by simp [hself, Provider.hold])]
      exact ⟨_, .loud ((Shown.see s (.sdkMeter q.label scope) rfl).addMeter _)
        (by simp [Provider.Quiet]), rfl⟩

/-- Asking a provider for a meter: the request goes to the end `e` of the chain. -/
theorem requestMeter_run {p e : ProviderRef} (scope : Scope) {s : Store}
    (he : s.providerEnd? p = some e) :
    ∃ s', ShownUnless (s.provider e).Quiet (s.askMeter p e scope) s' ∧
      requestMeter p scope s = answering (s.meterAnswer e scope) s' := by
  obtain ⟨s', hs', hrun⟩ := issueMeter_run e scope (s.note (.meter p scope))
  refine ⟨_, hs'.noteReturn (s.meterAnswer e scope) .meterReturned, ?_⟩
  have hend : (s.note (.meter p scope)).providerEnd? p = some e := he
  rw [requestMeter, bind_of_ok (note_run _ s), bind_of_ok (providerEnd_of_some hend)]
  exact answering_bind .meterReturned hrun

/-- A chain without an end makes a request for a meter wait. -/
theorem requestMeter_of_none {p : ProviderRef} (scope : Scope) {s : Store}
    (he : s.providerEnd? p = none) :
    requestMeter p scope s = .error .waiting (s.note (.meter p scope)) := by
  have hend : (s.note (.meter p scope)).providerEnd? p = none := he
  rw [requestMeter, bind_of_ok (note_run _ s), bind_of_error (providerEnd_of_none hend)]

/-! ## Instruments -/

theorem updateIssuer_eq_self {s : Store} {issuer : Option ProviderRef} {f : Provider → Provider}
    (h : ∀ e, issuer = some e → f (s.provider e) = s.provider e) : s.updateIssuer issuer f = s := by
  cases issuer with
  | none => rfl
  | some e => exact s.updateProvider_eq_self (h e rfl)

theorem keepRequest_of_fits {p : Provider} {body : MeterBody} (request : Request)
    (j : InstrumentRef) (h : p.Fits body) (hbody : body ≠ .sdk) : p.keepRequest request j = p := by
  unfold Provider.keepRequest
  cases request.callback with
  | none => rfl
  | some c =>
      cases h with
      | sdk q => exact absurd rfl hbody
      | _ => rfl

theorem probed_of_fits {p : Provider} {body : MeterBody} (h : p.Fits body)
    (hbody : ∀ m, body ≠ .recording m) : p.probed = p := by
  cases h with
  | recording q m => exact absurd rfl (hbody m)
  | _ => rfl

/-- A probe whose meter is asked for an instrument shows the call, counts it, and then panics or
not. -/
theorem probeInstrument_run {r : ProviderRef} {q : RecordingProvider} (request : Request)
    {s : Store} (hq : s.provider r = .recording q) :
    ∃ s', ShownUnless (q.probe = none) (s.updateProvider r Provider.probed) s' ∧
      probeInstrument r request s =
        panicIf ((Provider.recording q).refusal 0 (.instrument request)) s' := by
  rw [probeInstrument, bind_of_ok (get_run s), hq]
  cases hprobe : q.probe with
  | none =>
      refine ⟨s, ?_, by simp [Provider.refusal, hprobe, panicIf]⟩
      rw [s.updateProvider_eq_self (by simp [hq, Provider.probed, hprobe])]
      exact .refl s
  | some probe =>
      rw [s.updateProvider_congr (g := Provider.countCall) (by simp [hq, Provider.probed, hprobe])]
      refine ⟨_, .loud (.see _ (.instrumentAsked probe.label request.kind request.descriptor) rfl)
        (by simp), ?_⟩
      simp only [bind_run, modify_run, see_run, Provider.refusal, hprobe, Option.bind_some,
        Nat.add_zero]

/-- An SDK that is asked for an instrument shows the call, and either rejects it or keeps its
callback. -/
theorem requestFromSdk_run {r : ProviderRef} {q : SdkProvider} (request : Request) {s : Store}
    (hq : s.provider r = .sdk q) :
    requestFromSdk r request s =
      (panicIf ((Provider.sdk q).refusal 0 (.instrument request)) >>= fun _ =>
        modify fun s => s.updateProvider r fun p => p.keepRequest request s.instruments.next)
      (s.see (.sdkInstrument q.label request.kind.sdkBuilder request.descriptor
        request.callback.isSome)) := by
  rw [requestFromSdk, bind_of_ok (get_run s), hq]
  simp only [bind_run, see_run, Provider.refusal]
  cases (q.rejects request.descriptor.name).map rejection with
  | some payload => rfl
  | none =>
      rw [panicIf_of_none rfl]
      cases hc : request.callback with
      | none =>
          simp only [modify_run, pure_run, Provider.keepRequest, hc]
          rw [Store.updateProvider_eq_self _ rfl]
      | some c => simp only [bind_run, get_run, modify_run, Provider.keepRequest, hc]

/-- Meters that discard or wait refuse nothing. -/
theorem instrumentRefusal_eq_none {s : Store} {t : MeterRef} (request : Request)
    (hfits : s.MeterFits t) (hrecording : ∀ m, (s.meter t).body ≠ .recording m)
    (hsdk : (s.meter t).body ≠ .sdk) :
    s.instrumentRefusal (s.meter t).issuer request = none := by
  rw [Store.instrumentRefusal, Option.bind_eq_none_iff]
  intro e he
  have hfit := hfits e he
  generalize s.provider e = p at hfit
  cases hbody : (s.meter t).body with
  | noop =>
      rw [hbody] at hfit
      cases hfit
      rfl
  | deferred d =>
      rw [hbody] at hfit
      cases hfit
      rfl
  | recording m => exact absurd hbody (hrecording m)
  | sdk => exact absurd hbody hsdk

/-- Only meters of an SDK have their issuer keep something of a request. -/
theorem updateIssuer_keepRequest {s : Store} {t : MeterRef} (request : Request)
    (j : InstrumentRef) (hfits : s.MeterFits t) (hsdk : (s.meter t).body ≠ .sdk) :
    (s.updateIssuer (s.meter t).issuer Provider.probed).updateIssuer (s.meter t).issuer
        (fun p => p.keepRequest request j) =
      s.updateIssuer (s.meter t).issuer Provider.probed := by
  apply updateIssuer_eq_self
  intro e he
  have hprobed : (s.updateIssuer (s.meter t).issuer Provider.probed).provider e =
      if e = e ∧ s.providers.Has e then (s.provider e).probed else s.provider e := by
    rw [he]
    exact s.provider_updateProvider e e Provider.probed
  rw [hprobed]
  split
  · exact keepRequest_of_fits request j (Provider.fits_probed (hfits e he)) hsdk
  · exact keepRequest_of_fits request j (hfits e he) hsdk

section IssueInstrument

variable {s : Store} {t : MeterRef} (request : Request)

/-- Meters whose issuer is no recording provider count nothing there. -/
theorem updateIssuer_probed (hfits : s.MeterFits t)
    (hrecording : ∀ m, (s.meter t).body ≠ .recording m) :
    s.updateIssuer (s.meter t).issuer Provider.probed = s :=
  updateIssuer_eq_self fun e he => probed_of_fits (hfits e he) hrecording

/-- Meters that discard or wait refuse nothing, and nothing is counted or kept at their issuers. -/
theorem giveInstrument_of_fits (hfits : s.MeterFits t)
    (hrecording : ∀ m, (s.meter t).body ≠ .recording m) (hsdk : (s.meter t).body ≠ .sdk) :
    s.instrumentAnswer t request = .ok s.instruments.next ∧
      s.giveInstrument t request =
        (s.updateMeter t fun m => m.keepRequest request s.instruments.next).addInstrument
          ⟨request, t, (s.meter t).freshDestination⟩ := by
  have hnone := instrumentRefusal_eq_none request hfits hrecording hsdk
  constructor
  · rw [Store.instrumentAnswer, hnone]
  · rw [Store.giveInstrument, hnone]
    simp only
    rw [updateIssuer_keepRequest request _ hfits hsdk, updateIssuer_probed hfits hrecording]

theorem issueInstrument_of_noop (hfits : s.MeterFits t) (hbody : (s.meter t).body = .noop) :
    ∃ s', ShownUnless (s.QuietMeter t) (s.giveInstrument t request) s' ∧
      issueInstrument t request s = answering (s.instrumentAnswer t request) s' := by
  obtain ⟨hanswer, hgive⟩ :=
    giveInstrument_of_fits request hfits (by simp [hbody]) (by simp [hbody])
  rw [hanswer, hgive, Store.updateMeter_eq_self _ (by simp [Meter.keepRequest, hbody]),
    issueInstrument, bind_of_ok (get_run s)]
  simp only [Meter.freshDestination, hbody]
  exact ⟨_, .refl _, rfl⟩

theorem issueInstrument_of_deferred {d : DeferredMeter} (hfits : s.MeterFits t)
    (hbody : (s.meter t).body = .deferred d) :
    ∃ s', ShownUnless (s.QuietMeter t) (s.giveInstrument t request) s' ∧
      issueInstrument t request s = answering (s.instrumentAnswer t request) s' := by
  obtain ⟨hanswer, hgive⟩ :=
    giveInstrument_of_fits request hfits (by simp [hbody]) (by simp [hbody])
  rw [hanswer, hgive, Store.updateMeter_congr (g := fun m => m.hold s.instruments.next) _
      (by simp [Meter.keepRequest, hbody]),
    issueInstrument, bind_of_ok (get_run s)]
  simp only [Meter.freshDestination, hbody]
  exact ⟨_, .refl _, rfl⟩

/-- A recording meter has the probe of its issuer look at the request first. -/
theorem issueInstrument_of_recording {m : RecordingMeter} (hfits : s.MeterFits t)
    (hbody : (s.meter t).body = .recording m) :
    ∃ s', ShownUnless (s.QuietMeter t) (s.giveInstrument t request) s' ∧
      issueInstrument t request s = answering (s.instrumentAnswer t request) s' := by
  have hkeep : ∀ s' : Store, s'.meter t = s.meter t →
      (s'.updateMeter t fun m => m.keepRequest request s.instruments.next) =
        s'.updateMeter t fun m => m.noteCreated request.kind request.descriptor := by
    intro s' hs'
    exact s'.updateMeter_congr (by simp [Meter.keepRequest, hs', hbody])
  unfold Store.giveInstrument Store.instrumentAnswer
  rw [issueInstrument, bind_of_ok (get_run s)]
  simp only [hbody]
  rw [updateIssuer_keepRequest request _ hfits (by simp [hbody])]
  cases hissuer : (s.meter t).issuer with
  | none =>
      refine ⟨_, .refl _, ?_⟩
      simp only [Store.instrumentRefusal, Store.updateIssuer, Option.bind_none,
        Meter.freshDestination, hbody, hkeep s rfl]
      rfl
  | some e =>
      obtain ⟨p, hp⟩ := (hfits e hissuer).exists_recording hbody
      obtain ⟨s', hs', hrun⟩ := probeInstrument_run request hp
      have hquiet : s.QuietMeter t → p.probe = none := by
        intro h
        have hissued := h e hissuer
        rwa [hp] at hissued
      replace hs' := hs'.mono hquiet
      simp only [bind_run, Store.instrumentRefusal, Store.updateIssuer, Option.bind_some, hp]
      rw [hrun]
      cases (Provider.recording p).refusal 0 (.instrument request) with
      | some payload => exact ⟨s', hs', rfl⟩
      | none =>
          have hnext : s'.instruments.next = s.instruments.next :=
            congrArg Table.next hs'.shown.instruments
          refine ⟨_, (hs'.updateMeter t _).addInstrument _, ?_⟩
          rw [hkeep s' (hs'.shown.meter t), panicIf_of_none rfl, ← hnext]
          simp only [Meter.freshDestination, hbody]
          rfl

/-- A meter of an SDK has the SDK reject the request or keep its callback first. -/
theorem issueInstrument_of_sdk (hfits : s.MeterFits t) (hbody : (s.meter t).body = .sdk) :
    ∃ s', ShownUnless (s.QuietMeter t) (s.giveInstrument t request) s' ∧
      issueInstrument t request s = answering (s.instrumentAnswer t request) s' := by
  have hkeep : ∀ s' : Store, s'.meter t = s.meter t →
      (s'.updateMeter t fun m => m.keepRequest request s.instruments.next) = s' := by
    intro s' hs'
    exact s'.updateMeter_eq_self (by simp [Meter.keepRequest, hs', hbody])
  unfold Store.giveInstrument Store.instrumentAnswer
  rw [issueInstrument, bind_of_ok (get_run s)]
  simp only [hbody]
  rw [updateIssuer_probed hfits (by simp [hbody])]
  cases hissuer : (s.meter t).issuer with
  | none =>
      refine ⟨_, .refl _, ?_⟩
      simp only [Store.instrumentRefusal, Store.updateIssuer, Option.bind_none,
        Meter.freshDestination, hbody, hkeep s rfl]
      rfl
  | some e =>
      obtain ⟨p, hp⟩ := (hfits e hissuer).exists_sdk hbody
      have hrun := requestFromSdk_run request hp
      have hs' := Shown.see s (.sdkInstrument p.label request.kind.sdkBuilder request.descriptor
        request.callback.isSome) rfl
      generalize s.see (.sdkInstrument p.label request.kind.sdkBuilder request.descriptor
        request.callback.isSome) = s' at hrun hs'
      -- the SDK shows every request
      have hloud : ¬ s.QuietMeter t := by
        intro h
        have hissued := h e hissuer
        rwa [hp] at hissued
      simp only [bind_run, Store.instrumentRefusal, Store.updateIssuer, Option.bind_some, hp]
      rw [hrun]
      cases (Provider.sdk p).refusal 0 (.instrument request) with
      | some payload => exact ⟨s', .loud hs' hloud, rfl⟩
      | none =>
          have hnext : s'.instruments.next = s.instruments.next :=
            congrArg Table.next hs'.instruments
          refine ⟨_,
            .loud (((hs'.updateProvider e _).updateMeter t _).addInstrument _) hloud, ?_⟩
          rw [hkeep (s'.updateProvider e fun p => p.keepRequest request s.instruments.next)
            (hs'.meter t), ← hnext]
          simp only [Meter.freshDestination, hbody]
          rfl

/-- A request for an instrument that gets to the meter `t`. -/
theorem issueInstrument_run (t : MeterRef) {s : Store} (hfits : s.MeterFits t) :
    ∃ s', ShownUnless (s.QuietMeter t) (s.giveInstrument t request) s' ∧
      issueInstrument t request s = answering (s.instrumentAnswer t request) s' := by
  cases hbody : (s.meter t).body with
  | noop => exact issueInstrument_of_noop request hfits hbody
  | deferred d => exact issueInstrument_of_deferred request hfits hbody
  | recording m => exact issueInstrument_of_recording request hfits hbody
  | sdk => exact issueInstrument_of_sdk request hfits hbody

end IssueInstrument

/-- Asking a meter for an instrument: the request goes to the end `t` of the chain. -/
theorem requestInstrument_run {m t : MeterRef} (request : Request) {s : Store}
    (ht : s.meterEnd? m = some t) (hfits : s.MeterFits t) :
    ∃ s', ShownUnless (s.QuietMeter t) (s.askInstrument m t request) s' ∧
      requestInstrument m request s = answering (s.instrumentAnswer t request) s' := by
  obtain ⟨s', hs', hrun⟩ :=
    issueInstrument_run (s := s.note (.instrument m request)) request t hfits
  refine ⟨_, hs'.noteReturn (s.instrumentAnswer t request) .instrumentReturned, ?_⟩
  have hend : (s.note (.instrument m request)).meterEnd? m = some t := ht
  rw [requestInstrument, bind_of_ok (note_run _ s), bind_of_ok (meterEnd_of_some hend)]
  exact answering_bind .instrumentReturned hrun

/-- A chain without an end makes a request for an instrument wait. -/
theorem requestInstrument_of_none {m : MeterRef} (request : Request) {s : Store}
    (ht : s.meterEnd? m = none) :
    requestInstrument m request s = .error .waiting (s.note (.instrument m request)) := by
  have hend : (s.note (.instrument m request)).meterEnd? m = none := ht
  rw [requestInstrument, bind_of_ok (note_run _ s), bind_of_error (meterEnd_of_none hend)]

end Op

end DeferredMetrics
