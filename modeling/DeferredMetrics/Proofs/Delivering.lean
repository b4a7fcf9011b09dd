import DeferredMetrics.Proofs.Orders

set_option autoImplicit false

/-! # Asking an SDK on behalf of others

Every operation that asks for objects or binds them keeps an SDK's orders in step with what its
provider issues, whoever asks (`Delivers`). So it holds of binding a deferred provider to an SDK,
which asks for all that was issued before, in the place of those who asked then
(`Op.delivers_bindProvider`), and of registering the SDK (`Op.delivers_setProvider`). -/

namespace DeferredMetrics

open Relation (ReflTransGen)

/-- Whatever was asked of the SDK behind `p` between the stores was for an object that `p` has
issued; no SDK got a sample or read a measurement, and no callback was called. -/
structure Delivers (p : ProviderRef) (label : String) (s s' : Store) : Prop where
  remains : Remains s s'
  issuers : IssuersKnown s s'
  callbacks : s'.callbacks = s.callbacks
  uses : s'.uses = s.uses
  accepts : s.Accepts p label → s'.Accepts p label
  orders : ∃ xs, s.Orders s' p label xs

/-- An SDK keeps the callback of a request, if there is one. -/
theorem Provider.keepRequest_sdk (q : SdkProvider) (request : Request) (j : InstrumentRef) :
    (Provider.sdk q).keepRequest request j = .sdk { q with callbacks := q.callbacks ++
      (request.callback.map fun c => ⟨j, request.descriptor.name, c⟩).toList } := by
  cases hc : request.callback <;> simp [keepRequest, hc, holdCallback]

theorem IssuersKnown.trans {s s' s'' : Store} (h : IssuersKnown s s') (h' : IssuersKnown s' s'')
    (hremains : Remains s' s'') : IssuersKnown s s'' := by
  intro j hj hnew
  by_cases hold : s'.instruments.Has j
  · rw [show (s''.instrument j).issuer = (s'.instrument j).issuer from
      (hremains.instruments j hold).2.issuer]
    exact (hremains.meters _ (h j hold hnew)).1
  · exact h' j hj hold

namespace Delivers

variable {p : ProviderRef} {label : String} {s s' s'' : Store}

theorem trans (h : Delivers p label s s') (h' : Delivers p label s' s'') :
    Delivers p label s s'' := by
  obtain ⟨xs, hxs⟩ := h.orders
  obtain ⟨ys, hys⟩ := h'.orders
  exact ⟨h.remains.trans h'.remains, h.issuers.trans h'.issuers h'.remains,
    h'.callbacks.trans h.callbacks, h'.uses.trans h.uses, fun ha => h'.accepts (h.accepts ha),
    _, hxs.trans hys h.remains h'.remains h.issuers⟩

/-- Nothing is new, and nothing was asked for. -/
theorem of_same (hremains : Remains s s') (hmeters : ∀ m, s'.meters.Has m → s.meters.Has m)
    (hinstruments : ∀ j, s'.instruments.Has j → s.instruments.Has j)
    (hprovider : s'.provider p = s.provider p) (hcallbacks : s'.callbacks = s.callbacks)
    (hrequests : s'.shownRequests = s.shownRequests) (huses : s'.uses = s.uses) :
    Delivers p label s s' where
  remains := hremains
  issuers j hj hnew := absurd (hinstruments j hj) hnew
  callbacks := hcallbacks
  uses := huses
  accepts ha := by rwa [Store.Accepts, hprovider]
  orders :=
    ⟨[], .none (Store.not_new hmeters hinstruments) hrequests (congrArg Provider.kept hprovider)⟩

theorem of_eq (hproviders : s'.providers = s.providers) (hmeters : s'.meters = s.meters)
    (hinstruments : s'.instruments = s.instruments) (hcallbacks : s'.callbacks = s.callbacks)
    (hrequests : s'.shownRequests = s.shownRequests) (huses : s'.uses = s.uses) :
    Delivers p label s s' :=
  of_same (.of_eq hmeters hinstruments) (fun _ h => hmeters ▸ h) (fun _ h => hinstruments ▸ h)
    (congrArg (Table.get · p) hproviders) hcallbacks hrequests huses

theorem refl (s : Store) : Delivers p label s s := of_eq rfl rfl rfl rfl rfl rfl

theorem of_path (h : ReflTransGen (Delivers p label) s s') : Delivers p label s s' := by
  induction h with
  | refl => exact refl s
  | tail _ hstep ih => exact ih.trans hstep

theorem note (s : Store) (c : Call) : Delivers p label s (s.note c) := of_eq rfl rfl rfl rfl rfl rfl

theorem log (s : Store) (m : Message) : Delivers p label s (s.log m) :=
  of_eq rfl rfl rfl rfl (by simp [Store.shownRequests, Store.log, Store.see, Event.isRequest])
    (by simp [Store.uses, Store.log, Store.see, Event.isUse])

theorem updateMeter (r : MeterRef) {f : Meter → Meter} (hf : ∀ m : Meter, m.Remains (f m)) :
    Delivers p label s (s.updateMeter r f) :=
  of_same ⟨.update Meter.Remains.refl (hf _), .refl Instrument.Remains.refl _⟩
    (fun _ h => (Table.has_update _ _ _ _).1 h) (fun _ h => h) rfl rfl rfl rfl

theorem updateInstrument (r : InstrumentRef) {f : Instrument → Instrument}
    (hf : ∀ i : Instrument, i.Remains (f i)) : Delivers p label s (s.updateInstrument r f) :=
  of_same ⟨.refl Meter.Remains.refl _, .update Instrument.Remains.refl (hf _)⟩ (fun _ h => h)
    (fun _ h => (Table.has_update _ _ _ _).1 h) rfl rfl rfl rfl

theorem updateProvider {r : ProviderRef} (hr : r ≠ p) (f : Provider → Provider) :
    Delivers p label s (s.updateProvider r f) :=
  of_same (.of_eq rfl rfl) (fun _ h => h) (fun _ h => h)
    (Table.get_update_of_ne _ _ hr) rfl rfl rfl

theorem updateRegistration (r : RegistrationRef) (f : Registration → Registration) :
    Delivers p label s (s.updateRegistration r f) := of_eq rfl rfl rfl rfl rfl rfl

theorem bindInstrument (i j : InstrumentRef) : Delivers p label s (s.bindInstrument i j) := by
  unfold Store.bindInstrument
  split
  · exact log s _
  · exact updateInstrument i fun x => x.remains_bind j

/-! ### New objects -/

/-- There is a new meter of another provider. -/
theorem addMeter {m : Meter} (hm : m.issuer ≠ some p) : Delivers p label s (s.addMeter m) where
  remains := ⟨.add Meter.Remains.refl _ _, .refl Instrument.Remains.refl _⟩
  issuers j hj hnew := absurd hj hnew
  callbacks := rfl
  uses := rfl
  accepts ha := ha
  orders := by
    refine ⟨[], .none (fun x hx => ?_) rfl rfl⟩
    cases x with
    | meter t =>
        obtain rfl := ((Table.has_add _ _ _).1 hx.known).resolve_left hx.new
        refine hm (Eq.trans ?_ hx.issuer)
        exact congrArg Meter.issuer (Table.get_add_next s.meters m).symm
    | instrument j => exact hx.new hx.known

/-- The SDK shows a request for a meter, and then there is that meter. -/
theorem addMeter_of_sdk (scope : Scope) :
    Delivers p label s ((s.see (.sdkMeter label scope)).addMeter ⟨scope, some p, .sdk⟩) where
  remains := ⟨.add Meter.Remains.refl _ _, .refl Instrument.Remains.refl _⟩
  issuers j hj hnew := absurd hj hnew
  callbacks := rfl
  uses := by simp [Store.uses, Store.see, Store.addMeter, Event.isUse]
  accepts ha := ha
  orders := by
    have hrow : ((s.see (.sdkMeter label scope)).addMeter ⟨scope, some p, .sdk⟩).meter
        s.meters.next = ⟨scope, some p, .sdk⟩ := Table.get_add_next s.meters _
    refine ⟨[.meter s.meters.next], .one (fun x => ⟨fun hx => ?_, ?_⟩) ?_
      (List.append_nil _).symm⟩
    · cases x with
      | meter t =>
          exact congrArg Issue.meter (((Table.has_add _ _ _).1 hx.known).resolve_left hx.new)
      | instrument j => exact absurd hx.known hx.new
    · rintro rfl
      refine ⟨Table.has_next_add _ _, fun h => Table.ne_next_of_has h rfl, ?_⟩
      rw [hrow]
    · rw [Store.order, hrow]
      simp [Store.shownRequests, Store.see, Store.addMeter, Event.isRequest]

/-- There is a new instrument of a meter of another provider. -/
theorem addInstrument {i : Instrument} {e : ProviderRef} (he : e ≠ p)
    (hissuer : (s.meter i.issuer).issuer = some e) : Delivers p label s (s.addInstrument i) where
  remains := ⟨.refl Meter.Remains.refl _, .add Instrument.Remains.refl _ _⟩
  issuers j hj hnew := by
    obtain rfl := ((Table.has_add _ _ _).1 hj).resolve_left hnew
    rw [show (s.addInstrument i).instrument s.instruments.next = i from Table.get_add_next _ _]
    exact Store.has_of_meterIssuer hissuer
  callbacks := rfl
  uses := rfl
  accepts ha := ha
  orders := by
    refine ⟨[], .none (fun x hx => ?_) rfl rfl⟩
    cases x with
    | meter t => exact hx.new hx.known
    | instrument j =>
        obtain rfl := ((Table.has_add _ _ _).1 hx.known).resolve_left hx.new
        have hp := hx.issuer
        rw [show (s.addInstrument i).instrument s.instruments.next = i from
          Table.get_add_next _ _] at hp
        exact he (Option.some.inj (hissuer.symm.trans hp))

/-- The SDK shows a request for an instrument and keeps its callback, and then there is that
instrument. -/
theorem addInstrument_of_sdk {t : MeterRef} (hissuer : (s.meter t).issuer = some p)
    (haccepts : s.Accepts p label) (request : Request) :
    Delivers p label s (((s.see (.sdkInstrument label request.kind.sdkBuilder request.descriptor
      request.callback.isSome)).updateProvider p fun q =>
        q.keepRequest request s.instruments.next).addInstrument ⟨request, t, .sdk⟩) := by
  have hknown := haccepts.known
  obtain ⟨q, hq, hlabel, hrejects⟩ := haccepts
  -- the store gets a name, as each part of the statement needs only a row or a table of it
  generalize hs' : ((s.see (.sdkInstrument label request.kind.sdkBuilder request.descriptor
      request.callback.isSome)).updateProvider p fun q =>
        q.keepRequest request s.instruments.next).addInstrument ⟨request, t, .sdk⟩ = s'
  have hprovider : s'.provider p = .sdk { q with callbacks := q.callbacks ++
      (request.callback.map fun c =>
        ⟨s.instruments.next, request.descriptor.name, c⟩).toList } := by
    rw [← Provider.keepRequest_sdk, ← hq, ← hs']
    exact Table.get_update_self _ _ hknown
  have hrow : s'.instrument s.instruments.next = ⟨request, t, .sdk⟩ := by
    rw [← hs']
    exact Table.get_add_next _ _
  have hmeters : s'.meters = s.meters := by rw [← hs']; rfl
  have hhas : ∀ j, s'.instruments.Has j ↔ s.instruments.Has j ∨ j = s.instruments.next := by
    rw [← hs']
    exact Table.has_add _ _
  refine ⟨⟨?_, ?_⟩, fun j hj hnew => ?_, by rw [← hs']; rfl, ?_, fun _ => ?_, ?_⟩
  · rw [hmeters]
    exact .refl Meter.Remains.refl _
  · rw [← hs']
    exact .add Instrument.Remains.refl _ _
  · obtain rfl := ((hhas j).1 hj).resolve_left hnew
    rw [hrow, hmeters]
    exact Store.has_of_meterIssuer hissuer
  · rw [← hs']
    simp [Store.uses, Store.see, Store.addInstrument, Store.updateProvider, Event.isUse]
  · exact ⟨_, hprovider, hlabel, hrejects⟩
  · refine ⟨[.instrument s.instruments.next], .one (fun x => ⟨fun hx => ?_, ?_⟩) ?_ ?_⟩
    · cases x with
      | meter m => exact absurd (hmeters ▸ hx.known) hx.new
      | instrument j =>
          exact congrArg Issue.instrument (((hhas j).1 hx.known).resolve_left hx.new)
    · rintro rfl
      refine ⟨(hhas _).2 (.inr rfl), fun h => Table.ne_next_of_has h rfl, ?_⟩
      rw [hrow, Store.meter, hmeters]
      exact hissuer
    · rw [Store.order, hrow, ← hs']
      simp [Store.shownRequests, Store.see, Store.addInstrument, Store.updateProvider,
        Event.isRequest]
    · rw [Store.entrusted, hrow, hprovider, hq]
      rfl

end Delivers

namespace Op

variable {p : ProviderRef} {label : String} {s : Store}

/-- A request for a meter that gets to `p`, or to a deferred provider. -/
theorem delivers_issueMeter {e : ProviderRef} (haccepts : s.Accepts p label)
    (he : e = p ∨ (s.provider e).isDeferred = true) (scope : Scope) :
    Goes (Delivers p label) (issueMeter e scope) s fun m s' =>
      (s'.meter m).issuer = some e ∧ (e = p → (s'.meter m).body = .sdk) := by
  obtain ⟨q, hq, hlabel, _⟩ := haccepts
  have hgot : ∀ s₁ : Store, ∀ body : MeterBody,
      ((s₁.addMeter ⟨scope, some e, body⟩).meter s₁.meters.next).issuer = some e ∧
        ((s₁.addMeter ⟨scope, some e, body⟩).meter s₁.meters.next).body = body := by
    intro s₁ body
    rw [show (s₁.addMeter ⟨scope, some e, body⟩).meter s₁.meters.next = _ from
      Table.get_add_next _ _]
    exact ⟨rfl, rfl⟩
  refine goes_get_bind ?_
  by_cases hep : e = p
  · subst hep
    rw [hq]
    refine goes_of_ok rfl (.single (hlabel ▸ .addMeter_of_sdk scope)) ?_
    exact ⟨(hgot _ _).1, fun _ => (hgot _ _).2⟩
  · have hdeferred := he.resolve_left hep
    cases hx : s.provider e with
    | deferred x =>
        refine goes_of_ok rfl (.tail (.single (.addMeter ?_)) (.updateProvider hep _)) ?_
        · exact fun h => hep (Option.some.inj h)
        · exact ⟨(hgot _ _).1, fun h => absurd h hep⟩
    | _ =>
        rw [hx] at hdeferred
        cases hdeferred

/-- A provider whose chain ends at `p` or at a deferred provider is asked for a meter. -/
theorem delivers_requestMeter {q e : ProviderRef} (haccepts : s.Accepts p label)
    (hend : s.providerEnd? q = some e) (he : e = p ∨ (s.provider e).isDeferred = true)
    (scope : Scope) :
    Goes (Delivers p label) (requestMeter q scope) s fun m s' =>
      (s'.meter m).issuer = some e ∧ (e = p → (s'.meter m).body = .sdk) := by
  let s₁ := s.note (.meter q scope)
  have hended : Goes (Delivers p label) (providerEnd q) s₁ fun x s' => x = e ∧ s' = s₁ :=
    goes_of_ok (providerEnd_of_some (s := s₁) hend) .refl ⟨rfl, rfl⟩
  have hissued : Goes (Delivers p label) (issueMeter e scope) s₁ _ :=
    delivers_issueMeter (s := s₁) haccepts he scope
  refine goes_modify_bind (.note s _) (hended.bind ?_)
  rintro _ _ _ ⟨rfl, rfl⟩
  exact hissued.bind fun m s' _ hm => goes_modify_bind (.note s' _) (goes_pure hm)

/-- A request for an instrument that gets to a meter of the SDK. -/
theorem delivers_issueInstrument_of_sdk {t : MeterRef} (haccepts : s.Accepts p label)
    (hissuer : (s.meter t).issuer = some p) (hbody : (s.meter t).body = .sdk) (request : Request) :
    Goes (Delivers p label) (issueInstrument t request) s Anything := by
  have hdone := Delivers.addInstrument_of_sdk hissuer haccepts request
  obtain ⟨q, hq, rfl, hrejects⟩ := haccepts
  have hwilling : (Provider.sdk q).refusal 0 (.instrument request) = none :=
    congrArg (Option.map rejection) (hrejects request.descriptor.name)
  refine goes_of_ok (a := s.instruments.next) ?_ (.single hdone) trivial
  rw [issueInstrument, bind_of_ok (get_run s), hbody, hissuer]
  simp only [bind_run]
  rw [requestFromSdk_run request hq, hwilling]
  rfl

/-- A request for an instrument that gets to a deferred meter of another provider. -/
theorem delivers_issueInstrument_of_deferred {t : MeterRef} {e : ProviderRef} (he : e ≠ p)
    (hissuer : (s.meter t).issuer = some e) (hbody : (s.meter t).body.isDeferred = true)
    (request : Request) : Goes (Delivers p label) (issueInstrument t request) s Anything := by
  refine goes_get_bind ?_
  simp only
  cases hx : (s.meter t).body with
  | deferred d =>
      refine goes_of_ok rfl (.tail (.single ?_) (.updateMeter t fun m => m.remains_hold _))
        trivial
      exact .addInstrument (i := ⟨request, t, .deferred none⟩) he hissuer
  | _ =>
      rw [hx] at hbody
      cases hbody

theorem delivers_requestInstrument {m t : MeterRef} (hend : s.meterEnd? m = some t)
    (request : Request)
    (hissues : ∀ c, Goes (Delivers p label) (issueInstrument t request) (s.note c) Anything) :
    Goes (Delivers p label) (requestInstrument m request) s Anything := by
  let s₁ := s.note (.instrument m request)
  have hended : Goes (Delivers p label) (meterEnd m) s₁ fun x s' => x = t ∧ s' = s₁ :=
    goes_of_ok (meterEnd_of_some (s := s₁) hend) .refl ⟨rfl, rfl⟩
  refine goes_modify_bind (.note s _) (hended.bind ?_)
  rintro _ _ _ ⟨rfl, rfl⟩
  exact (hissues _).bind fun i s' _ _ => goes_modify_bind (.note s' _) (goes_pure trivial)

/-! ## Binding -/

/-- What an isolated operation does, and that its child is reported. -/
theorem goes_isolated {R : Store → Store → Prop} {child : ChildKind} {name : String} {op : Op Unit}
    (h : Goes R op s Anything) (hlog : ∀ s m, R s (s.log m)) :
    Goes R (isolated child name op) s Anything := by
  unfold Goes at h
  cases hrun : op s with
  | ok a s' =>
      rw [hrun] at h
      exact goes_of_ok (isolated_of_ok hrun) h.1 trivial
  | error halt s' =>
      rw [hrun] at h
      cases halt with
      | panic payload => exact goes_of_ok (isolated_of_panic hrun) (.tail h (hlog _ _)) trivial
      | waiting => exact goes_of_error (isolated_of_error hrun nofun) h
      | unnamed x => exact goes_of_error (isolated_of_error hrun nofun) h

/-- What is done for each child, one after the other. -/
theorem goes_countIsolated {α : Type} {R : Store → Store → Prop} {child : ChildKind}
    {name : α → Op String} {op : α → Op Unit} {xs : List α}
    (hname : ∀ x s, ∃ n, name x s = .ok n s) (hlog : ∀ s m, R s (s.log m))
    (hop : ∀ x ∈ xs, ∀ s', ReflTransGen R s s' → Goes R (op x) s' Anything) :
    Goes R (countIsolated child name op xs) s Anything := by
  induction xs generalizing s with
  | nil => exact goes_pure trivial
  | cons x xs ih =>
      obtain ⟨n, hn⟩ := hname x s
      rw [countIsolated]
      refine (goes_of_ok hn .refl (rfl : s = s)).bind (Q := fun _ s' => s = s') ?_
      rintro n s' _ rfl
      refine (goes_isolated (hop x List.mem_cons_self s .refl) hlog).bind fun done s₁ hpath _ => ?_
      refine (ih fun y hy s' hs' => hop y (List.mem_cons_of_mem x hy) s' (hpath.trans hs')).bind ?_
      exact fun _ _ _ _ => goes_pure trivial

/-- An instrument is bound to a new one of a meter of the SDK. -/
theorem delivers_bindInstrument {t : MeterRef} (haccepts : s.Accepts p label)
    (hissuer : (s.meter t).issuer = some p) (hbody : (s.meter t).body = .sdk) (i : InstrumentRef) :
    Goes (Delivers p label) (bindInstrument t i) s Anything := by
  have hend : s.meterEnd? t = some t :=
    Store.meterEnd?_eq_some.2 (endsAt_self (by simp [Meter.target?, hbody]))
  refine goes_modify_bind (.note s _) (goes_get_bind ?_)
  refine (delivers_requestInstrument (s := s.note _) hend _ fun _ => ?_).bind fun j s' _ _ => ?_
  · exact delivers_issueInstrument_of_sdk (s := (s.note _).note _) haccepts hissuer hbody _
  · exact goes_modify (.bindInstrument i j) trivial

/-- A meter is bound to one of the SDK. -/
theorem delivers_bindMeter {m t : MeterRef} (haccepts : s.Accepts p label)
    (hissuer : (s.meter t).issuer = some p) (hbody : (s.meter t).body = .sdk) :
    Goes (Delivers p label) (bindMeter m t) s Anything := by
  refine goes_modify_bind (.note s _) (goes_get_bind ?_)
  simp only
  split
  · exact goes_modify (.log _ _) trivial
  · refine (goes_countIsolated (fun i s => ⟨_, instrumentName_run i s⟩) .log ?_).bind ?_
    · intro i _ s' hpath
      -- the meter stays one of the SDK while its instruments are asked for
      have hdone : Delivers p label s s' := .trans (.note s _) (.of_path hpath)
      exact delivers_bindInstrument (hdone.accepts haccepts) (hdone.remains.issuer hissuer)
        (hdone.remains.sdk hbody) i
    · intro _ s' _ _
      exact goes_modify_bind (.updateMeter m fun x => x.remains_bind t)
        (goes_modify (.log _ _) trivial)

/-- A provider that waits is bound to the SDK, and everything below it. -/
theorem delivers_bindProvider {d : ProviderRef} (haccepts : s.Accepts p label) (hd : d ≠ p) :
    Goes (Delivers p label) (bindProvider d p) s Anything := by
  refine goes_modify_bind (.note s _) (goes_get_bind ?_)
  simp only
  split
  · exact goes_modify (.log _ _) trivial
  · refine goes_modify_bind (.updateProvider hd _) ?_
    refine (goes_countIsolated (fun m s => ⟨_, meterName_run m s⟩) .log ?_).bind ?_
    · intro m _ s' hpath
      -- each meter asks for itself, and finds the SDK as willing as the first one did
      have hdone : Delivers p label s s' :=
        .trans (.trans (.note s _) (.updateProvider hd _)) (.of_path hpath)
      have haccepts' := hdone.accepts haccepts
      refine goes_get_bind ?_
      refine (delivers_requestMeter haccepts' haccepts'.providerEnd? (.inl rfl) _).bind ?_
      rintro t s₁ hpath₁ ⟨hissuer, hbody⟩
      exact delivers_bindMeter ((Delivers.of_path hpath₁).accepts haccepts') hissuer (hbody rfl)
    · exact fun _ s' _ _ => goes_modify (.log _ _) trivial

/-- A registration takes the SDK. -/
theorem delivers_setProvider {r : RegistrationRef} {s' : Store} {installed : Bool}
    (haccepts : s.Accepts p label) (hd : (s.registration r).deferred ≠ p)
    (hrun : setProvider r p s = .ok installed s') : Delivers p label s s' := by
  cases hgate : (s.gate r).fired with
  | true =>
      cases hrun.symm.trans (setProvider_of_fired p hgate)
      exact .log s _
  | false =>
      have hwritten : Delivers p label s (s.writeProvider r p) := .updateRegistration r _
      have hgoes := delivers_bindProvider (hwritten.accepts haccepts) hd
      cases hbind : bindProvider (s.registration r).deferred p (s.writeProvider r p) with
      | error halt s₁ => cases hrun.symm.trans (install_of_halt false hgate hbind)
      | ok a s₁ =>
          cases hrun.symm.trans (install_of_bind false hgate hbind)
          have hbound := Delivers.of_path (left_of_ok hbind ▸ hgoes.path)
          exact ((hwritten.trans hbound).trans (.log _ _)).trans (.updateRegistration r _)

end Op

end DeferredMetrics
