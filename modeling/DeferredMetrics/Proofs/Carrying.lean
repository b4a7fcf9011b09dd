import DeferredMetrics.Proofs.Bridge
import DeferredMetrics.Proofs.Composition

set_option autoImplicit false

/-! # Everything is carried over to the SDK

A handle whose provider leads to an SDK is worth one request to the SDK, by what the caller has
asked for, whether the handle was got before or after its registration took the provider, and a
sample for it one call with the same value and attributes. An SDK gets nothing else
(`carries_of_deals`). -/

namespace DeferredMetrics

/-! ## Attributes -/

/-- The value arrives in the variant of its type. -/
inductive AttributeValue.Arrives : AttributeValue → SdkValue → Prop where
  | text (t : String) : Arrives (.text t) (.string t)
  | flag (b : Bool) : Arrives (.flag b) (.bool b)
  | number (x : Binary64) : Arrives (.number x) (.f64 x)
  | integer (i : Int64) : Arrives (.integer i) (.i64 i)

/-- The attributes arrive one by one, each under its key. -/
def AttributeSet.Arrives (attributes : AttributeSet) (got : List SdkAttribute) : Prop :=
  List.Forall₂ (fun x y => y.key = x.key ∧ x.value.Arrives y.value) attributes.entries got

theorem AttributeSet.arrives_toSdk (attributes : AttributeSet) :
    attributes.Arrives attributes.toSdk := by
  refine List.forall₂_map_right_iff.2 (List.forall₂_same.2 fun x _ => ⟨rfl, ?_⟩)
  show x.value.Arrives x.value.toSdk
  cases x.value <;> constructor

/-! ## What a program can count on -/

namespace Dealings

/-- The handles that lead to the provider `p` by now. -/
def through (a : Dealings) (p : ProviderRef) : Kin where
  meters m := ∃ q scope, a.meters m q scope ∧ a.live p q = true
  instruments i := ∃ m request q scope, a.instruments i m request ∧ a.meters m q scope ∧
    a.live p q = true

end Dealings

/-- Every call is answered. A handle that leads to the SDK does so through an object of its own,
which was asked for by what the caller has asked for, and the SDK was asked for nothing else. A
sample is one call of the SDK if its instrument leads there, and none otherwise. An SDK collects by
calling each callback that it keeps once. -/
structure Carries (start : Store) (R : RegistrationRef → Prop) (p : ProviderRef) (label : String)
    (a : Dealings) (s : Store) : Prop where
  setProvider : ∀ r, R r →
    ∃ s', Op.setProvider r p s = .ok (!a.made (start.registration r).deferred) s'
  getProvider : ∀ r, R r → a.made (start.registration r).deferred = true ∨ s.NamesNone r →
    ∀ depth, ∃ s', Op.getProvider depth r s = .ok (.ok
      (if a.made (start.registration r).deferred then p else (start.registration r).deferred)) s'
  getMeter : ∀ r, R r → a.made (start.registration r).deferred = true ∨ s.NamesNone r →
    ∀ depth scope, ∃ m s', Op.getMeter depth r scope s = .ok (.ok m) s' ∧
      Deals R p start (a.addMeter m (if a.made (start.registration r).deferred then p
        else (start.registration r).deferred) scope) s'
  requestMeter : ∀ q, start.Fronts R p q → ∀ scope, ∃ m s', Op.requestMeter q scope s = .ok m s'
  requestInstrument : ∀ m q scope, a.meters m q scope → ∀ request,
    ∃ i s', Op.requestInstrument m request s = .ok i s'
  meter : ∀ m q scope, a.meters m q scope → a.live p q = true →
    ∃ t, s.meterEnd? m = some t ∧ start.NewMeter s p t ∧
      s.order label (.meter t) = .sdkMeter label scope
  instrument : ∀ i m request q scope, a.instruments i m request → a.meters m q scope →
    a.live p q = true → ∃ j, s.instrumentEnd? i = some j ∧ start.NewInstrument s p j ∧
      s.meterEnd? m = some (s.instrument j).issuer ∧
      s.order label (.instrument j) =
        .sdkInstrument label request.kind.sdkBuilder request.descriptor request.callback.isSome ∧
      s.entrusted (.instrument j) =
        request.callback.map fun c => ⟨j, request.descriptor.name, c⟩
  oneForEach : start.OneForEach s p (a.through p)
  orders : ∃ xs, start.Orders s p label xs
  record : ∀ i m request q scope, a.instruments i m request → a.meters m q scope →
    ∀ sample attributes, ∃ j, s.instrumentEnd? i = some j ∧
      Op.record i sample attributes s = .ok ()
        (if a.live p q then (s.note (.sample i sample attributes)).see
            (.sdkSample j request.descriptor.name sample attributes.toSdk)
          else s.note (.sample i sample attributes))
  observe : ∀ i m request, a.instruments i m request →
    Op.observe i s = .ok [] (s.note (.observe i))
  collect : (∀ x ∈ (s.provider p).kept, s.Willing x.callback) →
    s.polled (s.provider p).kept = (s.provider p).kept.map SdkCallback.callback ∧
      ∃ s', Op.collect p s = .ok () s' ∧ s'.uses = s.uses ++ s.collected (s.provider p).kept
  uses : s.uses = start.uses ++ a.uses
  asked : ∀ c, start.callbacks.Has c →
    (s.callback c).asked = (start.callback c).asked + a.polls.count c
  attributes : ∀ attributes : AttributeSet, attributes.Arrives attributes.toSdk
  builders : ∀ kind kind' : Kind, kind.sdkBuilder = kind'.sdkBuilder → kind = kind'

namespace Dealt

variable {start s : Store} {R : RegistrationRef → Prop} {p : ProviderRef} {label : String}
  {a : Dealings} {own : Kin} {m : MeterRef} {q : ProviderRef} {scope : Scope}

theorem meter (hstart : start.Bridge R p label) (h : Dealt start R p label a s)
    (hfamily : Lineage (start.Fronts R p) start a.kin own .nothing s) (hm : a.meters m q scope)
    (hlive : a.live p q = true) : ∃ t, s.meterEnd? m = some t ∧ start.NewMeter s p t ∧
      (s.meter t).scope = scope := by
  obtain ⟨t, ht, htown, hscope, hissuer⟩ := h.meter_end hfamily hm
  rw [if_pos hlive] at hissuer
  have hnew := hfamily.new_meter (reachable_sound hstart.reachable) htown hissuer h.accepts.backend
  exact ⟨t, ht, ⟨hfamily.has_meter htown, hnew, hissuer⟩, hscope⟩

theorem instrument (hstart : start.Bridge R p label) (h : Dealt start R p label a s)
    (hfamily : Lineage (start.Fronts R p) start a.kin own .nothing s) {i : InstrumentRef}
    {request : Request} (hi : a.instruments i m request) (hm : a.meters m q scope)
    (hlive : a.live p q = true) : ∃ j, s.instrumentEnd? i = some j ∧ start.NewInstrument s p j ∧
      s.meterEnd? m = some (s.instrument j).issuer ∧ (s.instrument j).request = request := by
  obtain ⟨t, ht, hnew, _⟩ := h.meter hstart hfamily hm hlive
  obtain ⟨j, hj, hjown, hsame, hrequest, hjissuer⟩ := h.instrument_end hfamily hi
  obtain rfl : (s.instrument j).issuer = t := Option.some.inj (hjissuer.symm.trans ht)
  have harrives := hfamily.arrives (reachable_sound hstart.reachable) hj hjown hsame hnew.issuer
    h.accepts.backend
  exact ⟨j, hj, harrives.new, ht, hsame.trans hrequest⟩

/-- A meter that leads to one of the SDK was got from a provider that leads there. -/
theorem live_of_issuer (h : Dealt start R p label a s)
    (hfamily : Lineage (start.Fronts R p) start a.kin own .nothing s) (hm : a.meters m q scope)
    {t : MeterRef} (ht : s.meterEnd? m = some t) (hissuer : (s.meter t).issuer = some p) :
    a.live p q = true := by
  obtain ⟨t', ht', _, _, hte⟩ := h.meter_end hfamily hm
  obtain rfl : t' = t := Option.some.inj (ht'.symm.trans ht)
  by_contra hlive
  -- the provider that was asked has issued the end itself, so it is the one over the SDK
  rw [if_neg hlive] at hte
  exact hlive (by simp [Dealings.live, Option.some.inj (hte.symm.trans hissuer)])

theorem oneForEach (h : Dealt start R p label a s)
    (hfamily : Lineage (start.Fronts R p) start a.kin own .nothing s) :
    start.OneForEach s p (a.through p) := by
  refine (hfamily.oneForEach h.accepts.backend).narrow (fun m t ht hend => ?_) fun i j hj hend => ?_
  · constructor
    · rintro ⟨q, scope, hm, _⟩
      exact ⟨q, scope, hm⟩
    · rintro ⟨q, scope, hm⟩
      exact ⟨q, scope, hm, h.live_of_issuer hfamily hm hend ht.issuer⟩
  · constructor
    · rintro ⟨m, request, _, _, hi, _⟩
      exact ⟨m, request, hi⟩
    · rintro ⟨m, request, hi⟩
      -- an instrument leads where the meter leads that the caller has asked
      obtain ⟨⟨q, scope, hm⟩, _⟩ := h.holds.instruments i m request hi
      obtain ⟨k, hk, _, _, _, hissuer⟩ := h.instrument_end hfamily hi
      obtain rfl : k = j := Option.some.inj (hk.symm.trans hend)
      exact ⟨m, request, q, scope, hi, hm, h.live_of_issuer hfamily hm hissuer hj.issuer⟩

theorem record_run (hstart : start.Bridge R p label) (h : Dealt start R p label a s)
    {i : InstrumentRef} {request : Request} (hi : a.instruments i m request)
    (hm : a.meters m q scope) (sample : Sample) (attributes : AttributeSet) :
    ∃ j, s.instrumentEnd? i = some j ∧ Op.record i sample attributes s = .ok ()
      (if a.live p q then (s.note (.sample i sample attributes)).see
          (.sdkSample j request.descriptor.name sample attributes.toSdk)
        else s.note (.sample i sample attributes)) := by
  obtain ⟨j, hj, rfl, hdestination⟩ := h.destination hstart hi hm
  have hrow : (s.note (.sample i sample attributes)).instrument j = s.instrument j := rfl
  refine ⟨j, hj, ?_⟩
  rw [Op.record_run hj, Store.accept]
  cases hlive : a.live p q <;> simp [hlive, hrow, hdestination]

end Dealt

/-- Whatever a program does, in whatever order, it is carried over to the SDK faithfully. -/
theorem carries_of_deals {start s : Store} {R : RegistrationRef → Prop} {p : ProviderRef}
    {label : String} {a : Dealings} (hstart : start.Bridge R p label) (h : Deals R p start a s) :
    Carries start R p label a s := by
  have hdealt := dealt_of_deals hstart h
  obtain ⟨own, hfamily⟩ := hdealt.family
  constructor
  case setProvider =>
    intro r hr
    obtain ⟨s', hrun, _⟩ := hdealt.setProvider hstart hr
    exact ⟨s', hrun⟩
  case getProvider =>
    intro r hr hidle depth
    obtain ⟨s', hrun, _⟩ := hdealt.getProvider hstart hr depth hidle
    exact ⟨s', hrun⟩
  case getMeter => exact fun r hr hidle depth scope => h.getMeter hstart hr hidle depth scope
  case requestMeter =>
    intro q hq scope
    obtain ⟨m, s', hrun, _⟩ := hdealt.requestMeter hstart hq scope
    exact ⟨m, s', hrun⟩
  case requestInstrument =>
    intro m q scope hm request
    obtain ⟨i, s', hrun, _⟩ := hdealt.requestInstrument hstart hm request
    exact ⟨i, s', hrun⟩
  case meter =>
    intro m q scope hm hlive
    obtain ⟨t, ht, hnew, rfl⟩ := hdealt.meter hstart hfamily hm hlive
    exact ⟨t, ht, hnew, rfl⟩
  case instrument =>
    intro i m request q scope hi hm hlive
    obtain ⟨j, hj, hnew, hissuer, rfl⟩ := hdealt.instrument hstart hfamily hi hm hlive
    exact ⟨j, hj, hnew, hissuer, rfl, rfl⟩
  case oneForEach => exact hdealt.oneForEach hfamily
  case orders => exact hdealt.orders
  case record =>
    exact fun i m request q scope hi hm sample attributes =>
      hdealt.record_run hstart hi hm sample attributes
  case observe => exact fun i m request hi => hdealt.observe_run hstart hi
  case collect =>
    intro hwilling
    obtain ⟨x, hx, _⟩ := hdealt.accepts
    refine ⟨Store.polled_of_willing _ hwilling, ?_⟩
    obtain ⟨s', hpasses, _, hrun⟩ := Op.passes_readFrom hdealt.ended x.callbacks
    rw [hx] at hwilling ⊢
    exact ⟨s', (Op.collect_of_sdk hx).trans (hrun hwilling), hpasses.uses⟩
  case uses => exact hdealt.uses
  case asked =>
    intro c hc
    rw [Store.callback, hdealt.polls]
    exact (start.callbacks.get_foldl_count a.polls c).2.2 hc
  case attributes => exact AttributeSet.arrives_toSdk
  case builders => exact fun _ _ => Kind.sdkBuilder_injective

/-! ## A counter that is got before the registration -/

/-- A registration, a provider over an SDK, and a counter from the registration. -/
def Store.bridged : Store :=
  Scenario.after 1 none (.initial .empty)
    [.registration "a" none (.settings []) none,
      .provider "sdk" (.sdk []),
      .getMeter "a" "m" ⟨"early", some "", none⟩,
      .create "m" "c" .counter (.named "jobs") none]

theorem Store.bridge_bridged : Store.bridged.Bridge (fun r => r = ⟨0⟩) ⟨1⟩ "sdk" where
  reachable := .after _ _ (.initial _) (by decide)
  known := by rintro r rfl; decide +kernel
  waiting := by rintro r rfl; decide +kernel
  accepts := ⟨_, rfl, rfl, fun _ => rfl⟩

/-- A sample before the registration is lost, and one after it arrives, as it does from a counter of
the same name that is got directly, at another instrument of the SDK. -/
theorem carries_of_deals_bridged :
    ∃ a s, Deals (fun r => r = ⟨0⟩) ⟨1⟩ .bridged a s ∧
      a.instruments ⟨0⟩ ⟨0⟩ ⟨.counter, .named "jobs", none⟩ ∧ a.live ⟨1⟩ ⟨0⟩ = true ∧
      a.meters ⟨2⟩ ⟨1⟩ (.named "late") ∧
      a.instruments ⟨2⟩ ⟨2⟩ ⟨.counter, .named "jobs", none⟩ ∧
      a.uses = [.sdkSample ⟨1⟩ "jobs" (.count 2) [], .sdkSample ⟨2⟩ "jobs" (.count 3) []] ∧
      Carries .bridged (fun r => r = ⟨0⟩) ⟨1⟩ "sdk" a s := by
  have hstart := Store.bridge_bridged
  have hm : (Dealings.early .bridged fun r => r = ⟨0⟩).meters ⟨0⟩ ⟨0⟩ ⟨"early", some "", none⟩ :=
    ⟨⟨⟨0⟩, rfl, by decide +kernel⟩, by decide +kernel, by decide +kernel⟩
  have hi : (Dealings.early .bridged fun r => r = ⟨0⟩).instruments ⟨0⟩ ⟨0⟩
      ⟨.counter, .named "jobs", none⟩ :=
    ⟨⟨⟨0⟩, rfl, by decide +kernel⟩, by decide +kernel, by decide +kernel⟩
  have h₁ := Deals.record (p := ⟨1⟩) (.count 1) .empty .start hi hm
  have h₂ := h₁.setProvider rfl rfl
  rw [show (Store.bridged.registration ⟨0⟩).deferred = ⟨0⟩ by decide +kernel] at h₂
  have h₃ := h₂.record (.count 2) .empty hi hm
  have h₄ := h₃.requestMeter (m := ⟨2⟩) (.named "late") (.inl rfl) rfl
  have h₅ := h₄.requestInstrument (i := ⟨2⟩) ⟨.counter, .named "jobs", none⟩ (.inl ⟨rfl, rfl, rfl⟩)
    rfl
  have h₆ := h₅.record (.count 3) .empty (.inl ⟨rfl, rfl, rfl⟩) (.inl ⟨rfl, rfl, rfl⟩)
  exact ⟨_, _, h₆, .inr hi, rfl, .inl ⟨rfl, rfl, rfl⟩, .inl ⟨rfl, rfl, rfl⟩, by decide +kernel,
    carries_of_deals hstart h₆⟩

end DeferredMetrics
