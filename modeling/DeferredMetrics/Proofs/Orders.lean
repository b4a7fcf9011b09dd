import DeferredMetrics.Proofs.Install
import DeferredMetrics.Proofs.Using

set_option autoImplicit false

/-! # What an SDK is asked for

An SDK shows every request before it answers, so what it was asked for can be read off a run.
`Store.Orders` says that these are requests for what its provider has issued, one for each object
and in the same order, and that the SDK keeps a callback for each instrument that has one. As
objects stay what they were asked for by (`Remains`), orders of one part of a run and orders of the
next are orders of both (`Store.Orders.trans`). -/

namespace DeferredMetrics

open Relation (ReflTransGen)

/-- An object that a provider issues. -/
inductive Issue where
  | meter (t : MeterRef)
  | instrument (j : InstrumentRef)

/-- An SDK got a sample or has read a measurement. -/
def Event.isUse : Event → Bool
  | .sdkSample .. => true
  | .sdkObserved .. => true
  | _ => false

/-- The callbacks that the provider keeps, with their instruments. -/
def Provider.kept : Provider → List SdkCallback
  | .sdk q => q.callbacks
  | _ => []

namespace Store

/-- The requests that backends could be seen to get. -/
def shownRequests (s : Store) : List Event := s.trace.toList.filter Event.isRequest

/-- The samples and measurements that SDKs could be seen to get. -/
def uses (s : Store) : List Event := s.trace.toList.filter Event.isUse

/-- The provider `p` has issued the object since `start`. -/
def New (start s : Store) (p : ProviderRef) : Issue → Prop
  | .meter t => start.NewMeter s p t
  | .instrument j => start.NewInstrument s p j

/-- The request for the object, as an SDK shows it. -/
def order (s : Store) (label : String) : Issue → Event
  | .meter t => .sdkMeter label (s.meter t).scope
  | .instrument j =>
      .sdkInstrument label (s.instrument j).request.kind.sdkBuilder
        (s.instrument j).request.descriptor (s.instrument j).request.callback.isSome

/-- What an SDK keeps of the request for the object. -/
def entrusted (s : Store) : Issue → Option SdkCallback
  | .meter _ => none
  | .instrument j =>
      (s.instrument j).request.callback.map fun c =>
        ⟨j, (s.instrument j).request.descriptor.name, c⟩

/-- The provider `p` hands everything to an SDK that accepts every instrument. -/
def Accepts (s : Store) (p : ProviderRef) (label : String) : Prop :=
  ∃ q : SdkProvider, s.provider p = .sdk q ∧ q.label = label ∧ ∀ name, q.rejects name = none

/-- Since `start` the SDK behind `p` was asked for the objects `xs`, which `p` has issued, each once
and for nothing else, and keeps their callbacks. -/
structure Orders (start s : Store) (p : ProviderRef) (label : String) (xs : List Issue) :
    Prop where
  issued : Lists xs (start.New s p)
  shown : s.shownRequests = start.shownRequests ++ xs.map (s.order label)
  kept : (s.provider p).kept = (start.provider p).kept ++ xs.filterMap s.entrusted

end Store

namespace Store.Accepts

variable {s : Store} {p : ProviderRef} {label : String}

theorem known (h : s.Accepts p label) : s.providers.Has p := by
  obtain ⟨q, hq, _⟩ := h
  refine Table.has_of_ne_default fun heq => ?_
  rw [provider, heq] at hq
  cases hq

theorem backend (h : s.Accepts p label) : (s.provider p).isDeferred = false := by
  obtain ⟨q, hq, _⟩ := h
  rw [hq]
  rfl

theorem willing (h : s.Accepts p label) (n : Nat) (ask : Ask) :
    (s.provider p).refusal n ask = none := by
  obtain ⟨q, hq, _, hrejects⟩ := h
  rw [hq]
  cases ask with
  | meter scope => rfl
  | instrument request => exact congrArg (Option.map Op.rejection) (hrejects _)

theorem providerEnd? (h : s.Accepts p label) : s.providerEnd? p = some p :=
  Store.providerEnd?_eq_some.2 (endsAt_self (Provider.alone_of_isDeferred h.backend).1)

end Store.Accepts

/-- Two lists of different things, one after the other. -/
theorem Lists.append {α : Type} {l l' : List α} {P P' P'' : α → Prop} (h : Lists l P)
    (h' : Lists l' P') (hdisjoint : ∀ x, P x → ¬ P' x) (hall : ∀ x, P'' x ↔ P x ∨ P' x) :
    Lists (l ++ l') P'' where
  nodup := by
    refine List.nodup_append.2 ⟨h.nodup, h'.nodup, ?_⟩
    rintro x hx y hy rfl
    exact hdisjoint x ((h.mem x).1 hx) ((h'.mem x).1 hy)
  mem x := by rw [List.mem_append, h.mem, h'.mem, hall]

/-! ## Objects stay what they were asked for by -/

/-- The meter is of the same scope and issuer, and one of an SDK if it was. -/
structure Meter.Remains (m m' : Meter) : Prop where
  scope : m'.scope = m.scope
  issuer : m'.issuer = m.issuer
  sdk : m.body = .sdk → m'.body = .sdk

/-- The instrument is of the same request and issuer. -/
structure Instrument.Remains (i i' : Instrument) : Prop where
  request : i'.request = i.request
  issuer : i'.issuer = i.issuer

namespace Meter

theorem Remains.refl (m : Meter) : m.Remains m := ⟨rfl, rfl, fun h => h⟩

theorem Remains.trans {m m' m'' : Meter} (h : m.Remains m') (h' : m'.Remains m'') :
    m.Remains m'' :=
  ⟨h'.scope.trans h.scope, h'.issuer.trans h.issuer, fun hm => h'.sdk (h.sdk hm)⟩

theorem remains_bind (m : Meter) (t : MeterRef) : m.Remains (m.bind t) := by
  cases hm : m.body <;> constructor <;> simp [bind, hm]

theorem remains_hold (m : Meter) (i : InstrumentRef) : m.Remains (m.hold i) := by
  cases hm : m.body <;> constructor <;> simp [hold, hm]

end Meter

namespace Instrument

theorem Remains.refl (i : Instrument) : i.Remains i := ⟨rfl, rfl⟩

theorem Remains.trans {i i' i'' : Instrument} (h : i.Remains i') (h' : i'.Remains i'') :
    i.Remains i'' := ⟨h'.request.trans h.request, h'.issuer.trans h.issuer⟩

theorem remains_bind (i : Instrument) (j : InstrumentRef) : i.Remains (i.bind j) := by
  cases hi : i.destination <;> constructor <;> simp [bind, hi]

end Instrument

/-- All objects are still there and what they were. -/
structure Remains (s s' : Store) : Prop where
  meters : s.meters.Grows Meter.Remains s'.meters
  instruments : s.instruments.Grows Instrument.Remains s'.instruments

namespace Remains

variable {start s s' : Store} {p : ProviderRef}

theorem refl (s : Store) : Remains s s :=
  ⟨.refl Meter.Remains.refl _, .refl Instrument.Remains.refl _⟩

theorem trans {s'' : Store} (h : Remains s s') (h' : Remains s' s'') : Remains s s'' :=
  ⟨h.meters.trans (fun _ _ _ => Meter.Remains.trans) h'.meters,
    h.instruments.trans (fun _ _ _ => Instrument.Remains.trans) h'.instruments⟩

theorem of_eq (hmeters : s'.meters = s.meters) (hinstruments : s'.instruments = s.instruments) :
    Remains s s' := by
  refine ⟨?_, ?_⟩
  · rw [hmeters]
    exact .refl Meter.Remains.refl _
  · rw [hinstruments]
    exact .refl Instrument.Remains.refl _

theorem issuer (h : Remains s s') {m : MeterRef} (hm : (s.meter m).issuer = some p) :
    (s'.meter m).issuer = some p :=
  (h.meters m (Store.has_of_meterIssuer hm)).2.issuer.trans hm

theorem sdk (h : Remains s s') {m : MeterRef} (hm : (s.meter m).body = .sdk) :
    (s'.meter m).body = .sdk := by
  refine (h.meters m (Table.has_of_ne_default fun heq => ?_)).2.sdk hm
  rw [Store.meter, heq] at hm
  cases hm

/-- What was new stays new. -/
theorem new (h : Remains s s') {x : Issue} (hx : start.New s p x) : start.New s' p x := by
  cases x with
  | meter t => exact ⟨(h.meters t hx.known).1, hx.new, h.issuer hx.issuer⟩
  | instrument j =>
      obtain ⟨hknown, hrow⟩ := h.instruments j hx.known
      refine ⟨hknown, hx.new, ?_⟩
      rw [show (s'.instrument j).issuer = (s.instrument j).issuer from hrow.issuer]
      exact h.issuer hx.issuer

theorem order (h : Remains s s') {x : Issue} (hx : start.New s p x) (label : String) :
    s'.order label x = s.order label x := by
  cases x with
  | meter t => exact congrArg (Event.sdkMeter label) (h.meters t hx.known).2.scope
  | instrument j =>
      have hrequest : (s'.instrument j).request = (s.instrument j).request :=
        (h.instruments j hx.known).2.request
      rw [Store.order, hrequest]
      rfl

theorem entrusted (h : Remains s s') {x : Issue} (hx : start.New s p x) :
    s'.entrusted x = s.entrusted x := by
  cases x with
  | meter t => rfl
  | instrument j =>
      have hrequest : (s'.instrument j).request = (s.instrument j).request :=
        (h.instruments j hx.known).2.request
      rw [Store.entrusted, hrequest]
      rfl

end Remains

/-! ## Orders one after the other -/

/-- Whatever is new is an instrument of a meter that there is. -/
def IssuersKnown (s s' : Store) : Prop :=
  ∀ j, s'.instruments.Has j → ¬ s.instruments.Has j → s'.meters.Has (s'.instrument j).issuer

/-- What is new in the end was new before, or has become so later. -/
theorem Remains.new_iff {start s s' : Store} {p : ProviderRef} (hstart : Remains start s)
    (h : Remains s s') (hissuers : IssuersKnown start s) (x : Issue) :
    start.New s' p x ↔ start.New s p x ∨ s.New s' p x := by
  constructor
  · intro hx
    cases x with
    | meter t =>
        by_cases ht : s.meters.Has t
        · refine .inl ⟨ht, hx.new, ?_⟩
          exact (h.meters t ht).2.issuer.symm.trans hx.issuer
        · exact .inr ⟨hx.known, ht, hx.issuer⟩
    | instrument j =>
        by_cases hj : s.instruments.Has j
        · -- the meter of an instrument that was there before was there before too
          have hsame : (s'.instrument j).issuer = (s.instrument j).issuer :=
            (h.instruments j hj).2.issuer
          have hissuer := hx.issuer
          rw [hsame] at hissuer
          refine .inl ⟨hj, hx.new, ?_⟩
          exact (h.meters _ (hissuers j hj hx.new)).2.issuer.symm.trans hissuer
        · exact .inr ⟨hx.known, hj, hx.issuer⟩
  · rintro (hx | hx)
    · exact h.new hx
    · cases x with
      | meter t => exact ⟨hx.known, fun ht => hx.new (hstart.meters t ht).1, hx.issuer⟩
      | instrument j =>
          exact ⟨hx.known, fun hj => hx.new (hstart.instruments j hj).1, hx.issuer⟩

theorem Remains.new_disjoint {start s s' : Store} {p : ProviderRef} {x : Issue}
    (hx : start.New s p x) : ¬ s.New s' p x := by
  cases x with
  | meter t => exact fun hx' => hx'.new hx.known
  | instrument j => exact fun hx' => hx'.new hx.known

theorem Store.Orders.trans {start s s' : Store} {p : ProviderRef} {label : String}
    {xs ys : List Issue} (h : start.Orders s p label xs) (h' : s.Orders s' p label ys)
    (hstart : Remains start s) (hremains : Remains s s') (hissuers : IssuersKnown start s) :
    start.Orders s' p label (xs ++ ys) where
  issued := h.issued.append h'.issued (fun _ => Remains.new_disjoint)
    (hstart.new_iff hremains hissuers)
  shown := by
    have hsame : xs.map (s'.order label) = xs.map (s.order label) :=
      List.map_congr_left fun x hx => hremains.order ((h.issued.mem x).1 hx) label
    rw [h'.shown, h.shown, List.map_append, hsame, List.append_assoc]
  kept := by
    have hsame : xs.filterMap s'.entrusted = xs.filterMap s.entrusted :=
      List.filterMap_congr fun x hx => hremains.entrusted ((h.issued.mem x).1 hx)
    rw [h'.kept, h.kept, List.filterMap_append, hsame, List.append_assoc]

/-- Where there are no other objects, none is new. -/
theorem Store.not_new {s s' : Store} {p : ProviderRef}
    (hmeters : ∀ m, s'.meters.Has m → s.meters.Has m)
    (hinstruments : ∀ j, s'.instruments.Has j → s.instruments.Has j) (x : Issue) :
    ¬ s.New s' p x := by
  intro hx
  cases x with
  | meter t => exact hx.new (hmeters t hx.known)
  | instrument j => exact hx.new (hinstruments j hx.known)

/-- Nothing was asked for. -/
theorem Store.Orders.none {s s' : Store} {p : ProviderRef} {label : String}
    (hnew : ∀ x, ¬ s.New s' p x) (hrequests : s'.shownRequests = s.shownRequests)
    (hkept : (s'.provider p).kept = (s.provider p).kept) : s.Orders s' p label [] :=
  ⟨.empty hnew, by simpa using hrequests, by simpa using hkept⟩

/-- One object was asked for. -/
theorem Store.Orders.one {s s' : Store} {p : ProviderRef} {label : String} {x : Issue}
    (hnew : ∀ y, s.New s' p y ↔ y = x)
    (hrequests : s'.shownRequests = s.shownRequests ++ [s'.order label x])
    (hkept : (s'.provider p).kept = (s.provider p).kept ++ (s'.entrusted x).toList) :
    s.Orders s' p label [x] where
  issued := ⟨List.nodup_singleton x, fun y => by rw [List.mem_singleton, hnew]⟩
  shown := hrequests
  kept := by
    rw [hkept]
    cases hx : s'.entrusted x <;> simp [hx]

end DeferredMetrics
