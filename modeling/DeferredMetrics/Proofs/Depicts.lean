import DeferredMetrics.Proofs.Ledger
import DeferredMetrics.Proofs.SoundBinding
import DeferredMetrics.Scenario.Names

set_option autoImplicit false

/-! # Stores that a ledger depicts

`Depicts w s a` says that the ledger `a` tells what the provider `w` and its meters keep in the
store `s`, and what the names of meters and instruments lead to there. It holds with a recording
provider `w`, whose meters keep logs, and with a deferred one that has no target: its meters keep
no events, but what they were asked for is the same (`Kept`). Requests for meters and instruments
change store and ledger alike (`Depicts.askMeter`, `Depicts.askInstrument`), whichever of the two
`w` is. -/

namespace DeferredMetrics

/-! ## Lists that correspond -/

section Lists

variable {α β : Type} {R R' : α → β → Prop} {xs : List α} {ys : List β}

theorem rel_mono {x : Option α} {y : Option β} (h : Option.Rel R x y)
    (hR : ∀ a b, x = some a → y = some b → R a b → R' a b) : Option.Rel R' x y := by
  cases h with
  | some h => exact .some (hR _ _ rfl rfl h)
  | none => exact .none

theorem exists_of_rel_left {x : Option α} {y : Option β} {a : α} (h : Option.Rel R x y)
    (hx : x = some a) : ∃ b, y = some b ∧ R a b := by
  cases h with
  | some h =>
      cases hx
      exact ⟨_, rfl, h⟩
  | none => cases hx

theorem eq_none_iff_of_rel {x : Option α} {y : Option β} (h : Option.Rel R x y) :
    x = none ↔ y = none := by
  cases h <;> simp

/-- The lists have the same length, and what stands at the same place is related. -/
def Places (R : α → β → Prop) (xs : List α) (ys : List β) : Prop :=
  ∀ k : Nat, Option.Rel R xs[k]? ys[k]?

namespace Places

theorem length_eq (h : Places R xs ys) : xs.length = ys.length := by
  have hboth : ∀ k, xs.length ≤ k ↔ ys.length ≤ k := by
    intro k
    rw [← List.getElem?_eq_none_iff, ← List.getElem?_eq_none_iff]
    exact eq_none_iff_of_rel (h k)
  have hleft := hboth xs.length
  have hright := hboth ys.length
  omega

theorem append (h : Places R xs ys) {x : α} {y : β} (hxy : R x y) :
    Places R (xs ++ [x]) (ys ++ [y]) := by
  intro k
  rw [List.getElem?_append, List.getElem?_append, ← h.length_eq]
  by_cases hk : k < xs.length
  · rw [if_pos hk, if_pos hk]
    exact h k
  · rw [if_neg hk, if_neg hk]
    cases k - xs.length with
    | zero => exact .some hxy
    | succ n => exact .none

/-- Two lists that correspond to a third one correspond to each other. -/
theorem through {γ : Type} {S : α → γ → Prop} {T : β → γ → Prop} {zs : List γ} (h : Places R xs ys)
    (h' : Places S xs zs) (hT : ∀ (k : Nat) x y z, xs[k]? = some x → R x y → S x z → T y z) :
    Places T ys zs := by
  intro k
  cases hx : xs[k]? with
  | none =>
      rw [(eq_none_iff_of_rel (h k)).1 hx, (eq_none_iff_of_rel (h' k)).1 hx]
      exact .none
  | some x =>
      obtain ⟨y, hy, hxy⟩ := exists_of_rel_left (h k) hx
      obtain ⟨z, hz, hxz⟩ := exists_of_rel_left (h' k) hx
      rw [hy, hz]
      exact .some (hT k x y z hx hxy hxz)

/-- One place of the second list changes, and perhaps what it is to be related. -/
theorem modify (h : Places R xs ys) (k : Nat) {f : β → β}
    (hhere : ∀ x y, xs[k]? = some x → R x y → R' x (f y))
    (helse : ∀ n x y, n ≠ k → xs[n]? = some x → R x y → R' x y) : Places R' xs (ys.modify k f) := by
  intro n
  by_cases hn : n = k
  · subst hn
    rw [List.getElem?_modify_eq]
    cases hx : xs[n]? with
    | none =>
        rw [(eq_none_iff_of_rel (h n)).1 hx]
        exact .none
    | some x =>
        obtain ⟨y, hy, hxy⟩ := exists_of_rel_left (h n) hx
        rw [hy]
        exact .some (hhere x y hx hxy)
  · rw [List.getElem?_modify_ne f ys (Ne.symm hn)]
    exact rel_mono (h n) fun x y hx _ hxy => helse n x y hn hx hxy

end Places

/-- Writing what is related under one name keeps what is under the names related. -/
theorem rel_insert {xs : Roster α} {ys : Roster β}
    (h : ∀ name, Option.Rel R (xs.get? name) (ys.get? name)) (id : String) {x : α} {y : β}
    (hxy : R x y) (name : String) :
    Option.Rel R ((xs.insert id x).get? name) ((ys.insert id y).get? name) := by
  rw [Roster.get?_insert, Roster.get?_insert]
  by_cases hname : id = name
  · rw [if_pos hname, if_pos hname]
    exact .some hxy
  · rw [if_neg hname, if_neg hname]
    exact h name

end Lists

/-! ## Providers that answer for themselves -/

namespace Provider

/-- The provider keeps its meters, hands nothing on, and neither shows nor refuses anything. -/
def Plain : Provider → Prop
  | .recording q => q.probe = none
  | .deferred q => q.target = none
  | _ => False

section Plain

variable {p : Provider} (h : p.Plain)
include h

theorem Plain.quiet : p.Quiet := by
  cases p with
  | recording q => exact h
  | deferred q => trivial
  | _ => exact h.elim

theorem Plain.target? : p.target? = none := by
  cases p with
  | deferred q => exact h
  | _ => rfl

theorem Plain.refusal (n : Nat) (ask : Ask) : p.refusal n ask = none := by
  cases p with
  | recording q =>
      have hprobe : q.probe = none := h
      cases ask <;> simp [Provider.refusal, hprobe]
  | deferred q => cases ask <;> rfl
  | _ => exact h.elim

theorem Plain.probed : p.probed = p := by
  cases p with
  | recording q =>
      have hprobe : q.probe = none := h
      simp [Provider.probed, hprobe]
  | _ => rfl

theorem Plain.serve_meter (scope : Scope) (m : MeterRef) :
    p.serve (.meter scope (.ok m)) = p.hold m := by
  rw [serve, h.probed]

theorem Plain.serve_instrument (request : Request) (i : InstrumentRef) :
    p.serve (.instrument request (.ok i)) = p := by
  rw [serve, h.probed, keepRequest]
  cases request.callback with
  | none => rfl
  | some c =>
      cases p with
      | sdk q => exact h.elim
      | _ => rfl

theorem Plain.hold (m : MeterRef) : (p.hold m).Plain := by
  cases p with
  | recording q => exact h
  | deferred q => exact h
  | _ => exact h.elim

theorem Plain.meters_hold (m : MeterRef) : (p.hold m).meters = p.meters ++ [m] := by
  cases p with
  | recording q => rfl
  | deferred q => rfl
  | _ => exact h.elim

end Plain

end Provider

namespace Store

/-! ## Naming meters and instruments -/

/-- The store in which a name means the meter `m`. -/
def nameMeter (s : Store) (id : String) (m : MeterRef) : Store :=
  s.updateDirectory fun d => { d with meters := d.meters.insert id m }

/-- The store in which a name means the instrument `i`. -/
def nameInstrument (s : Store) (id : String) (i : NamedInstrument) : Store :=
  s.updateDirectory fun d => { d with instruments := d.instruments.insert id i }

/-! ## What stands where -/

/-- The chain of the instrument `i` ends at `j`, an instrument of the meter `t`, and the meter has
the place of `x` on the list of the provider `w`; a deferred meter has `j` on its list in turn. -/
structure Stands (s : Store) (w : ProviderRef) (i : InstrumentRef) (x : Booked) (t : MeterRef)
    (j : InstrumentRef) : Prop where
  meter : (s.provider w).meters[x.meter]? = some t
  known : s.instruments.Has i ∧ s.instruments.Has j
  ends : s.instrumentEnd? i = some j
  request : (s.instrument i).request = x.request
  row : s.instrument j = ⟨x.request, t, (s.meter t).freshDestination⟩
  listed : (s.meter t).body.isDeferred = true → j ∈ (s.meter t).instruments

/-- Where an instrument stands is a matter of providers, meters and instruments. -/
theorem Stands.congr {s s' : Store} {w : ProviderRef} {i : InstrumentRef} {x : Booked}
    {t : MeterRef}
    {j : InstrumentRef} (h : s.Stands w i x t j) (hproviders : s'.providers = s.providers)
    (hmeters : s'.meters = s.meters) (hinstruments : s'.instruments = s.instruments) :
    s'.Stands w i x t j := by
  have hmeter : ∀ m, s'.meter m = s.meter m := fun m => congrArg (Table.get · m) hmeters
  have hinstrument : ∀ i, s'.instrument i = s.instrument i :=
    fun i => congrArg (Table.get · i) hinstruments
  constructor
  case meter =>
    rw [provider, hproviders]
    exact h.meter
  case known =>
    rw [hinstruments]
    exact h.known
  case ends =>
    rw [instrumentEnd?, funext fun i => congrArg Instrument.target? (hinstrument i), hinstruments]
    exact h.ends
  case request =>
    rw [hinstrument]
    exact h.request
  case row =>
    rw [hinstrument, hmeter]
    exact h.row
  case listed =>
    rw [hmeter]
    exact h.listed

end Store

/-- What the log tells of a meter of the provider `w`: a recording one keeps the log, and a
deferred one that waits has been asked for what is in it. -/
inductive Kept (w : ProviderRef) (instruments : Table .instrument Instrument) :
    Meter → MeterLog → Prop where
  | recording (l : MeterLog) :
      Kept w instruments ⟨l.scope, some w, .recording ⟨l.created, l.events.toArray⟩⟩ l
  | deferred (scope : Scope) (is : List InstrumentRef) (hknown : ∀ i ∈ is, instruments.Has i) :
      Kept w instruments ⟨scope, some w, .deferred ⟨none, is⟩⟩
        ⟨scope, is.map fun i =>
          ((instruments.get i).request.kind, (instruments.get i).request.descriptor), []⟩

namespace Kept

variable {w : ProviderRef} {instruments instruments' : Table .instrument Instrument} {m : Meter}
  {l : MeterLog}

theorem issuer (h : Kept w instruments m l) : m.issuer = some w := by
  cases h <;> rfl

/-- What a log tells does not depend on instruments that are new, nor on where the old ones lead. -/
theorem later (h : Kept w instruments m l)
    (hgrows : instruments.Grows Instrument.Grows instruments') : Kept w instruments' m l := by
  cases h with
  | recording => exact .recording l
  | deferred scope is hknown =>
      have hsame : (is.map fun i =>
          ((instruments.get i).request.kind, (instruments.get i).request.descriptor)) =
          is.map fun i =>
            ((instruments'.get i).request.kind, (instruments'.get i).request.descriptor) := by
        apply List.map_congr_left
        intro i hi
        rw [(hgrows i (hknown i hi)).2.request]
      rw [hsame]
      exact .deferred scope is fun i hi => (hgrows i (hknown i hi)).1

/-- The meter has answered a request for an instrument. -/
theorem create (h : Kept w instruments m l) {request : Request} {j : InstrumentRef}
    (hgrows : instruments.Grows Instrument.Grows instruments') (hj : instruments'.Has j)
    (hrequest : (instruments'.get j).request = request) :
    Kept w instruments' (m.keepRequest request j) (l.create request) := by
  cases h.later hgrows with
  | recording => exact .recording (l.create request)
  | deferred scope is hknown =>
      have hknown' : ∀ i ∈ is ++ [j], instruments'.Has i := by
        intro i hi
        rcases List.mem_append.1 hi with hi | hi
        · exact hknown i hi
        · rw [List.mem_singleton.1 hi]
          exact hj
      have hrow : Kept w instruments' _ _ := .deferred scope (is ++ [j]) hknown'
      rw [List.map_append, List.map_singleton, hrequest] at hrow
      exact hrow

/-- A deferred meter has the instrument that it has answered with on its list. -/
theorem mem_instruments (h : Kept w instruments m l) (request : Request) (j : InstrumentRef)
    (hdeferred : (m.keepRequest request j).body.isDeferred = true) :
    j ∈ (m.keepRequest request j).instruments := by
  cases h with
  | recording => cases hdeferred
  | deferred scope is _ => exact List.mem_append_right _ (List.mem_singleton_self _)

/-- A recording meter has kept some events. -/
theorem keep (h : Kept w instruments m l) (hrecording : m.body.isDeferred = false)
    (events : List Recorded) : Kept w instruments (m.keep events) (l.keep events) := by
  cases h with
  | deferred => cases hrecording
  | recording =>
      have hrow : Kept w instruments _ _ := .recording (l.keep events)
      simpa [MeterLog.keep, Meter.keep] using hrow

end Kept

/-- The ledger tells what the provider `w` and its meters keep, and what names lead to. -/
structure Depicts (w : ProviderRef) (s : Store) (a : Ledger) : Prop where
  sound : Sound s
  known : s.providers.Has w
  plain : (s.provider w).Plain
  nodup : (s.provider w).meters.Nodup
  meters : Places (fun t l => s.meters.Has t ∧ Kept w s.instruments (s.meter t) l)
    (s.provider w).meters a.meters
  meterNames : ∀ name, Option.Rel
    (fun m (k : Nat) => ∃ t, (s.provider w).meters[k]? = some t ∧ s.meterEnd? m = some t)
    (s.directory.meters.get? name) (a.meterNames.get? name)
  instrumentNames : ∀ name, Option.Rel (fun i x => ∃ t j, s.Stands w i.ref x t j)
    (s.directory.instruments.get? name) (a.instrumentNames.get? name)
  callbacks : a.callbacks = s.callbacks
  callbackNames : a.callbackNames = s.directory.callbacks

namespace Store

variable {s s' : Store} {w : ProviderRef}

/-- The provider answers for itself. -/
theorem providerEnd?_of_plain (h : (s.provider w).Plain) : s.providerEnd? w = some w :=
  providerEnd?_eq_some.2 (endsAt_self h.target?)

/-- A chain of meters still ends where it ended, unless its end has got a target. -/
theorem meterEnd?_later (hlater : Later s s') {m t : MeterRef} (h : s.meterEnd? m = some t)
    (hend : (s'.meter t).target? = none) : s'.meterEnd? m = some t := by
  refine meterEnd?_eq_some.2 ⟨(meterEnd?_eq_some.1 h).1.mono fun x y hxy => ?_, hend⟩
  exact (hlater.meter (has_of_meterTarget hxy)).target y hxy

theorem instrumentEnd?_later (hlater : Later s s') {i j : InstrumentRef}
    (h : s.instrumentEnd? i = some j) (hend : (s'.instrument j).target? = none) :
    s'.instrumentEnd? i = some j := by
  refine instrumentEnd?_eq_some.2 ⟨(instrumentEnd?_eq_some.1 h).1.mono fun x y hxy => ?_, hend⟩
  exact (hlater.instrument (has_of_instrumentTarget hxy)).target y hxy

/-- What stands on a list keeps its place there. -/
theorem getElem?_meters_later (hlater : Later s s') (hw : s.providers.Has w) {k : Nat}
    {t : MeterRef}
    (h : (s.provider w).meters[k]? = some t) : (s'.provider w).meters[k]? = some t := by
  obtain ⟨more, hmore⟩ := (hlater.provider hw).meters
  obtain ⟨hk, _⟩ := List.getElem?_eq_some_iff.1 h
  rw [← hmore, List.getElem?_append_left hk]
  exact h

end Store

theorem Meter.freshDestination_of_like {m m' : Meter} (h : m.Like m') :
    m'.freshDestination = m.freshDestination := by
  obtain ⟨p, hp⟩ := m.exists_fits
  have hp' := h.fits p hp
  unfold Meter.freshDestination
  generalize m.body = b at hp
  generalize m'.body = b' at hp'
  cases hp <;> cases hp' <;> rfl

namespace Depicts

variable {w : ProviderRef} {s s' : Store} {a : Ledger}

theorem known_meter (h : Depicts w s a) {k : Nat} {t : MeterRef}
    (ht : (s.provider w).meters[k]? = some t) : s.meters.Has t := by
  obtain ⟨l, _, hknown, _⟩ := exists_of_rel_left (h.meters k) ht
  exact hknown

/-- A meter keeps its place and stays the end of what led to it. -/
theorem meter_later (h : Depicts w s a) (hlater : Later s s')
    (hlike : ∀ m, s.meters.Has m → (s.meter m).Like (s'.meter m)) {m : MeterRef} {k : Nat}
    (hm : ∃ t, (s.provider w).meters[k]? = some t ∧ s.meterEnd? m = some t) :
    ∃ t, (s'.provider w).meters[k]? = some t ∧ s'.meterEnd? m = some t := by
  obtain ⟨t, ht, hend⟩ := hm
  refine ⟨t, Store.getElem?_meters_later hlater h.known ht, Store.meterEnd?_later hlater hend ?_⟩
  rw [(hlike t (h.known_meter ht)).target]
  exact (Store.meterEnd?_eq_some.1 hend).2

/-- An instrument stays where it stands. -/
theorem stands_later (h : Depicts w s a) (hlater : Later s s')
    (hlike : ∀ m, s.meters.Has m → (s.meter m).Like (s'.meter m))
    (hsame : ∀ i, s.instruments.Has i → s'.instrument i = s.instrument i) {i : InstrumentRef}
    {x : Booked} {t : MeterRef} {j : InstrumentRef} (hi : s.Stands w i x t j) :
    s'.Stands w i x t j := by
  have ht := h.known_meter hi.meter
  have hj : s'.instrument j = s.instrument j := hsame j hi.known.2
  constructor
  case meter => exact Store.getElem?_meters_later hlater h.known hi.meter
  case known => exact ⟨(hlater.instruments i hi.known.1).1, (hlater.instruments j hi.known.2).1⟩
  case ends =>
    apply Store.instrumentEnd?_later hlater hi.ends
    rw [hj]
    exact (Store.instrumentEnd?_eq_some.1 hi.ends).2
  case request =>
    rw [hsame i hi.known.1]
    exact hi.request
  case row =>
    rw [hj, Meter.freshDestination_of_like (hlike t ht)]
    exact hi.row
  case listed =>
    intro hdeferred
    rw [(hlike t ht).deferred] at hdeferred
    exact (hlater.meter ht).instruments.subset (hi.listed hdeferred)

end Depicts

/-! ## Requests -/

namespace Store

variable {s : Store} {w : ProviderRef}

theorem meterAnswer_of_plain (h : (s.provider w).Plain) (scope : Scope) :
    s.meterAnswer w scope = .ok s.meters.next := by
  rw [meterAnswer, h.refusal]

theorem instrumentAnswer_of_plain (h : (s.provider w).Plain) {t : MeterRef}
    (ht : (s.meter t).issuer = some w) (request : Request) :
    s.instrumentAnswer t request = .ok s.instruments.next := by
  rw [instrumentAnswer, instrumentRefusal, ht, Option.bind_some, h.refusal]

end Store

namespace Depicts

variable {w : ProviderRef} {s s' : Store} {a : Ledger}

/-- What has become of the meters is all that matters, if everything else stays what it is. -/
theorem of_later {logs : List MeterLog} (h : Depicts w s a) (hsound : Sound s')
    (hlater : Later s s')
    (hlike : ∀ m, s.meters.Has m → (s.meter m).Like (s'.meter m))
    (hsame : ∀ i, s.instruments.Has i → s'.instrument i = s.instrument i)
    (hplain : (s'.provider w).Plain) (hnodup : (s'.provider w).meters.Nodup)
    (hmeters : Places (fun t l => s'.meters.Has t ∧ Kept w s'.instruments (s'.meter t) l)
      (s'.provider w).meters logs)
    (hcallbacks : s'.callbacks = s.callbacks) (hdirectory : s'.directory = s.directory) :
    Depicts w s' { a with meters := logs } where
  sound := hsound
  known := (hlater.providers w h.known).1
  plain := hplain
  nodup := hnodup
  meters := hmeters
  meterNames name := by
    rw [hdirectory]
    exact rel_mono (h.meterNames name) fun m k _ _ hm => h.meter_later hlater hlike hm
  instrumentNames name := by
    rw [hdirectory]
    refine rel_mono (h.instrumentNames name) fun i x _ _ hi => ?_
    obtain ⟨t, j, hi⟩ := hi
    exact ⟨t, j, h.stands_later hlater hlike hsame hi⟩
  callbacks := h.callbacks.trans hcallbacks.symm
  callbackNames := by
    rw [hdirectory]
    exact h.callbackNames

/-- A meter that has a place gets a name. -/
theorem nameMeter (h : Depicts w s a) (id : String) {m t : MeterRef} {k : Nat}
    (ht : (s.provider w).meters[k]? = some t) (hm : s.meterEnd? m = some t) :
    Depicts w (s.nameMeter id m) { a with meterNames := a.meterNames.insert id k } where
  sound := h.sound.updateDirectory h.sound.names.providers h.sound.names.registrations
  known := h.known
  plain := h.plain
  nodup := h.nodup
  meters := h.meters
  meterNames := rel_insert h.meterNames id ⟨t, ht, hm⟩
  instrumentNames name := by
    refine rel_mono (h.instrumentNames name) fun i x _ _ hi => ?_
    obtain ⟨t, j, hi⟩ := hi
    exact ⟨t, j, hi.congr rfl rfl rfl⟩
  callbacks := h.callbacks
  callbackNames := h.callbackNames

/-- An instrument that stands somewhere gets a name. -/
theorem nameInstrument (h : Depicts w s a) (id : String) {i : NamedInstrument} {x : Booked}
    {t : MeterRef} {j : InstrumentRef} (hi : s.Stands w i.ref x t j) :
    Depicts w (s.nameInstrument id i)
      { a with instrumentNames := a.instrumentNames.insert id x } where
  sound := h.sound.updateDirectory h.sound.names.providers h.sound.names.registrations
  known := h.known
  plain := h.plain
  nodup := h.nodup
  meters := h.meters
  meterNames := h.meterNames
  instrumentNames := by
    refine rel_insert (fun name => ?_) id ?_
    · refine rel_mono (h.instrumentNames name) fun i x _ _ hi => ?_
      obtain ⟨t, j, hi⟩ := hi
      exact ⟨t, j, hi.congr rfl rfl rfl⟩
    · exact ⟨t, j, hi.congr rfl rfl rfl⟩
  callbacks := h.callbacks
  callbackNames := h.callbackNames

/-- The provider `w`, or one whose chain ends there, is asked for a meter. -/
theorem issueMeter (h : Depicts w s a) (q : ProviderRef) (scope : Scope) :
    Depicts w (s.askMeter q w scope) { a with meters := a.meters ++ [⟨scope, [], []⟩] } ∧
      ((s.askMeter q w scope).provider w).meters[a.meters.length]? = some s.meters.next ∧
      (s.askMeter q w scope).meter s.meters.next = ⟨scope, some w, (s.provider w).freshBody⟩ := by
  have hanswer := Store.meterAnswer_of_plain h.plain scope
  have hprovider : (s.askMeter q w scope).provider w = (s.provider w).hold s.meters.next := by
    rw [Store.provider, Store.providers_askMeter, Table.get_update_self _ _ h.known, hanswer]
    exact h.plain.serve_meter scope _
  have hlist : ((s.askMeter q w scope).provider w).meters =
      (s.provider w).meters ++ [s.meters.next] := by
    rw [hprovider, h.plain.meters_hold]
  have hnew := Store.meter_askMeter_of_ok (p := q) hanswer
  have hhas : (s.askMeter q w scope).meters.Has s.meters.next := by
    rw [Store.meters_askMeter_of_ok s q hanswer]
    exact Table.has_next_add _ _
  have hinstruments := Store.instruments_askMeter s q w scope
  have hlater : Later s (s.askMeter q w scope) := .askMeter s q w scope
  have hrow : ∀ m, s.meters.Has m → (s.askMeter q w scope).meter m = s.meter m :=
    fun m hm => Store.meter_askMeter hm scope
  refine ⟨h.of_later (h.sound.askMeter scope h.known) hlater (fun m hm => ?_) (fun i _ => ?_)
    ?_ ?_ ?_ (Aside.askMeter s q w scope).callbacks (Store.directory_askMeter s q w scope).1, ?_,
    hnew⟩
  · rw [hrow m hm]
    exact .refl _
  · exact congrArg (Table.get · i) hinstruments
  · rw [hprovider]
    exact h.plain.hold _
  · rw [hlist]
    refine List.nodup_append.2 ⟨h.nodup, List.nodup_singleton _, ?_⟩
    intro m hm t ht heq
    obtain ⟨k, hk⟩ := List.mem_iff_getElem?.1 hm
    have hnext : m = s.meters.next := heq.trans (List.mem_singleton.1 ht)
    exact Table.ne_next_of_has (h.known_meter hk) hnext
  · rw [hlist]
    -- the meters before keep their places, and the new one comes after them
    refine Places.append (fun k => rel_mono (h.meters k) fun t l _ _ hrel => ?_) ⟨hhas, ?_⟩
    · refine ⟨(hlater.meters t hrel.1).1, ?_⟩
      rw [hrow t hrel.1, hinstruments]
      exact hrel.2
    · rw [hnew]
      have hplain := h.plain
      generalize s.provider w = p at hplain
      cases p with
      | recording x => exact .recording ⟨scope, [], []⟩
      | deferred x => exact .deferred scope [] fun i hi => absurd hi List.not_mem_nil
      | _ => exact hplain.elim
  · rw [hlist, ← h.meters.length_eq, List.getElem?_concat_length]

/-- The provider is asked for a meter, and the meter gets a name. -/
theorem askMeter (h : Depicts w s a) (q : ProviderRef) (scope : Scope) (id : String) :
    Depicts w ((s.askMeter q w scope).nameMeter id s.meters.next) (a.addMeter id scope) := by
  obtain ⟨hask, hplace, hnew⟩ := h.issueMeter q scope
  refine hask.nameMeter id hplace (Store.meterEnd?_eq_some.2 (endsAt_self ?_))
  rw [hnew]
  cases s.provider w <;> rfl

/-- The log of the meter with a place on the list of `w`. -/
theorem exists_kept (h : Depicts w s a) {k : Nat} {t : MeterRef}
    (ht : (s.provider w).meters[k]? = some t) :
    ∃ l, a.meters[k]? = some l ∧ Kept w s.instruments (s.meter t) l := by
  obtain ⟨l, hl, _, hkept⟩ := exists_of_rel_left (h.meters k) ht
  exact ⟨l, hl, hkept⟩

/-- Two places of the list are two meters. -/
theorem place_unique (h : Depicts w s a) {k n : Nat} {t : MeterRef}
    (hk : (s.provider w).meters[k]? = some t) (hn : (s.provider w).meters[n]? = some t) :
    n = k := by
  obtain ⟨hlt, hget⟩ := List.getElem?_eq_some_iff.1 hn
  obtain ⟨hlt', hget'⟩ := List.getElem?_eq_some_iff.1 hk
  exact (h.nodup.getElem_inj_iff).1 (hget.trans hget'.symm)

/-- One meter on the list of `w` changes, and its log with it. -/
theorem meters_modify (h : Depicts w s a) (hlater : Later s s')
    (hlist : (s'.provider w).meters = (s.provider w).meters) {k : Nat} {t : MeterRef}
    (ht : (s.provider w).meters[k]? = some t) {f : MeterLog → MeterLog}
    (hhere : ∀ l, Kept w s.instruments (s.meter t) l → Kept w s'.instruments (s'.meter t) (f l))
    (helse : ∀ x, x ≠ t → s'.meter x = s.meter x) :
    Places (fun t l => s'.meters.Has t ∧ Kept w s'.instruments (s'.meter t) l)
      (s'.provider w).meters (a.meters.modify k f) := by
  rw [hlist]
  refine h.meters.modify k (fun x l hx hrel => ?_) (fun n x l hn hx hrel => ?_)
  · have hxt : x = t := Option.some.inj (hx.symm.trans ht)
    subst hxt
    exact ⟨(hlater.meters x hrel.1).1, hhere l hrel.2⟩
  · -- no meter stands at two places
    have hxt : x ≠ t := by
      rintro rfl
      exact hn (h.place_unique ht hx)
    refine ⟨(hlater.meters x hrel.1).1, ?_⟩
    rw [helse x hxt]
    exact hrel.2.later hlater.instruments

section AskInstrument

variable (h : Depicts w s a) (m : MeterRef) {t : MeterRef} {k : Nat}
  (ht : (s.provider w).meters[k]? = some t) (request : Request)
include h ht

theorem instrumentAnswer : s.instrumentAnswer t request = .ok s.instruments.next := by
  obtain ⟨l, _, hkept⟩ := h.exists_kept ht
  exact Store.instrumentAnswer_of_plain h.plain hkept.issuer request

theorem provider_askInstrument : (s.askInstrument m t request).provider w = s.provider w := by
  obtain ⟨l, _, hkept⟩ := h.exists_kept ht
  rw [Store.provider, Store.providers_askInstrument s m request hkept.issuer,
    h.instrumentAnswer ht request, Table.get_update_self _ _ h.known]
  exact h.plain.serve_instrument request _

theorem meter_askInstrument (x : MeterRef) :
    (s.askInstrument m t request).meter x =
      if x = t then (s.meter t).keepRequest request s.instruments.next else s.meter x := by
  rw [Store.meter, Store.meters_askInstrument, h.instrumentAnswer ht request]
  by_cases hx : x = t
  · subst hx
    rw [if_pos rfl]
    exact Table.get_update_self _ _ (h.known_meter ht)
  · rw [if_neg hx]
    exact Table.get_update_of_ne _ _ (Ne.symm hx)

theorem like_askInstrument (x : MeterRef) :
    (s.meter x).Like ((s.askInstrument m t request).meter x) := by
  rw [h.meter_askInstrument m ht request x]
  split
  · rename_i hx
    rw [hx]
    exact Meter.like_keepRequest _ request _
  · exact .refl _

theorem instruments_askInstrument :
    (s.askInstrument m t request).instruments =
      s.instruments.add ⟨request, t, (s.meter t).freshDestination⟩ :=
  Store.instruments_askInstrument_of_ok s m (h.instrumentAnswer ht request)

/-- The instrument that is returned is new. -/
theorem returned_askInstrument :
    (s.askInstrument m t request).instruments.Has s.instruments.next ∧
      (s.askInstrument m t request).instrument s.instruments.next =
        ⟨request, t, (s.meter t).freshDestination⟩ := by
  rw [Store.instrument, h.instruments_askInstrument m ht request]
  exact ⟨Table.has_next_add _ _, Table.get_add_next _ _⟩

/-- A meter with a place on the list of `w` is asked for an instrument. -/
theorem issueInstrument :
    Depicts w (s.askInstrument m t request)
      { a with meters := a.meters.modify k fun l => l.create request } := by
  have hlater : Later s (s.askInstrument m t request) := .askInstrument s m t request
  have hprovider := h.provider_askInstrument m ht request
  obtain ⟨hhas, hnew⟩ := h.returned_askInstrument m ht request
  refine h.of_later (h.sound.askInstrument m t request) hlater
    (fun x _ => h.like_askInstrument m ht request x) (fun i hi => ?_) ?_ ?_ ?_
    (Aside.askInstrument s m t request).callbacks (Store.directory_askInstrument s m t request).1
  · rw [Store.instrument, h.instruments_askInstrument m ht request]
    exact Table.get_add_of_has _ _ hi
  · rw [hprovider]
    exact h.plain
  · rw [hprovider]
    exact h.nodup
  · refine h.meters_modify hlater (congrArg Provider.meters hprovider) ht (fun l hkept => ?_)
      fun x hx => (h.meter_askInstrument m ht request x).trans (if_neg hx)
    rw [h.meter_askInstrument m ht request t, if_pos rfl]
    exact hkept.create hlater.instruments hhas (congrArg Instrument.request hnew)

/-- The instrument stands with its meter. -/
theorem stands_askInstrument :
    (s.askInstrument m t request).Stands w s.instruments.next ⟨k, request⟩ t
      s.instruments.next := by
  obtain ⟨l, _, hkept⟩ := h.exists_kept ht
  obtain ⟨hhas, hnew⟩ := h.returned_askInstrument m ht request
  constructor
  case meter =>
    rw [h.provider_askInstrument m ht request]
    exact ht
  case known => exact ⟨hhas, hhas⟩
  case ends =>
    refine Store.instrumentEnd?_eq_some.2 (endsAt_self ?_)
    rw [hnew]
    exact Meter.target?_freshDestination _ _ t
  case request => rw [hnew]
  case row => rw [hnew, Meter.freshDestination_of_like (h.like_askInstrument m ht request t)]
  case listed =>
    rw [h.meter_askInstrument m ht request t, if_pos rfl]
    exact hkept.mem_instruments request _

end AskInstrument

/-- A meter is asked for an instrument, and the instrument gets a name. -/
theorem askInstrument (h : Depicts w s a) (m : MeterRef) {t : MeterRef} {k : Nat}
    (ht : (s.provider w).meters[k]? = some t) (request : Request) (id : String) (issued : Bool) :
    Depicts w ((s.askInstrument m t request).nameInstrument id ⟨s.instruments.next, issued⟩)
      (a.addInstrument id ⟨k, request⟩) :=
  (h.issueInstrument m ht request).nameInstrument id (h.stands_askInstrument m ht request)

/-! ## Samples -/

/-- A meter of a recording provider records. -/
theorem isDeferred_meter (h : Depicts w s a) (hw : (s.provider w).isDeferred = false) {k : Nat}
    {t : MeterRef} (ht : (s.provider w).meters[k]? = some t) :
    (s.meter t).body.isDeferred = false := by
  obtain ⟨l, _, hkept⟩ := h.exists_kept ht
  exact (Provider.isDeferred_of_fits (h.sound.tree.fits t w hkept.issuer).2).trans hw

theorem note (h : Depicts w s a) {c : Call} (hc : ∀ m t, c ≠ .bindMeter m t) :
    Depicts w (s.note c) a :=
  h.of_later (h.sound.note hc) (.note s c) (fun _ _ => .refl _) (fun _ _ => rfl) h.plain h.nodup
    h.meters rfl rfl

/-- A recording meter with a place on the list of `w` keeps some events. -/
theorem keep (h : Depicts w s a) (hw : (s.provider w).isDeferred = false) {k : Nat} {t : MeterRef}
    (ht : (s.provider w).meters[k]? = some t) (events : List Recorded) :
    Depicts w (s.updateMeter t fun m => m.keep events) (a.keep k events) := by
  have hlater : Later s (s.updateMeter t fun m => m.keep events) :=
    .updateMeter (Meter.grows_keep _ _)
  have hhere : (s.updateMeter t fun m => m.keep events).meter t = (s.meter t).keep events :=
    Table.get_update_self _ _ (h.known_meter ht)
  have helse : ∀ x, x ≠ t → (s.updateMeter t fun m => m.keep events).meter x = s.meter x :=
    fun x hx => Table.get_update_of_ne _ _ (Ne.symm hx)
  refine h.of_later (h.sound.keep t events) hlater (fun x _ => ?_) (fun _ _ => rfl) h.plain h.nodup
    (h.meters_modify hlater rfl ht (fun l hkept => ?_) helse) rfl rfl
  · by_cases hx : x = t
    · subst hx
      rw [hhere]
      exact Meter.like_keep _ events
    · rw [helse x hx]
      exact .refl _
  · rw [hhere]
    exact hkept.keep (h.isDeferred_meter hw ht) events

/-- A callback is called. -/
theorem ask (h : Depicts w s a) (c : CallbackRef) :
    Depicts w (s.updateCallback c fun x => { x with asked := x.asked + 1 }) (a.ask c) where
  sound := h.sound.of_eq rfl rfl rfl rfl rfl rfl
  known := h.known
  plain := h.plain
  nodup := h.nodup
  meters := h.meters
  meterNames := h.meterNames
  instrumentNames name := by
    refine rel_mono (h.instrumentNames name) fun i x _ _ hi => ?_
    obtain ⟨t, j, hi⟩ := hi
    exact ⟨t, j, hi.congr rfl rfl rfl⟩
  callbacks := congrArg (Table.update · c _) h.callbacks
  callbackNames := h.callbackNames

/-- What could be seen does not matter. -/
theorem retrace (h : Depicts w s a) (seen : Array Event) (shown : Array Event) :
    Depicts w { s with trace := seen } { a with trace := shown } where
  sound := h.sound.of_eq rfl rfl rfl rfl rfl rfl
  known := h.known
  plain := h.plain
  nodup := h.nodup
  meters := h.meters
  meterNames := h.meterNames
  instrumentNames name := by
    refine rel_mono (h.instrumentNames name) fun i x _ _ hi => ?_
    obtain ⟨t, j, hi⟩ := hi
    exact ⟨t, j, hi.congr rfl rfl rfl⟩
  callbacks := h.callbacks
  callbackNames := h.callbackNames

end Depicts

end DeferredMetrics
