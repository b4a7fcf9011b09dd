import DeferredMetrics.Proofs.Asking
import DeferredMetrics.Proofs.Performing

set_option autoImplicit false

/-! # Programs before a provider is in effect

As long as no provider is in effect in a registration, and its configuration names none, the
deferred provider answers what a program asks for, and samples are dropped. So the store is
depicted by the ledger of the program without its samples (`Waiting.run`). -/

namespace DeferredMetrics

open Relation (ReflTransGen)

/-- What stands under the key of a discovery. -/
def Discovery.value? (discovery : Discovery) (environment : Environment) : Option String :=
  match discovery.source with
  | .settings values => values.get? discovery.key
  | .environment => environment.get? discovery.key

/-- The configuration of the registration names no provider: there is no value, or a blank one. -/
def Store.NamesNone (s : Store) (r : RegistrationRef) : Prop :=
  ∀ value, (s.registration r).discovery.value? s.environment = some value →
    (trim value).isEmpty = true

/-- What could be seen when the registration `r` has looked up its key: settings show that they are
asked, the environment does not. -/
def Store.lookedUp (s : Store) (r : RegistrationRef) : Array Event :=
  match (s.registration r).discovery.source with
  | .settings _ => s.trace.push (.lookup (s.registration r).discovery.key)
  | .environment => s.trace

/-- The registration `r` has no provider and finds none, and the recording provider `p` is there,
of which nobody has asked anything. -/
structure Store.Awaits (s : Store) (r : RegistrationRef) (p : ProviderRef) : Prop where
  registration : s.registrations.Has r
  slot : (s.registration r).provider = none
  gate : (s.gate r).fired = false
  idle : s.NamesNone r
  provider : s.providers.Has p
  fresh : s.provider p = .freshRecording none

theorem Store.Awaits.congr {s s' : Store} {r : RegistrationRef} {p : ProviderRef} (h : s.Awaits r p)
    (hregistrations : s'.registrations = s.registrations)
    (henvironment : s'.environment = s.environment) (hhas : s'.providers.Has p)
    (hprovider : s'.provider p = s.provider p) : s'.Awaits r p := by
  have hrow : s'.registration r = s.registration r := congrArg (Table.get · r) hregistrations
  constructor
  case registration =>
    rw [hregistrations]
    exact h.registration
  case slot =>
    rw [hrow]
    exact h.slot
  case gate =>
    rw [Store.gate, hrow]
    exact h.gate
  case idle =>
    unfold Store.NamesNone
    rw [hrow, henvironment]
    exact h.idle
  case provider => exact hhas
  case fresh =>
    rw [hprovider]
    exact h.fresh

/-- The registration `r` awaits the provider `p`, and the ledger tells what its deferred provider
`d` and its meters have been asked for. -/
structure Waiting (names : Directory) (r : RegistrationRef) (d p : ProviderRef) (s : Store)
    (a : Ledger) :
    Prop extends Depicts d s a where
  deferred : (s.provider d).isDeferred = true
  owner : (s.registration r).deferred = d
  awaits : s.Awaits r p
  registrations : s.directory.registrations = names.registrations
  providers : s.directory.providers = names.providers

variable {names : Directory} {r : RegistrationRef} {d p : ProviderRef} {s s' : Store}
  {a a' : Ledger}

namespace Waiting

theorem ne (h : Waiting names r d p s a) : d ≠ p := by
  rintro rfl
  have hdeferred := h.deferred
  rw [h.awaits.fresh] at hdeferred
  cases hdeferred

/-- The deferred provider may serve. -/
theorem of_depicts (h : Waiting names r d p s a) (hdepicts : Depicts d s' a')
    (hproviders : s'.providers = s.providers ∨
      ∃ x, s'.providers = s.providers.update d fun q => q.serve x)
    (hregistrations : s'.registrations = s.registrations)
    (henvironment : s'.environment = s.environment)
    (hroster : s'.directory.registrations = s.directory.registrations)
    (hnames : s'.directory.providers = s.directory.providers) : Waiting names r d p s' a' := by
  have hrows : (s'.provider d).freshBody = (s.provider d).freshBody ∧ s'.providers.Has p ∧
      s'.provider p = s.provider p := by
    rcases hproviders with hsame | ⟨x, hserve⟩
    · have hrow : ∀ q, s'.provider q = s.provider q := fun q => congrArg (Table.get · q) hsame
      rw [hrow, hrow, hsame]
      exact ⟨rfl, h.awaits.provider, rfl⟩
    · have hrow : s'.provider d = (s.provider d).serve x := by
        rw [Store.provider, hserve]
        exact Table.get_update_self _ _ h.known
      have helse : s'.provider p = s.provider p := by
        rw [Store.provider, hserve]
        exact Table.get_update_of_ne _ _ h.ne
      rw [hrow, hserve]
      exact ⟨Provider.freshBody_serve _ x, (Table.has_update _ _ _ _).2 h.awaits.provider, helse⟩
  exact
    { toDepicts := hdepicts
      deferred := (Provider.isDeferred_of_freshBody hrows.1).trans h.deferred
      owner := by
        rw [Store.registration, hregistrations]
        exact h.owner
      awaits := h.awaits.congr hregistrations henvironment hrows.2.1 hrows.2.2
      registrations := hroster.trans h.registrations
      providers := hnames.trans h.providers }

theorem note (h : Waiting names r d p s a) {c : Call} (hc : ∀ m t, c ≠ .bindMeter m t) :
    Waiting names r d p (s.note c) a :=
  h.of_depicts (h.toDepicts.note hc) (.inl rfl) rfl rfl rfl rfl

theorem retrace (h : Waiting names r d p s a) (seen shown : Array Event) :
    Waiting names r d p { s with trace := seen } { a with trace := shown } :=
  h.of_depicts (h.toDepicts.retrace seen shown) (.inl rfl) rfl rfl rfl rfl

theorem askMeter (h : Waiting names r d p s a) (q : ProviderRef) (scope : Scope) (id : String) :
    Waiting names r d p ((s.askMeter q d scope).nameMeter id s.meters.next)
      (a.addMeter id scope) := by
  have haside := Aside.askMeter s q d scope
  have hdirectory := (Store.directory_askMeter s q d scope).1
  have hroster := congrArg Directory.registrations hdirectory
  have hnames := congrArg Directory.providers hdirectory
  have hserve := s.providers_askMeter q d scope
  exact h.of_depicts (h.toDepicts.askMeter q scope id) (.inr ⟨_, hserve⟩) haside.registrations
    haside.environment hroster hnames

theorem askInstrument (h : Waiting names r d p s a) (m : MeterRef) {t : MeterRef} {k : Nat}
    (ht : (s.provider d).meters[k]? = some t) (request : Request) (id : String) (issued : Bool) :
    Waiting names r d p
      ((s.askInstrument m t request).nameInstrument id ⟨s.instruments.next, issued⟩)
      (a.addInstrument id ⟨k, request⟩) := by
  have haside := Aside.askInstrument s m t request
  have hdirectory := (Store.directory_askInstrument s m t request).1
  have hroster := congrArg Directory.registrations hdirectory
  have hnames := congrArg Directory.providers hdirectory
  obtain ⟨l, _, hkept⟩ := h.exists_kept ht
  have hserve := s.providers_askInstrument m request hkept.issuer
  exact h.of_depicts (h.toDepicts.askInstrument m ht request id issued) (.inr ⟨_, hserve⟩)
    haside.registrations haside.environment hroster hnames

/-- An instrument that stands somewhere waits for a target. -/
theorem row (h : Waiting names r d p s a) {i j : InstrumentRef} {x : Booked} {t : MeterRef}
    (hi : s.Stands d i x t j) : s.instrument j = ⟨x.request, t, .deferred none⟩ := by
  obtain ⟨l, _, hkept⟩ := h.exists_kept hi.meter
  have hfits := (h.sound.tree.fits t d hkept.issuer).2
  have hwaits : (s.meter t).body.isDeferred = true :=
    (Provider.isDeferred_of_fits hfits).trans h.deferred
  rw [hi.row]
  generalize s.meter t = m at hkept hwaits
  cases hkept with
  | recording => cases hwaits
  | deferred => rfl

end Waiting

/-! ## Requests -/

namespace Op

/-- Reading the configuration changes nothing but what could be seen. -/
theorem lookUp_run (s : Store) (r : RegistrationRef) :
    lookUp (s.registration r).discovery.source (s.registration r).discovery.key s =
      .ok ((s.registration r).discovery.value? s.environment)
        { s with trace := s.lookedUp r } := by
  unfold lookUp Discovery.value? Store.lookedUp
  cases (s.registration r).discovery.source <;> rfl

/-- A discovery that finds nothing changes nothing but what could be seen. -/
theorem resolve_of_namesNone (depth : Nat) (h : s.NamesNone r) :
    resolve depth r s = .ok (.ok none) { s with trace := s.lookedUp r } := by
  rw [resolve, bind_of_ok (get_run s), bind_of_ok (lookUp_run s r)]
  cases hvalue : (s.registration r).discovery.value? s.environment with
  | none => rfl
  | some value =>
      simp only
      rw [if_pos (h value hvalue)]
      rfl

/-- As long as a registration has no provider and finds none, its deferred provider is the one in
effect. -/
theorem getProvider_of_namesNone (depth : Nat) (hslot : (s.registration r).provider = none)
    (h : s.NamesNone r) : getProvider depth r s =
      .ok (.ok (s.registration r).deferred) { s with trace := s.lookedUp r } := by
  rw [getProvider, bind_of_ok (registered_run hslot)]
  simp only
  rw [bind_of_ok (resolve_of_namesNone depth h)]
  rfl

/-- Any reply corresponds to any. -/
abbrev AnyReply : Reply → Reply → Prop := fun _ _ => True

theorem mirrors_waiting_askMeter (h : Waiting names r d p s a) (id : String) (scope : Scope) :
    Mirrors (Waiting names r d p) AnyReply (requestMeter d scope >>= nameMeter id)
      (Booking.addMeter id scope) s a :=
  mirrors_requestMeter h.toDepicts (Store.providerEnd?_of_plain h.plain) id scope
    (h.askMeter d scope id) trivial

/-- A step that gives no sample does to the store what it does to the ledger. -/
theorem mirrors_waiting_perform (depth : Nat) (processWide : Option RegistrationRef) {x : Step}
    (hx : x.handles names r d = true) (hsamples : x.samples = false) (h : Waiting names r d p s a) :
    Mirrors (Waiting names r d p) AnyReply (perform depth processWide x) (Booking.perform x) s
      a := by
  cases x with
  | getMeter name id scope =>
      have hname : s.directory.registrations.get? name = some r := by
        rw [h.registrations]
        exact of_decide_eq_true hx
      have hprovider := getProvider_of_namesNone depth h.awaits.slot h.awaits.idle
      rw [h.owner] at hprovider
      generalize s.lookedUp r = seen at hprovider
      have hasked := mirrors_waiting_askMeter (h.retrace seen a.trace) id scope
      refine mirrors_congr (bind_of_ok (named_of_some hname)) ?_
      -- Asking the discovery costs the store its trace; what follows runs in what is left.
      replace hasked : Mirrors (Waiting names r d p) AnyReply
          (fun _ => (requestMeter d scope >>= nameMeter id) { s with trace := seen })
          (Booking.addMeter id scope) s a := hasked
      refine mirrors_congr ?_ hasked
      rw [getMeter, bind_assoc, bind_of_ok hprovider, bind_assoc]
      rfl
  | meter name id scope =>
      obtain ⟨q, hname, hq⟩ := Option.map_eq_some_iff.1 (of_decide_eq_true hx)
      rw [← h.providers] at hname
      refine mirrors_congr (bind_of_ok (providerNamed_of_some hname)) ?_
      rw [hq]
      exact mirrors_waiting_askMeter h id scope
  | create meter id kind descriptor callback =>
      exact mirrors_create h.toDepicts h meter id kind descriptor callback
        (fun m t k request issued ht _ => h.askInstrument m ht request id issued)
        fun _ _ _ _ _ _ _ => trivial
  | add instrument value attributes => cases hsamples
  | increment instrument attributes => cases hsamples
  | record instrument value attributes => cases hsamples
  | observe instrument => cases hsamples
  | _ => cases hx

end Op

/-! ## Samples -/

/-- A call was written down, and nothing else has happened. -/
def Dropped (s s' : Store) : Prop := ∃ c : Call, (∀ m t, c ≠ .bindMeter m t) ∧ s' = s.note c

theorem Waiting.of_dropped (h : Waiting names r d p s a) (hpath : ReflTransGen Dropped s s') :
    Waiting names r d p s' a := by
  induction hpath with
  | refl => exact h
  | tail _ hdropped ih =>
      obtain ⟨c, hc, rfl⟩ := hdropped
      exact ih.note hc

namespace Op

/-- A sample for an instrument without a target is dropped. -/
theorem goes_record_dropped (h : Waiting names r d p s a) {i j : InstrumentRef} {x : Booked}
    {t : MeterRef} (hi : s.Stands d i x t j) (sample : Sample) (attributes : AttributeSet) :
    Goes Dropped (record i sample attributes) s Anything := by
  let s₁ := s.note (.sample i sample attributes)
  have hrow : s₁.instrument j = ⟨x.request, t, .deferred none⟩ := h.row hi
  have hend : s₁.instrumentEnd? i = some j := hi.ends
  have haccept : s₁.accept j sample attributes = s₁ := by
    unfold Store.accept
    simp only [hrow]
  have hrun : record i sample attributes s = .ok () s₁ := by
    rw [record, bind_of_ok (note_run _ s), bind_of_ok (instrumentEnd_of_some hend), modify_run,
      haccept]
  exact goes_of_ok hrun (.single ⟨.sample i sample attributes, nofun, rfl⟩) trivial

/-- An instrument without a target has nothing to observe. -/
theorem goes_observe_dropped (h : Waiting names r d p s a) {i j : InstrumentRef} {x : Booked}
    {t : MeterRef} (hi : s.Stands d i x t j) : Goes Dropped (observe i) s Anything := by
  let s₁ := s.note (.observe i)
  have hrow : s₁.instrument j = ⟨x.request, t, .deferred none⟩ := h.row hi
  have hend : s₁.instrumentEnd? i = some j := hi.ends
  have hrun : observe i s = .ok [] s₁ := by
    rw [observe, bind_of_ok (note_run _ s), bind_of_ok (instrumentEnd_of_some hend),
      bind_of_ok (get_run s₁), hrow]
    rfl
  exact goes_of_ok hrun (.single ⟨.observe i, nofun, rfl⟩) trivial

theorem goes_instrumentNamed_bind {β : Type} {R : Store → Store → Prop} {Q : β → Store → Prop}
    (h : Depicts d s a) {name : String} {f : InstrumentRef → Op β}
    (hf : ∀ i x t j, s.Stands d i x t j → Goes R (f i) s Q) :
    Goes R (instrumentNamed name >>= f) s Q := by
  rw [instrumentNamed, bind_assoc]
  refine goes_named_bind fun i hname => ?_
  obtain ⟨x, _, t, j, hi⟩ := exists_of_rel_left (h.instrumentNames name) hname
  exact hf i.ref x t j hi

theorem goes_addTo_dropped (h : Waiting names r d p s a) (name : String) (value : Int)
    (attributes : AttributeSet) : Goes Dropped (addTo name value attributes) s Anything := by
  refine goes_instrumentNamed_bind h.toDepicts fun i x t j hi => goes_get_bind ?_
  unfold sampleFor
  split
  · exact goes_record_dropped h hi _ attributes
  · exact goes_record_dropped h hi _ attributes
  · exact goes_of_error rfl .refl

/-- A step that gives a sample changes nothing. -/
theorem goes_perform_dropped (depth : Nat) (processWide : Option RegistrationRef) {x : Step}
    (hsamples : x.samples = true) (h : Waiting names r d p s a) :
    Goes Dropped (perform depth processWide x) s Anything := by
  have hdone : ∀ {α : Type} {op : Op α} (f : α → Reply), Goes Dropped op s Anything →
      Goes Dropped (op >>= fun y => pure (f y)) s Anything :=
    fun f hop => hop.bind fun _ _ _ _ => goes_pure trivial
  cases x with
  | add instrument value attributes =>
      exact hdone _ (goes_addTo_dropped h instrument value attributes)
  | increment instrument attributes => exact hdone _ (goes_addTo_dropped h instrument 1 attributes)
  | record instrument value attributes =>
      refine goes_instrumentNamed_bind h.toDepicts fun i y t j hi => ?_
      exact hdone _ (goes_record_dropped h hi (.value value) attributes)
  | observe instrument =>
      refine goes_instrumentNamed_bind h.toDepicts fun i y t j hi => ?_
      exact hdone _ (goes_observe_dropped h hi)
  | _ => cases hsamples

end Op

/-! ## Programs -/

namespace Waiting

variable (depth : Nat) (processWide : Option RegistrationRef)

/-- A step does to the store what it does to the ledger, or nothing, if it gives a sample. -/
theorem step (h : Waiting names r d p s a) {x : Step} (hx : x.handles names r d = true) :
    Waiting names r d p (Scenario.step depth processWide s x).2
      (if x.samples then a else (a.step x).2) := by
  have hclear : Waiting names r d p { s with trace := #[] } a := h.retrace #[] a.trace
  cases hsamples : x.samples with
  | true =>
      rw [if_pos rfl, Scenario.step_left]
      exact hclear.of_dropped (Op.goes_perform_dropped depth processWide hsamples hclear).path
  | false =>
      have hboth : Waiting names r d p { s with trace := #[] } a.clear := h.retrace #[] #[]
      rw [if_neg Bool.false_ne_true]
      exact (Op.mirrors_waiting_perform depth processWide hx hsamples hboth).step

/-- A program does to the store what it does to the ledger without its samples. -/
theorem run (h : Waiting names r d p s a) {steps : List Step}
    (hsteps : ∀ x ∈ steps, x.handles names r d = true) :
    Waiting names r d p (Scenario.after depth processWide s steps)
      (a.after (steps.filter fun x => !x.samples)) := by
  induction steps generalizing s a with
  | nil => exact h
  | cons x steps ih =>
      have hstep := h.step depth processWide (hsteps x List.mem_cons_self)
      have hrest := ih hstep fun y hy => hsteps y (List.mem_cons_of_mem x hy)
      cases hsamples : x.samples with
      | true =>
          rw [List.filter_cons_of_neg (by simp [hsamples])]
          rw [hsamples, if_pos rfl] at hrest
          exact hrest
      | false =>
          rw [List.filter_cons_of_pos (by simp [hsamples])]
          rw [hsamples, if_neg Bool.false_ne_true] at hrest
          exact hrest

end Waiting

end DeferredMetrics
