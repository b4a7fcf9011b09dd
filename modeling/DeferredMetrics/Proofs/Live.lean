import DeferredMetrics.Proofs.Asking

set_option autoImplicit false

/-! # Programs while a provider is in effect

Once a recording provider is in effect in a registration, every step of a program does to the store
what it does to the ledger that depicts it, and it answers and shows the same (`Live.step`). So the
replies of a program, and what the provider and its meters keep in the end, are read off the ledger
(`Live.run`). -/

namespace DeferredMetrics

/-- The recording provider `p` is in effect in the registration `r`, the chain of the deferred
provider `d` ends there, and the ledger tells what `p` and its meters keep. -/
structure Live (names : Directory) (r : RegistrationRef) (d p : ProviderRef) (s : Store)
    (a : Ledger) :
    Prop extends Depicts p s a where
  recording : (s.provider p).isDeferred = false
  slot : (s.registration r).provider = some p
  ends : s.providerEnd? d = some p
  registrations : s.directory.registrations = names.registrations
  providers : s.directory.providers = names.providers

variable {names : Directory} {r : RegistrationRef} {d p : ProviderRef} {s s' : Store}
  {a a' : Ledger}

namespace Live

/-- Providers that serve keep the provider in effect. -/
theorem of_depicts (h : Live names r d p s a) (hdepicts : Depicts p s' a')
    (hrows : ∀ q, (s'.provider q).target? = (s.provider q).target? ∧
      (s'.provider q).freshBody = (s.provider q).freshBody)
    (hslot : s'.registrations = s.registrations)
    (hregistrations : s'.directory.registrations = s.directory.registrations)
    (hproviders : s'.directory.providers = s.directory.providers) : Live names r d p s' a' where
  toDepicts := hdepicts
  recording := (Provider.isDeferred_of_freshBody (hrows p).2).trans h.recording
  slot := by
    rw [Store.registration, hslot]
    exact h.slot
  ends := by
    rw [Store.providerEnd?_eq_some, funext fun q => (hrows q).1]
    exact Store.providerEnd?_eq_some.1 h.ends
  registrations := hregistrations.trans h.registrations
  providers := hproviders.trans h.providers

theorem note (h : Live names r d p s a) {c : Call} (hc : ∀ m t, c ≠ .bindMeter m t) :
    Live names r d p (s.note c) a :=
  h.of_depicts (h.toDepicts.note hc) (fun _ => ⟨rfl, rfl⟩) rfl rfl rfl

theorem retrace (h : Live names r d p s a) (seen shown : Array Event) :
    Live names r d p { s with trace := seen } { a with trace := shown } :=
  h.of_depicts (h.toDepicts.retrace seen shown) (fun _ => ⟨rfl, rfl⟩) rfl rfl rfl

theorem keep (h : Live names r d p s a) {k : Nat} {t : MeterRef}
    (ht : (s.provider p).meters[k]? = some t) (events : List Recorded) :
    Live names r d p (s.updateMeter t fun m => m.keep events) (a.keep k events) :=
  h.of_depicts (h.toDepicts.keep h.recording ht events) (fun _ => ⟨rfl, rfl⟩) rfl rfl rfl

theorem ask (h : Live names r d p s a) (c : CallbackRef) :
    Live names r d p (s.updateCallback c fun x => { x with asked := x.asked + 1 }) (a.ask c) :=
  h.of_depicts (h.toDepicts.ask c) (fun _ => ⟨rfl, rfl⟩) rfl rfl rfl

/-- A provider that serves hands on what it handed on, and issues what it issued. -/
theorem rows_serve {providers : Table .provider Provider} (e : ProviderRef) (x : Exchange)
    (q : ProviderRef) :
    ((providers.update e fun y => y.serve x).get q).target? = (providers.get q).target? ∧
      ((providers.update e fun y => y.serve x).get q).freshBody = (providers.get q).freshBody := by
  rw [Table.get_update]
  split
  · rename_i heq
    rw [heq.1]
    exact ⟨Provider.target?_serve _ x, Provider.freshBody_serve _ x⟩
  · exact ⟨rfl, rfl⟩

theorem askMeter (h : Live names r d p s a) (q : ProviderRef) (scope : Scope) (id : String) :
    Live names r d p ((s.askMeter q p scope).nameMeter id s.meters.next) (a.addMeter id scope) := by
  have hdirectory := (Store.directory_askMeter s q p scope).1
  have hregistrations := congrArg Directory.registrations hdirectory
  have hnames := congrArg Directory.providers hdirectory
  refine h.of_depicts (h.toDepicts.askMeter q scope id) (fun x => ?_)
    (Aside.askMeter s q p scope).registrations hregistrations hnames
  have hproviders : ((s.askMeter q p scope).nameMeter id s.meters.next).providers = _ :=
    s.providers_askMeter q p scope
  rw [Store.provider, hproviders]
  exact rows_serve p _ x

theorem askInstrument (h : Live names r d p s a) (m : MeterRef) {t : MeterRef} {k : Nat}
    (ht : (s.provider p).meters[k]? = some t) (request : Request) (id : String) (issued : Bool) :
    Live names r d p ((s.askInstrument m t request).nameInstrument id ⟨s.instruments.next, issued⟩)
      (a.addInstrument id ⟨k, request⟩) := by
  have hdirectory := (Store.directory_askInstrument s m t request).1
  have hregistrations := congrArg Directory.registrations hdirectory
  have hnames := congrArg Directory.providers hdirectory
  obtain ⟨l, _, hkept⟩ := h.exists_kept ht
  refine h.of_depicts (h.toDepicts.askInstrument m ht request id issued) (fun x => ?_)
    (Aside.askInstrument s m t request).registrations hregistrations hnames
  have hproviders : ((s.askInstrument m t request).nameInstrument id
      ⟨s.instruments.next, issued⟩).providers = _ :=
    s.providers_askInstrument m request hkept.issuer
  rw [Store.provider, hproviders]
  exact rows_serve p _ x

/-- An instrument that stands somewhere keeps what it gets in the log of its meter. -/
theorem row (h : Live names r d p s a) {i j : InstrumentRef} {x : Booked} {t : MeterRef}
    (hi : s.Stands p i x t j) : s.instrument j = ⟨x.request, t, .log⟩ := by
  have hrecords := h.isDeferred_meter h.recording hi.meter
  obtain ⟨l, _, hkept⟩ := h.exists_kept hi.meter
  rw [hi.row]
  generalize s.meter t = m at hkept hrecords
  cases hkept with
  | recording => rfl
  | deferred => cases hrecords

/-- What the provider in effect and its meters hold is what the ledger says. -/
theorem backend (h : Live names r d p s a) : s.backend p = a.meters := by
  apply List.ext_getElem?
  intro k
  rw [Store.backend, List.getElem?_map]
  cases ht : (s.provider p).meters[k]? with
  | none => rw [(eq_none_iff_of_rel (h.meters k)).1 ht, Option.map_none]
  | some t =>
      obtain ⟨l, hl, hkept⟩ := h.exists_kept ht
      have hrecords := h.isDeferred_meter h.recording ht
      rw [hl, Option.map_some]
      generalize s.meter t = m at hkept hrecords
      cases hkept with
      | recording => rfl
      | deferred => cases hrecords

end Live

/-- No deferred provider has issued a meter of a recording one. -/
theorem Depicts.isIssued (h : Depicts p s a) (hp : (s.provider p).isDeferred = false) {k : Nat}
    {t : MeterRef} (ht : (s.provider p).meters[k]? = some t) : s.isIssued t = false := by
  obtain ⟨l, _, hkept⟩ := h.exists_kept ht
  unfold Store.isIssued
  rw [List.any_eq_false]
  intro q _ hq
  cases hprovider : s.provider q with
  | deferred x =>
      rw [hprovider] at hq
      have hmem : t ∈ (s.provider q).issued := by
        rw [hprovider]
        exact List.contains_iff_mem.1 hq
      -- whoever has issued the meter is `p`, which is not deferred
      have hissuer := (h.sound.tree.issued q t hmem).2
      have hqp : q = p := Option.some.inj (hissuer.symm.trans hkept.issuer)
      rw [hqp] at hprovider
      rw [hprovider] at hp
      cases hp
  | _ =>
      rw [hprovider] at hq
      cases hq

/-! ## Samples -/

/-- The provider is in effect, what could be seen is the same, and providers are what they were. -/
structure Sampling (names : Directory) (r : RegistrationRef) (d p : ProviderRef)
    (held : Table .provider Provider) (s : Store) (a : Ledger) : Prop extends
    Live names r d p s a where
  trace : s.trace = a.trace
  same : s.providers = held

namespace Op

variable {held : Table .provider Provider}

theorem mirrors_record (h : Sampling names r d p held s a) {i j : InstrumentRef} {x : Booked}
    {t : MeterRef} (hi : s.Stands p i x t j) (sample : Sample) (attributes : AttributeSet) :
    Mirrors (Sampling names r d p held) Eq (record i sample attributes)
      (Booking.record x sample attributes) s a := by
  let events := [x.recorded sample.toBinary64 attributes]
  let s₁ := s.note (.sample i sample attributes)
  have haccept : s₁.accept j sample attributes = s₁.updateMeter t fun m => m.keep events := by
    have hrow : s₁.instrument j = ⟨x.request, t, .log⟩ := h.row hi
    unfold Store.accept
    simp only [hrow]
    rfl
  have hend : s₁.instrumentEnd? i = some j := hi.ends
  have hrun : record i sample attributes s = .ok () (s₁.updateMeter t fun m => m.keep events) := by
    rw [record, bind_of_ok (note_run _ s), bind_of_ok (instrumentEnd_of_some hend), modify_run,
      haccept]
  have hlive : Live names r d p s₁ a := h.toLive.note nofun
  exact mirrors_of_ok hrun rfl rfl ⟨hlive.keep hi.meter events, h.trace, h.same⟩

/-- What comes of the instrument of a name. -/
theorem mirrors_instrumentNamed_bind {β δ : Type} {R : Store → Ledger → Prop} {W : β → δ → Prop}
    (h : Depicts p s a) (hhere : R s a) {name : String} {f : InstrumentRef → Op β}
    {g : Booked → Booking δ}
    (hf : ∀ i x t j, s.Stands p i x t j → Mirrors R W (f i) (g x) s a) :
    Mirrors R W (instrumentNamed name >>= f)
      (Booking.named Ledger.instrumentNames name >>= g) s a := by
  rw [instrumentNamed, bind_assoc]
  refine mirrors_named_bind (h.instrumentNames name) hhere fun i x hi => ?_
  obtain ⟨t, j, hi⟩ := hi
  exact hf i.ref x t j hi

theorem mirrors_addTo (h : Sampling names r d p held s a) (name : String) (value : Int)
    (attributes : AttributeSet) :
    Mirrors (Sampling names r d p held) Eq (addTo name value attributes)
      (Booking.addTo name value attributes) s a := by
  refine mirrors_instrumentNamed_bind h.toDepicts h fun i x t j hi => mirrors_get_bind ?_
  rw [hi.request]
  unfold sampleFor Booking.sampleFor
  cases x.request.kind with
  | counter => exact mirrors_record h hi _ attributes
  | upDownCounter => exact mirrors_record h hi _ attributes
  | _ => exact mirrors_of_error rfl rfl h

theorem mirrors_addAll (h : Sampling names r d p held s a) (additions : List Addition) :
    Mirrors (Sampling names r d p held) Eq (addAll additions) (Booking.addAll additions) s a := by
  refine mirrors_forM h fun x _ s a h => ?_
  refine mirrors_named_bind (h.instrumentNames x.instrument) h fun i y hi => ?_
  obtain ⟨t, j, hi⟩ := hi
  exact mirrors_record h hi _ x.attributes

theorem mirrors_answer (h : Sampling names r d p held s a) (feed : Feed) :
    Mirrors (Sampling names r d p held) Eq (answer feed) (Booking.answer feed) s a := by
  cases feed with
  | batch b => exact mirrors_pure rfl h
  | absent => exact mirrors_pure rfl h
  | panics payload => exact mirrors_throw _ h

theorem mirrors_poll (h : Sampling names r d p held s a) (c : CallbackRef) :
    Mirrors (Sampling names r d p held) Eq (poll c) (Booking.poll c) s a := by
  let s₁ := s.note (.poll c)
  have h₁ : Live names r d p s₁ a := h.toLive.note nofun
  have hcallback : a.callbacks.get c = s₁.callback c := congrArg (Table.get · c) h₁.callbacks
  have hrest : ∀ s a, Sampling names r d p held s a → ∀ x : Callback,
      Mirrors (Sampling names r d p held) Eq
        (addAll x.additions >>= fun _ => answer (x.feed x.asked))
        (Booking.addAll x.additions >>= fun _ => Booking.answer (x.feed x.asked)) s a :=
    fun s a h x => (mirrors_addAll h x.additions).bind fun _ _ _ _ _ h => mirrors_answer h _
  refine mirrors_note_bind (mirrors_get_bind (mirrors_of_get_bind (mirrors_modify_bind ?_)))
  rw [hcallback]
  cases (s₁.callback c).label with
  | none => exact hrest _ _ ⟨h₁.ask c, h.trace, h.same⟩ _
  | some label =>
      refine mirrors_modify_bind (hrest _ _ ⟨(h₁.ask c).retrace _ _, ?_, h.same⟩ _)
      exact congrArg (Array.push · _) h.trace

theorem mirrors_observe (h : Sampling names r d p held s a) {i j : InstrumentRef} {x : Booked}
    {t : MeterRef} (hi : s.Stands p i x t j) :
    Mirrors (Sampling names r d p held) Eq (observe i) (Booking.observe x) s a := by
  let s₁ := s.note (.observe i)
  have h₁ : Sampling names r d p held s₁ a := ⟨h.toLive.note nofun, h.trace, h.same⟩
  have hrow : s₁.instrument j = ⟨x.request, t, .log⟩ := h.row hi
  have hend : s₁.instrumentEnd? i = some j := hi.ends
  refine mirrors_note_bind ?_
  refine mirrors_congr (bind_of_ok (instrumentEnd_of_some hend)) (mirrors_get_bind ?_)
  rw [hrow]
  unfold Booking.observe
  cases hcallback : x.request.callback with
  | none =>
      simp only [hcallback]
      exact mirrors_pure rfl h₁
  | some c =>
      simp only [hcallback]
      refine (mirrors_poll h₁ c).bind fun batch batch' s₂ a₂ hbatch h₂ => ?_
      rw [← hbatch]
      -- no provider has changed during the call, so the meter has its place still
      have ht : (s₂.provider p).meters[x.meter]? = some t := by
        rw [Store.provider, h₂.same, ← h.same]
        exact hi.meter
      exact mirrors_of_ok rfl rfl rfl ⟨h₂.toLive.keep ht _, h₂.trace, h₂.same⟩

end Op

/-! ## Steps -/

namespace Live

/-- A meter of the provider in effect gives an instrument, and no deferred meter has got any. -/
theorem instruments_of_asked (h : Live names r d p s a) (m : MeterRef) {t : MeterRef} {k : Nat}
    (ht : (s.provider p).meters[k]? = some t) (request : Request) :
    ((s.askInstrument m t request).meter m).instruments = (s.meter m).instruments := by
  rw [h.meter_askInstrument m ht request m]
  by_cases hm : m = t
  · subst hm
    rw [if_pos rfl]
    rcases Meter.instruments_keepRequest (s.meter m) request s.instruments.next with hsame | hmore
    · exact hsame
    · have hrecords := h.isDeferred_meter h.recording ht
      rw [hmore.1] at hrecords
      cases hrecords
  · rw [if_neg hm]

end Live

namespace Op

/-- The store is live, and what could be seen is the same. -/
abbrev Follows (names : Directory) (r : RegistrationRef) (d p : ProviderRef) (s : Store)
    (a : Ledger) :
    Prop := Live names r d p s a ∧ s.trace = a.trace

theorem mirrors_askMeter (h : Follows names r d p s a) {q : ProviderRef}
    (hq : s.providerEnd? q = some p) (id : String) (scope : Scope) :
    Mirrors (Follows names r d p) Eq (requestMeter q scope >>= nameMeter id)
      (Booking.addMeter id scope) s a := by
  have hasked := h.1.askMeter q scope id
  have htrace := (Store.directory_askMeter s q p scope).2.trans h.2
  refine mirrors_requestMeter h.1.toDepicts hq id scope ⟨hasked, htrace⟩ ?_
  obtain ⟨_, hplace, _⟩ := h.1.issueMeter q scope
  rw [hasked.isIssued hasked.recording hplace]

/-- A step of a program does to the store what it does to the ledger. -/
theorem mirrors_perform (depth : Nat) (processWide : Option RegistrationRef) {x : Step}
    (hx : x.handles names r d = true) (h : Follows names r d p s a) :
    Mirrors (Follows names r d p) Eq (perform depth processWide x) (Booking.perform x) s a := by
  have hlive := h.1
  have hsampling : Sampling names r d p s.providers s a := ⟨hlive, h.2, rfl⟩
  have hfollows : ∀ s' a', Sampling names r d p s.providers s' a' → Follows names r d p s' a' :=
    fun _ _ h => ⟨h.toLive, h.trace⟩
  have hdone : ∀ {op : Op Unit} {b : Booking Unit},
      Mirrors (Sampling names r d p s.providers) Eq op b s a →
      Mirrors (Follows names r d p) Eq (op >>= fun _ => pure Reply.nothing)
        (b >>= fun _ => pure Reply.nothing) s a :=
    fun hop => (hop.mono hfollows).bind fun _ _ _ _ _ h => mirrors_pure rfl h
  cases x with
  | getMeter name id scope =>
      have hname : s.directory.registrations.get? name = some r := by
        rw [hlive.registrations]
        exact of_decide_eq_true hx
      have hself := Store.providerEnd?_of_plain hlive.plain
      refine mirrors_congr (bind_of_ok (named_of_some hname)) ?_
      refine mirrors_congr ?_ (mirrors_askMeter h hself id scope)
      rw [getMeter, bind_assoc, bind_of_ok (getProvider_of_some depth hlive.slot), bind_assoc]
      rfl
  | meter name id scope =>
      obtain ⟨q, hname, hq⟩ := Option.map_eq_some_iff.1 (of_decide_eq_true hx)
      rw [← hlive.providers] at hname
      refine mirrors_congr (bind_of_ok (providerNamed_of_some hname)) ?_
      rw [hq]
      exact mirrors_askMeter h hlive.ends id scope
  | create meter id kind descriptor callback =>
      refine mirrors_create hlive.toDepicts h meter id kind descriptor callback ?_ ?_
      · intro m t k request issued ht _
        have hasked := hlive.askInstrument m ht request id issued
        exact ⟨hasked, (Store.directory_askInstrument s m t request).2.trans h.2⟩
      · intro m t k request issued ht hissued
        rw [hissued (hlive.instruments_of_asked m ht request)]
  | add instrument value attributes =>
      exact hdone (mirrors_addTo hsampling instrument value attributes)
  | increment instrument attributes => exact hdone (mirrors_addTo hsampling instrument 1 attributes)
  | record instrument value attributes =>
      refine mirrors_instrumentNamed_bind hlive.toDepicts h fun i y t j hi => ?_
      exact hdone (mirrors_record hsampling hi (.value value) attributes)
  | observe instrument =>
      refine mirrors_instrumentNamed_bind hlive.toDepicts h fun i y t j hi => ?_
      refine ((mirrors_observe hsampling hi).mono hfollows).bind fun batch batch' _ _ hbatch h => ?_
      exact mirrors_pure (congrArg Reply.batch hbatch) h
  | _ => cases hx

end Op

namespace Live

variable (depth : Nat) (processWide : Option RegistrationRef)

theorem mirrors (h : Live names r d p s a) {x : Step} (hx : x.handles names r d = true) :
    Op.Mirrors (Op.Follows names r d p) Eq (Op.perform depth processWide x) (Booking.perform x)
      { s with trace := #[] } a.clear :=
  Op.mirrors_perform depth processWide hx ⟨h.retrace #[] #[], rfl⟩

/-- A step of a program shows what the ledger shows, and leaves a store that the ledger still
depicts. -/
theorem step (h : Live names r d p s a) {x : Step} (hx : x.handles names r d = true) :
    (Scenario.step depth processWide s x).1 = (a.step x).1 ∧
      Live names r d p (Scenario.step depth processWide s x).2 (a.step x).2 :=
  have hmirrors := h.mirrors depth processWide hx
  ⟨hmirrors.shows fun _ _ h => h.2, hmirrors.step.1⟩

/-- A program shows what the ledger shows, and leaves a store that the ledger still depicts. -/
theorem run (h : Live names r d p s a) {steps : List Step}
    (hsteps : ∀ x ∈ steps, x.handles names r d = true) :
    Scenario.runFrom depth processWide s steps = a.runFrom steps ∧
      Live names r d p (Scenario.after depth processWide s steps) (a.after steps) := by
  induction steps generalizing s a with
  | nil => exact ⟨rfl, h⟩
  | cons x steps ih =>
      obtain ⟨hshown, hleft⟩ := h.step depth processWide (hsteps x List.mem_cons_self)
      obtain ⟨hrest, hend⟩ := ih hleft fun y hy => hsteps y (List.mem_cons_of_mem x hy)
      refine ⟨?_, hend⟩
      calc Scenario.runFrom depth processWide s (x :: steps)
          _ = (Scenario.step depth processWide s x).1 ::
              Scenario.runFrom depth processWide (Scenario.step depth processWide s x).2
                steps := rfl
          _ = (a.step x).1 :: (a.step x).2.runFrom steps := by rw [hshown, hrest]

end Live

end DeferredMetrics
