import DeferredMetrics.Proofs.Sound

set_option autoImplicit false

/-! # Steps that keep stores sound

One lemma for each thing that is done to a store: new objects, requests, and the steps of which
binding is made. `SoundBut.openMeter` and `SoundBut.closeMeter` begin and end the binding of a
meter, and between them the meter is open. -/

namespace DeferredMetrics

/-! ## Later stores -/

theorem Table.has_of_ne_default {k : ObjectKind} {α : Type} [Inhabited α] {t : Table k α}
    {r : Ref k} (h : t.get r ≠ default) : t.Has r := by
  by_contra hnot
  exact h (Table.get_of_not_has hnot)

namespace Store

variable {s s' : Store}

theorem has_of_providerTarget {p t : ProviderRef} (h : (s.provider p).target? = some t) :
    s.providers.Has p := by
  apply Table.has_of_ne_default
  intro heq
  rw [provider, heq] at h
  cases h

theorem has_of_meterTarget {m t : MeterRef} (h : (s.meter m).target? = some t) :
    s.meters.Has m := by
  apply Table.has_of_ne_default
  intro heq
  rw [meter, heq] at h
  cases h

theorem has_of_instrumentTarget {i j : InstrumentRef} (h : (s.instrument i).target? = some j) :
    s.instruments.Has i := by
  by_contra hnot
  rw [instrument_of_not_has hnot] at h
  cases h

theorem target?_later {p t : ProviderRef} (h : (s.provider p).target? = some t)
    (hlater : Later s s') : (s'.provider p).target? = some t :=
  (hlater.provider (has_of_providerTarget h)).target t h

theorem meterTarget?_later {m t : MeterRef} (h : (s.meter m).target? = some t)
    (hlater : Later s s') : (s'.meter m).target? = some t :=
  (hlater.meter (has_of_meterTarget h)).target t h

/-- What a provider hands on to, it hands on to later too. -/
theorem handsOn_later {p e : ProviderRef} (h : s.HandsOn p e) (hlater : Later s s') :
    s'.HandsOn p e :=
  h.mono fun _ _ hxy => target?_later hxy hlater

/-- An instrument that was got from the meter `m` by a request is there later too. -/
theorem instrument_later (hlater : Later s s') {i : InstrumentRef} {m : MeterRef}
    {request : Request} (hknown : s.instruments.Has i)
    (hrequest : (s.instrument i).request = request)
    (hlead : Leads (fun x => (s.meter x).target?) m (s.instrument i).issuer) :
    s'.instruments.Has i ∧ (s'.instrument i).request = request ∧
      Leads (fun x => (s'.meter x).target?) m (s'.instrument i).issuer := by
  have hgrows := hlater.instrument hknown
  refine ⟨(hlater.instruments i hknown).1, hgrows.request.trans hrequest, ?_⟩
  rw [hgrows.issuer]
  exact hlead.mono fun _ _ hxy => meterTarget?_later hxy hlater

theorem MadeFor.has {m t : MeterRef} (h : s.MadeFor m t) : s.meters.Has m :=
  Nat.lt_trans h.order h.known

/-- What was made for a meter stays made for it. -/
theorem MadeFor.later {m t : MeterRef} (h : s.MadeFor m t) (hlater : Later s s')
    (hnew : ∃ new, s'.calls.toList = s.calls.toList ++ new ∧ ∀ t', Call.bindMeter m t' ∉ new) :
    s'.MadeFor m t := by
  obtain ⟨ht, htrow⟩ := hlater.meters t h.known
  obtain ⟨hm, hmrow⟩ := hlater.meters m h.has
  obtain ⟨d, p, e, before, later, hd, hp, he, hlead, hcalls, honce⟩ := h.history
  obtain ⟨new, hnew, hnot⟩ := hnew
  have htarget : ∀ x y, (s.provider x).target? = some y → (s'.provider x).target? = some y :=
    fun x y hxy => (hlater.providers x (has_of_providerTarget hxy)).2.target y hxy
  refine ⟨ht, h.order, ?_, d, p, e, before, later ++ new, ?_, htarget d p hp, ?_, ?_, ?_, ?_⟩
  · exact htrow.scope.trans (h.scope.trans hmrow.scope.symm)
  · exact hmrow.issuer.trans hd
  · exact htrow.issuer.trans he
  · exact hlead.mono htarget
  · rw [hnew, hcalls, show (s'.meter m).scope = (s.meter m).scope from hmrow.scope]
    simp
  · intro t'
    refine ⟨(honce t').1, ?_⟩
    rw [List.mem_append, not_or]
    exact ⟨(honce t').2, hnot t'⟩

end Store

/-- Bindings are kept by what binds nothing. -/
theorem Bindings.later {o : Option (MeterRef × MeterRef)} {s s' : Store} (h : Bindings o s)
    (hlater : Later s s') (hproviders : ∀ p, (s'.provider p).target? = (s.provider p).target?)
    (hmeters : ∀ m, (s'.meter m).target? = (s.meter m).target?)
    (hnew : ∃ new, s'.calls.toList = s.calls.toList ++ new ∧ ∀ m t, Call.bindMeter m t ∉ new) :
    Bindings o s' := by
  obtain ⟨new, hnew, hnot⟩ := hnew
  constructor
  case known =>
    intro p t ht
    rw [hproviders] at ht
    exact (hlater.providers t (h.known p t ht)).1
  case made =>
    intro m t ht
    rw [hmeters] at ht
    exact (h.made m t ht).later hlater ⟨new, hnew, hnot m⟩
  case told =>
    intro m t hmem
    rw [hnew, List.mem_append] at hmem
    rw [hmeters]
    exact h.told m t (hmem.resolve_right (hnot m t))

/-- The end of a chain that begins at a known provider is known. -/
theorem Bindings.has_end {o : Option (MeterRef × MeterRef)} {s : Store} (h : Bindings o s)
    {p e : ProviderRef} (hp : s.providers.Has p) (he : s.providerEnd? p = some e) :
    s.providers.Has e := by
  have hlead := (Store.providerEnd?_eq_some.1 he).1
  cases hlead with
  | refl => exact hp
  | tail _ hlast => exact h.known _ e hlast

theorem Names.later {s s' : Store} (h : Names s) (hlater : Later s s')
    (hdirectory : s'.directory = s.directory) : Names s' := by
  constructor
  · intro name q hq
    rw [hdirectory] at hq
    exact (hlater.providers q.ref (h.providers name q hq)).1
  · intro name r hr
    rw [hdirectory] at hr
    exact (hlater.registrations r (h.registrations name r hr)).1

/-- A new meter of a provider that keeps a list stands at the end of it. -/
theorem MeterTree.issue {providers : Table .provider Provider} {meters : Table .meter Meter}
    (h : MeterTree providers meters) {e : ProviderRef} {x : Meter} (he : providers.Has e)
    (hissuer : x.issuer = some e) (hbody : (providers.get e).Fits x.body)
    (htarget : x.target? = none) :
    MeterTree (providers.update e fun q => q.hold meters.next) (meters.add x) := by
  have hmeter := meters.get_add x
  have hprovider : ∀ q, (providers.update e fun q => q.hold meters.next).get q =
      if q = e then (providers.get q).hold meters.next else providers.get q :=
    providers.get_update_ite _ he
  have htargets : ∀ q, ((providers.update e fun q => q.hold meters.next).get q).target? =
      (providers.get q).target? :=
    Table.apply_get_update Provider.target? _ (fun p => p.target?_hold _) e
  have hfits : ∀ q (b : MeterBody), (providers.get q).Fits b →
      ((providers.update e fun q => q.hold meters.next).get q).Fits b := by
    intro q b hb
    rw [hprovider]
    split
    · exact Provider.fits_hold _ hb
    · exact hb
  -- the lists hold what they held, and the list of `e` may hold the new meter
  have hissued : ∀ q, ∀ m ∈ ((providers.update e fun q => q.hold meters.next).get q).issued,
      m ∈ (providers.get q).issued ∨ (q = e ∧ m = meters.next) := by
    intro q m hmem
    rw [hprovider] at hmem
    split at hmem
    · rename_i hq
      exact (Provider.mem_issued_hold hmem).imp_right fun hm => ⟨hq, hm⟩
    · exact .inl hmem
  constructor
  case fits =>
    intro m e' he'
    rw [hmeter] at he' ⊢
    rw [Table.has_update]
    split at he'
    · rename_i hm
      rw [hissuer, Option.some.injEq] at he'
      rw [if_pos hm, ← he']
      exact ⟨he, hfits _ _ hbody⟩
    · rename_i hm
      obtain ⟨hhas, hfit⟩ := h.fits m e' he'
      rw [if_neg hm]
      exact ⟨hhas, hfits _ _ hfit⟩
  case alone =>
    intro m hnone
    rw [hmeter] at hnone ⊢
    split at hnone
    · rw [hissuer] at hnone
      cases hnone
    · rename_i hm
      rw [if_neg hm]
      exact h.alone m hnone
  case nodup =>
    intro q
    rw [hprovider]
    split
    · refine Provider.nodup_issued_hold (h.nodup q) fun hmem => ?_
      exact Table.ne_next_of_has (h.issued q _ hmem).1 rfl
    · exact h.nodup q
  case issued =>
    intro q m hmem
    rcases hissued q m hmem with hold | ⟨rfl, rfl⟩
    · obtain ⟨hhas, hq⟩ := h.issued q m hold
      rw [Table.get_add_of_has _ _ hhas]
      exact ⟨(Table.has_add _ _ _).2 (.inl hhas), hq⟩
    · rw [Table.get_add_next]
      exact ⟨Table.has_next_add _ _, hissuer⟩
  case waiting =>
    intro q m hmem hnone
    rcases hissued q m hmem with hold | ⟨rfl, rfl⟩
    · rw [Table.get_add_of_has _ _ (h.issued q m hold).1]
      exact h.waiting q m hold ((htargets q).symm.trans hnone)
    · rw [Table.get_add_next]
      exact htarget

namespace SoundBut

variable {o : Option (MeterRef × MeterRef)} {s s' : Store}

/-! ## What changes no object -/

/-- What is shown does not matter. -/
theorem shown (h : SoundBut o s) (hs : Shown s s') : SoundBut o s' := by
  have hcalls : s'.calls.toList = s.calls.toList ++ [] := by rw [hs.calls, List.append_nil]
  constructor
  case tree =>
    rw [hs.providers, hs.meters]
    exact h.tree
  case instruments =>
    rw [hs.meters, hs.instruments]
    exact h.instruments
  case bindings =>
    exact h.bindings.later (.of_shown hs) (fun p => by rw [hs.provider]) (fun m => by rw [hs.meter])
      ⟨[], hcalls, by simp⟩
  case owners =>
    rw [hs.providers, hs.registrations]
    exact h.owners
  case names =>
    constructor
    · intro name q hq
      rw [hs.providers]
      rcases hs.names name q hq with hq | ⟨r, hr⟩
      · exact h.names.providers name q hq
      · exact h.owners.slots r q.ref hr
    · intro name r hr
      rw [hs.directory] at hr
      rw [hs.registrations]
      exact h.names.registrations name r hr

theorem see (h : SoundBut o s) (e : Event) : SoundBut o (s.see e) :=
  ⟨h.tree, h.instruments,
    h.bindings.later (.of_eq rfl rfl rfl rfl rfl) (fun _ => rfl) (fun _ => rfl)
      ⟨[], (List.append_nil _).symm, by simp⟩,
    h.owners, h.names.later (.of_eq rfl rfl rfl rfl rfl) rfl⟩

/-- Any call may be written down but that a meter is told its target. -/
theorem note (h : SoundBut o s) {c : Call} (hc : ∀ m t, c ≠ .bindMeter m t) :
    SoundBut o (s.note c) := by
  refine ⟨h.tree, h.instruments, ?_, h.owners, h.names.later (.note s c) rfl⟩
  refine h.bindings.later (.note s c) (fun _ => rfl) (fun _ => rfl) ⟨[c], by simp [Store.note], ?_⟩
  intro m t hmem
  exact hc m t (List.mem_singleton.1 hmem).symm

theorem noteReturn {α : Type} (h : SoundBut o s) (answer : Except Payload α) {returned : α → Call}
    (hc : ∀ a m t, returned a ≠ .bindMeter m t) : SoundBut o (s.noteReturn answer returned) := by
  cases answer with
  | ok a => exact h.note (hc a)
  | error payload => exact h

/-- Other names may be given, as long as they mean something. -/
theorem updateDirectory (h : SoundBut o s) {f : Directory → Directory}
    (hproviders : ∀ name q, (f s.directory).providers.get? name = some q → s.providers.Has q.ref)
    (hregistrations : ∀ name r, (f s.directory).registrations.get? name = some r →
      s.registrations.Has r) : SoundBut o (s.updateDirectory f) :=
  ⟨h.tree, h.instruments,
    h.bindings.later (.of_eq rfl rfl rfl rfl rfl) (fun _ => rfl) (fun _ => rfl)
      ⟨[], (List.append_nil _).symm, by simp⟩,
    h.owners, ⟨hproviders, hregistrations⟩⟩

/-- Callbacks, registries and the environment are not spoken of. -/
theorem of_eq (h : SoundBut o s) (hproviders : s'.providers = s.providers)
    (hmeters : s'.meters = s.meters) (hinstruments : s'.instruments = s.instruments)
    (hregistrations : s'.registrations = s.registrations) (hcalls : s'.calls = s.calls)
    (hdirectory : s'.directory = s.directory) : SoundBut o s' := by
  have hlater := Later.of_eq hproviders hmeters hinstruments hregistrations hcalls
  constructor
  case tree =>
    rw [hproviders, hmeters]
    exact h.tree
  case instruments =>
    rw [hmeters, hinstruments]
    exact h.instruments
  case bindings =>
    refine h.bindings.later hlater (fun p => ?_) (fun m => ?_) ⟨[], ?_, by simp⟩
    · rw [Store.provider, hproviders]
      rfl
    · rw [Store.meter, hmeters]
      rfl
    · rw [hcalls, List.append_nil]
  case owners =>
    rw [hproviders, hregistrations]
    exact h.owners
  case names => exact h.names.later hlater hdirectory

/-! ## Changes that do not matter -/

theorem updateProvider (h : SoundBut o s) {r : ProviderRef} {f : Provider → Provider}
    (hlike : (s.provider r).Like (f (s.provider r)))
    (hgrows : (s.provider r).Grows (f (s.provider r))) : SoundBut o (s.updateProvider r f) := by
  have htable : s.providers.Like Provider.Like (s.providers.update r f) :=
    .update Provider.Like.refl hlike
  have hlater : Later s (s.updateProvider r f) := .updateProvider hgrows
  refine ⟨h.tree.like htable (.refl Meter.Like.refl _), h.instruments, ?_,
    h.owners.later hlater.providers (Registration.likes _), h.names.later hlater rfl⟩
  exact h.bindings.later hlater (fun p => (htable.rows p).target) (fun _ => rfl)
    ⟨[], (List.append_nil _).symm, by simp⟩

theorem updateIssuer (h : SoundBut o s) (issuer : Option ProviderRef) {f : Provider → Provider}
    (hlike : ∀ q : Provider, q.Like (f q)) (hgrows : ∀ q : Provider, q.Grows (f q)) :
    SoundBut o (s.updateIssuer issuer f) := by
  cases issuer with
  | none => exact h
  | some e => exact h.updateProvider (hlike _) (hgrows _)

/-- A meter keeps what its instruments got. -/
theorem keep (h : SoundBut o s) (r : MeterRef) (events : List Recorded) :
    SoundBut o (s.updateMeter r fun m => m.keep events) := by
  have htable : s.meters.Like Meter.Like (s.meters.update r fun m => m.keep events) :=
    .update Meter.Like.refl (Meter.like_keep _ events)
  have hlater : Later s (s.updateMeter r fun m => m.keep events) :=
    .updateMeter (Meter.grows_keep _ events)
  have hinstruments : ∀ m, ((s.meters.update r fun m => m.keep events).get m).instruments =
      (s.meters.get m).instruments :=
    Table.apply_get_update Meter.instruments _ (fun m => m.instruments_keep events) r
  refine ⟨h.tree.like (.refl Provider.Like.refl _) htable, h.instruments.like htable hinstruments,
    ?_, h.owners, h.names.later hlater rfl⟩
  exact h.bindings.later hlater (fun _ => rfl) (fun m => (htable.rows m).target)
    ⟨[], (List.append_nil _).symm, by simp⟩

theorem updateRegistration (h : SoundBut o s) {r : RegistrationRef}
    {f : Registration → Registration} (hlike : (s.registration r).Like (f (s.registration r)))
    (hgrows : (s.registration r).Grows (f (s.registration r))) :
    SoundBut o (s.updateRegistration r f) := by
  have htable : s.registrations.Like Registration.Like (s.registrations.update r f) :=
    .update Registration.Like.refl hlike
  have hlater : Later s (s.updateRegistration r f) := .updateRegistration hgrows
  refine ⟨h.tree, h.instruments, ?_, h.owners.later hlater.providers htable,
    h.names.later hlater rfl⟩
  exact h.bindings.later hlater (fun _ => rfl) (fun _ => rfl)
    ⟨[], (List.append_nil _).symm, by simp⟩

/-! ## New objects -/

/-- A new provider without target and meters. -/
theorem addProvider (h : SoundBut o s) {p : Provider} (htarget : p.target? = none)
    (hissued : p.issued = []) : SoundBut o (s.addProvider p) := by
  have hlater : Later s (s.addProvider p) := .addProvider s p
  have htargets : ∀ q, ((s.providers.add p).get q).target? = (s.providers.get q).target? :=
    Table.apply_get_add Provider.target? _ htarget
  have hlists : ∀ q, ((s.providers.add p).get q).issued = (s.providers.get q).issued :=
    Table.apply_get_add Provider.issued _ hissued
  have htree : MeterTree (s.providers.add p) s.meters := by
    constructor
    case fits =>
      intro m e he
      obtain ⟨hhas, hfits⟩ := h.tree.fits m e he
      rw [Table.get_add_of_has _ _ hhas]
      exact ⟨(Table.has_add _ _ _).2 (.inl hhas), hfits⟩
    case alone => exact h.tree.alone
    case nodup =>
      intro q
      rw [hlists]
      exact h.tree.nodup q
    case issued =>
      intro q m hmem
      rw [hlists] at hmem
      exact h.tree.issued q m hmem
    case waiting =>
      intro q m hmem hnone
      rw [hlists] at hmem
      rw [htargets] at hnone
      exact h.tree.waiting q m hmem hnone
  refine ⟨htree, h.instruments, ?_, h.owners.later hlater.providers (Registration.likes _),
    h.names.later hlater rfl⟩
  exact h.bindings.later hlater htargets (fun _ => rfl)
    ⟨[], (List.append_nil _).symm, by simp⟩

/-- What a new meter, that nobody knows yet, leaves of the instruments. -/
theorem instrumentTree_add {o : Option MeterRef} {meters : Table .meter Meter}
    {instruments : Table .instrument Instrument} (h : InstrumentTree o meters instruments)
    {x : Meter} (hinstruments : x.instruments = []) (htarget : x.target? = none) :
    InstrumentTree o (meters.add x) instruments := by
  have hlists : ∀ m, ((meters.add x).get m).instruments = (meters.get m).instruments :=
    Table.apply_get_add Meter.instruments _ hinstruments
  constructor
  case nodup =>
    intro m
    rw [hlists]
    exact h.nodup m
  case issued =>
    intro m i hmem
    rw [hlists] at hmem
    exact h.issued m i hmem
  case waiting =>
    intro m i hmem hnone
    rw [hlists] at hmem
    rw [Table.apply_get_add Meter.target? _ htarget] at hnone
    exact h.waiting m i hmem hnone

/-- A new meter that stands alone. -/
theorem addMeter (h : SoundBut o s) {x : Meter} (hissuer : x.issuer = none)
    (hbody : x.body.isDeferred = false) : SoundBut o (s.addMeter x) := by
  have hlater : Later s (s.addMeter x) := .addMeter s x
  have hempty := Meter.alone_of_isDeferred hbody
  have hrow := s.meters.get_add x
  have htree : MeterTree s.providers (s.meters.add x) := by
    constructor
    case fits =>
      intro m e he
      rw [hrow] at he ⊢
      split at he
      · rw [hissuer] at he
        cases he
      · rename_i hm
        rw [if_neg hm]
        exact h.tree.fits m e he
    case alone =>
      intro m hnone
      rw [hrow] at hnone ⊢
      split
      · exact hbody
      · rename_i hm
        rw [if_neg hm] at hnone
        exact h.tree.alone m hnone
    case nodup => exact h.tree.nodup
    case issued =>
      intro p m hmem
      obtain ⟨hhas, hissued⟩ := h.tree.issued p m hmem
      rw [Table.get_add_of_has _ _ hhas]
      exact ⟨(Table.has_add _ _ _).2 (.inl hhas), hissued⟩
    case waiting =>
      intro p m hmem hnone
      rw [Table.get_add_of_has _ _ (h.tree.issued p m hmem).1]
      exact h.tree.waiting p m hmem hnone
  refine ⟨htree, instrumentTree_add h.instruments hempty.1 hempty.2, ?_, h.owners,
    h.names.later hlater rfl⟩
  exact h.bindings.later hlater (fun _ => rfl) (Table.apply_get_add Meter.target? _ hempty.2)
    ⟨[], (List.append_nil _).symm, by simp⟩

/-- A new meter of the provider `e`. -/
theorem issueMeter (h : SoundBut o s) {e : ProviderRef} {x : Meter} (he : s.providers.Has e)
    (hissuer : x.issuer = some e) (hbody : x.body = (s.provider e).freshBody) :
    SoundBut o ((s.addMeter x).updateProvider e fun q => q.hold s.meters.next) := by
  have hlater : Later s ((s.addMeter x).updateProvider e fun q => q.hold s.meters.next) :=
    (Later.addMeter s x).trans (.updateProvider (Provider.grows_hold _ _))
  have hempty : x.instruments = [] ∧ x.target? = none := by
    simp only [hbody, Meter.instruments, Meter.target?]
    cases s.provider e <;> exact ⟨rfl, rfl⟩
  have hfits : (s.provider e).Fits x.body := hbody ▸ Provider.fits_freshBody _
  refine ⟨h.tree.issue he hissuer hfits hempty.2, instrumentTree_add h.instruments hempty.1 hempty.2, ?_,
    h.owners.later hlater.providers (Registration.likes _), h.names.later hlater rfl⟩
  refine h.bindings.later hlater (fun q => ?_) (Table.apply_get_add Meter.target? _ hempty.2)
    ⟨[], (List.append_nil _).symm, by simp⟩
  exact Table.apply_get_update Provider.target? _ (fun p => p.target?_hold _) e q

/-- A provider is asked for a meter. -/
theorem askMeter (h : SoundBut o s) {p e : ProviderRef} (scope : Scope) (he : s.providers.Has e) :
    SoundBut o (s.askMeter p e scope) := by
  have hnote : SoundBut o (s.note (.meter p scope)) := h.note (by simp)
  have hprobed := hnote.updateProvider (r := e) (Provider.like_probed _) (Provider.grows_probed _)
  have hgive : SoundBut o ((s.note (.meter p scope)).giveMeter e scope) := by
    unfold Store.giveMeter
    simp only
    split
    · exact hprobed
    · have hfresh : (s.provider e).freshBody =
          (((s.note (.meter p scope)).updateProvider e Provider.probed).provider e).freshBody := by
        rw [Store.provider_updateProvider]
        split
        · exact (Provider.grows_probed _).freshBody.symm
        · rfl
      exact hprobed.issueMeter ((Table.has_update _ _ _ _).2 he) rfl hfresh
  exact hgive.noteReturn _ (by simp)

end SoundBut

/-! ## Instruments -/

/-- A new instrument of a deferred meter stands at the end of the meter's list. -/
theorem InstrumentTree.issue {o : Option MeterRef} {meters : Table .meter Meter}
    {instruments : Table .instrument Instrument} (h : InstrumentTree o meters instruments)
    (t : MeterRef) (request : Request) :
    InstrumentTree o (meters.update t fun m => m.keepRequest request instruments.next)
      (instruments.add ⟨request, t, (meters.get t).freshDestination⟩) := by
  have hlike : meters.Like Meter.Like
      (meters.update t fun m => m.keepRequest request instruments.next) :=
    .update Meter.Like.refl (Meter.like_keepRequest _ request _)
  have hold : ∀ m, ∀ i ∈ (meters.get m).instruments,
      (instruments.add ⟨request, t, (meters.get t).freshDestination⟩).get i =
        instruments.get i := fun m i hi => Table.get_add_of_has _ _ (h.issued m i hi).1
  -- the lists hold what they held, and the list of `t` holds the new instrument if `t` is deferred
  have hissued : ∀ m, ∀ i ∈
      ((meters.update t fun m => m.keepRequest request instruments.next).get m).instruments,
      i ∈ (meters.get m).instruments ∨
        (m = t ∧ (meters.get t).body.isDeferred = true ∧ i = instruments.next) := by
    intro m i hmem
    rw [Table.get_update] at hmem
    split at hmem
    · rename_i hm
      refine (Meter.mem_instruments_keepRequest hmem).imp_right fun hi => ⟨hm.1, ?_⟩
      rwa [hm.1] at hi
    · exact .inl hmem
  constructor
  case nodup =>
    intro m
    rw [Table.get_update]
    split
    · refine Meter.nodup_instruments_keepRequest request (h.nodup m) fun hmem => ?_
      exact Table.ne_next_of_has (h.issued m _ hmem).1 rfl
    · exact h.nodup m
  case issued =>
    intro m i hmem
    rcases hissued m i hmem with hmem | ⟨rfl, hdeferred, rfl⟩
    · rw [hold m i hmem]
      exact ⟨(Table.has_add _ _ _).2 (.inl (h.issued m i hmem).1), (h.issued m i hmem).2⟩
    · rw [Table.get_add_next]
      refine ⟨Table.has_next_add _ _, rfl, ?_⟩
      simp only [Meter.freshDestination]
      cases hbody : (meters.get m).body <;> simp_all [MeterBody.isDeferred, Destination.isDeferred]
  case waiting =>
    intro m i hmem hnone hopen
    rw [(hlike.rows m).target] at hnone
    rcases hissued m i hmem with hmem | ⟨rfl, _, rfl⟩
    · rw [hold m i hmem]
      exact h.waiting m i hmem hnone hopen
    · rw [Table.get_add_next, Instrument.target?]
      simp only [Meter.freshDestination]
      cases (meters.get m).body <;> rfl

namespace SoundBut

variable {o : Option (MeterRef × MeterRef)} {s s' : Store}

/-- A new instrument of the meter `t`. -/
theorem issueInstrument (h : SoundBut o s) (t : MeterRef) (request : Request)
    (destination : Destination) (hdestination : destination = (s.meter t).freshDestination) :
    SoundBut o ((s.updateMeter t fun m => m.keepRequest request s.instruments.next).addInstrument
      ⟨request, t, destination⟩) := by
  have hlike : s.meters.Like Meter.Like
      (s.meters.update t fun m => m.keepRequest request s.instruments.next) :=
    .update Meter.Like.refl (Meter.like_keepRequest _ request _)
  have hlater : Later s ((s.updateMeter t fun m =>
      m.keepRequest request s.instruments.next).addInstrument ⟨request, t, destination⟩) :=
    (Later.updateMeter (Meter.grows_keepRequest _ request _)).trans (.addInstrument _ _)
  refine ⟨h.tree.like (.refl Provider.Like.refl _) hlike, ?_, ?_, h.owners,
    h.names.later hlater rfl⟩
  · rw [hdestination]
    exact h.instruments.issue t request
  · exact h.bindings.later hlater (fun _ => rfl) (fun m => (hlike.rows m).target)
      ⟨[], (List.append_nil _).symm, by simp⟩

/-- A meter is asked for an instrument. -/
theorem askInstrument (h : SoundBut o s) (m t : MeterRef) (request : Request) :
    SoundBut o (s.askInstrument m t request) := by
  have hnote : SoundBut o (s.note (.instrument m request)) := h.note (by simp)
  have hprobed := hnote.updateIssuer (s.meter t).issuer Provider.like_probed
    Provider.grows_probed
  have hgive : SoundBut o ((s.note (.instrument m request)).giveInstrument t request) := by
    unfold Store.giveInstrument
    simp only
    split
    · exact hprobed
    · have hkept := hprobed.updateIssuer (s.meter t).issuer
        (fun q => Provider.like_keepRequest q request s.instruments.next)
        (fun q => Provider.grows_keepRequest q request s.instruments.next)
      have hinstruments := (Store.instruments_updateIssuer
        ((s.note (.instrument m request)).updateIssuer (s.meter t).issuer Provider.probed)
        (s.meter t).issuer fun q => q.keepRequest request s.instruments.next).trans
          (Store.instruments_updateIssuer (s.note (.instrument m request)) _ _)
      have hmeters := (Store.meters_updateIssuer
        ((s.note (.instrument m request)).updateIssuer (s.meter t).issuer Provider.probed)
        (s.meter t).issuer fun q => q.keepRequest request s.instruments.next).trans
          (Store.meters_updateIssuer (s.note (.instrument m request)) _ _)
      have hissue := hkept.issueInstrument t request (s.meter t).freshDestination
        (congrArg (fun ms => (Table.get ms t).freshDestination) hmeters.symm)
      rw [congrArg Table.next hinstruments] at hissue
      exact hissue
  exact hgive.noteReturn _ (by simp)

end SoundBut

end DeferredMetrics
