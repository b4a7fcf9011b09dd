import DeferredMetrics.Proofs.Depicts
import DeferredMetrics.Proofs.Discovering

set_option autoImplicit false

/-! # Giving samples and observing

What is done when an instrument is given a sample or is observed: calls are written down and shown,
callbacks are called, and recording meters keep what they get (`Gives`). So no object is new, none
gets a target, and of a meter nothing changes but what it has kept: the stores before and after are
`Alike`. -/

namespace DeferredMetrics

open Relation (ReflTransGen)

/-- One thing that is done when an instrument is given a sample or is observed. -/
inductive Gives : Store → Store → Prop where
  | note {s : Store} {c : Call} (hc : c.gives = true) : Gives s (s.note c)
  | see {s : Store} {e : Event} (he : e.isRepeat = false) : Gives s (s.see e)
  | keep {s : Store} (m : MeterRef) (events : List Recorded) :
      Gives s (s.updateMeter m fun x => x.keep events)
  | poll {s : Store} (c : CallbackRef) :
      Gives s ((s.note (.poll c)).updateCallback c Callback.count)

namespace Op

variable {s : Store}

theorem gives_accept (e : InstrumentRef) (sample : Sample) (attributes : AttributeSet) :
    ReflTransGen Gives s (s.accept e sample attributes) := by
  unfold Store.accept
  simp only
  split
  · exact .refl
  · exact .refl
  · exact .single (.keep _ _)
  · exact .single (.see rfl)

theorem goes_instrumentEnd {R : Store → Store → Prop} (i : InstrumentRef) :
    Goes R (instrumentEnd i) s Anything := by
  cases he : s.instrumentEnd? i with
  | none => exact goes_of_error (instrumentEnd_of_none he) .refl
  | some e => exact goes_of_ok (instrumentEnd_of_some he) .refl trivial

theorem gives_note {c : Call} (hc : c.gives = true) : Goes Gives (note c) s Anything :=
  goes_modify (.note hc) trivial

theorem gives_record (i : InstrumentRef) (sample : Sample) (attributes : AttributeSet) :
    Goes Gives (record i sample attributes) s Anything := by
  refine (gives_note rfl).bind fun _ s₁ _ _ => (goes_instrumentEnd i).bind fun e s₂ _ _ => ?_
  exact goes_of_ok rfl (gives_accept e sample attributes) trivial

/-- What a callback does when it has counted a call: it is shown, adds its samples and answers. -/
def respond (c : Callback) : Op Batch := do
  if let some label := c.label then
    see (.polled label c.asked)
  addAll c.additions
  answer (c.feed c.asked)

theorem poll_run (c : CallbackRef) (s : Store) :
    poll c s = respond (s.callback c) ((s.note (.poll c)).updateCallback c Callback.count) := rfl

/-- Samples that are added go along whatever samples go along. -/
theorem goes_addAll {R : Store → Store → Prop}
    (hrecord : ∀ s i sample attributes, Goes R (record i sample attributes) s Anything)
    (additions : List Addition) (s : Store) : Goes R (addAll additions) s Anything :=
  goes_forM trivial fun _ _ _ _ => goes_named_bind fun i _ => hrecord _ i.ref _ _

/-- A response goes along whatever events and samples go along. -/
theorem goes_respond {R : Store → Store → Prop} (hsee : ∀ s label n, R s (s.see (.polled label n)))
    (hrecord : ∀ s i sample attributes, Goes R (record i sample attributes) s Anything)
    (c : Callback) : Goes R (respond c) s Anything := by
  have hrest : ∀ s', Goes R (addAll c.additions >>= fun _ => answer (c.feed c.asked)) s'
      Anything := by
    intro s'
    refine (goes_addAll hrecord c.additions s').bind fun _ s₂ _ _ => ?_
    cases c.feed c.asked with
    | batch b => exact goes_pure trivial
    | absent => exact goes_pure trivial
    | panics payload => exact goes_throw _
  unfold respond
  cases c.label with
  | none => exact hrest _
  | some label => exact goes_modify_bind (hsee _ _ _) (hrest _)

theorem gives_poll (c : CallbackRef) : Goes Gives (poll c) s Anything :=
  goes_of_run (poll_run c s) (.poll c)
    (goes_respond (fun _ _ _ => .see rfl) (fun _ => gives_record) _)

theorem gives_observe (i : InstrumentRef) : Goes Gives (observe i) s Anything := by
  refine (gives_note rfl).bind fun _ s₁ _ _ => (goes_instrumentEnd i).bind fun e s₂ _ _ => ?_
  refine goes_get_bind ?_
  simp only
  split
  · refine (gives_poll _).bind fun batch s₃ _ _ => ?_
    exact goes_modify_bind (.keep _ _) (goes_pure trivial)
  · exact goes_pure trivial

theorem gives_collect (p : ProviderRef) : Goes Gives (collect p) s Anything := by
  refine goes_get_bind ?_
  cases s.provider p with
  | sdk q =>
      refine goes_forM trivial fun kept _ s' _ => (gives_poll kept.callback).bind fun batch s'' _ _ => ?_
      exact goes_forM trivial fun x _ s₃ _ => goes_modify (.see rfl) trivial
  | _ => exact goes_pure trivial

end Op

/-! ## Stores that are alike -/

/-- The meters differ at most in the events that they have kept. -/
structure Meter.Alike (m m' : Meter) : Prop where
  scope : m'.scope = m.scope
  issuer : m'.issuer = m.issuer
  target : m'.target? = m.target?
  instruments : m'.instruments = m.instruments
  freshDestination : m'.freshDestination = m.freshDestination
  deferred : m'.body.isDeferred = m.body.isDeferred
  created : m'.log.created = m.log.created

theorem Meter.Alike.refl (m : Meter) : m.Alike m := ⟨rfl, rfl, rfl, rfl, rfl, rfl, rfl⟩

theorem Meter.alike_keep (m : Meter) (events : List Recorded) : m.Alike (m.keep events) where
  scope := (grows_keep m events).scope
  issuer := (grows_keep m events).issuer
  target := (like_keep m events).target
  instruments := instruments_keep m events
  freshDestination := freshDestination_of_like (like_keep m events)
  deferred := (like_keep m events).deferred
  created := by cases hm : m.body <;> simp [keep, hm, log]

/-- The stores have the same objects, which are bound to the same targets. -/
structure Alike (s s' : Store) : Prop where
  sound : ∀ o, SoundBut o s → SoundBut o s'
  later : Later s s'
  providers : s'.providers = s.providers
  meters : s.meters.Like Meter.Alike s'.meters
  instruments : s'.instruments = s.instruments

namespace Alike

variable {s s' s'' : Store}

/-- Where providers, meters and instruments stay as they are, stores are alike. -/
theorem of_eq (hsound : ∀ o, SoundBut o s → SoundBut o s') (hlater : Later s s')
    (hproviders : s'.providers = s.providers) (hmeters : s'.meters = s.meters)
    (hinstruments : s'.instruments = s.instruments) : Alike s s' :=
  ⟨hsound, hlater, hproviders, by rw [hmeters]; exact .refl Meter.Alike.refl _, hinstruments⟩

theorem refl (s : Store) : Alike s s := of_eq (fun _ h => h) (.refl s) rfl rfl rfl

theorem of_shown (h : Shown s s') : Alike s s' :=
  of_eq (fun _ hs => hs.shown h) (.of_shown h) h.providers h.meters h.instruments

theorem trans (h : Alike s s') (h' : Alike s' s'') : Alike s s'' where
  sound o hs := h'.sound o (h.sound o hs)
  later := h.later.trans h'.later
  providers := h'.providers.trans h.providers
  meters :=
    { has := fun m => (h'.meters.has m).trans (h.meters.has m)
      rows := fun m =>
        { scope := (h'.meters.rows m).scope.trans (h.meters.rows m).scope
          issuer := (h'.meters.rows m).issuer.trans (h.meters.rows m).issuer
          target := (h'.meters.rows m).target.trans (h.meters.rows m).target
          instruments := (h'.meters.rows m).instruments.trans (h.meters.rows m).instruments
          freshDestination :=
            (h'.meters.rows m).freshDestination.trans (h.meters.rows m).freshDestination
          deferred := (h'.meters.rows m).deferred.trans (h.meters.rows m).deferred
          created := (h'.meters.rows m).created.trans (h.meters.rows m).created } }
  instruments := h'.instruments.trans h.instruments

theorem note {c : Call} (hc : ∀ m t, c ≠ .bindMeter m t) : Alike s (s.note c) :=
  of_eq (fun _ h => h.note hc) (.note s c) rfl rfl rfl

theorem see (e : Event) : Alike s (s.see e) :=
  of_eq (fun _ h => h.see e) (.of_eq rfl rfl rfl rfl rfl) rfl rfl rfl

/-- What a registration has written down does not matter. -/
theorem writeProvider (r : RegistrationRef) {p : ProviderRef} (hp : s.providers.Has p) :
    Alike s (s.writeProvider r p) :=
  .of_eq (fun _ h => h.writeProvider hp) (.updateRegistration ⟨rfl, fun h => h⟩) rfl rfl rfl

/-- That a gate has fired does not matter. -/
theorem pass (s : Store) (r : RegistrationRef) : Alike s (s.withGate r .passed) :=
  .of_eq (fun _ h => h.updateRegistration ⟨rfl, rfl⟩ ⟨rfl, fun _ => rfl⟩)
    (.updateRegistration ⟨rfl, fun _ => rfl⟩) rfl rfl rfl

theorem log (m : Message) : Alike s (s.log m) := see _

theorem keep (r : MeterRef) (events : List Recorded) :
    Alike s (s.updateMeter r fun m => m.keep events) where
  sound _ h := h.keep r events
  later := .updateMeter (Meter.grows_keep _ events)
  providers := rfl
  meters := .update Meter.Alike.refl (Meter.alike_keep _ events)
  instruments := rfl

theorem updateCallback (c : CallbackRef) (f : Callback → Callback) :
    Alike s (s.updateCallback c f) :=
  of_eq (fun _ h => h.of_eq rfl rfl rfl rfl rfl rfl) (.of_eq rfl rfl rfl rfl rfl) rfl rfl rfl

theorem of_gives (h : Gives s s') : Alike s s' := by
  cases h with
  | note hc =>
      refine note ?_
      rintro m t rfl
      cases hc
  | see _ => exact see _
  | keep m events => exact keep m events
  | poll c => exact (note (by simp)).trans (updateCallback c _)

theorem of_path (h : ReflTransGen Gives s s') : Alike s s' := by
  induction h with
  | refl => exact refl s
  | tail _ hgives ih => exact ih.trans (of_gives hgives)

theorem provider (h : Alike s s') (q : ProviderRef) : s'.provider q = s.provider q :=
  congrArg (Table.get · q) h.providers

theorem instrument (h : Alike s s') (i : InstrumentRef) : s'.instrument i = s.instrument i :=
  congrArg (Table.get · i) h.instruments

theorem meter (h : Alike s s') (m : MeterRef) : (s.meter m).Alike (s'.meter m) := h.meters.rows m

end Alike

/-- Giving samples leaves registrations, registries and names alone. -/
theorem Gives.aside {s s' : Store} (h : Gives s s') :
    s'.registrations = s.registrations ∧ s'.directory = s.directory ∧
      s'.environment = s.environment ∧ s'.registries = s.registries := by
  cases h <;> exact ⟨rfl, rfl, rfl, rfl⟩

theorem aside_of_gives {s s' : Store} (h : ReflTransGen Gives s s') :
    s'.registrations = s.registrations ∧ s'.directory = s.directory ∧
      s'.environment = s.environment ∧ s'.registries = s.registries := by
  induction h with
  | refl => exact ⟨rfl, rfl, rfl, rfl⟩
  | tail _ hgives ih =>
      obtain ⟨hregistrations, hdirectory, henvironment, hregistries⟩ := hgives.aside
      obtain ⟨hregistrations', hdirectory', henvironment', hregistries'⟩ := ih
      exact ⟨hregistrations.trans hregistrations', hdirectory.trans hdirectory',
        henvironment.trans henvironment', hregistries.trans hregistries'⟩

end DeferredMetrics
