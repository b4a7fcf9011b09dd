import DeferredMetrics.Proofs.Telling
import DeferredMetrics.Proofs.Using

set_option autoImplicit false

/-! # Order between steps

As long as no chain of targets becomes circular, everything that is done leaves a store `Orderly`:
it is sound, its registrations agree with themselves, and no node was told a target twice
(`Store.Orderly.of_hushed`). What other threads do beside an installation is `Harmless`: it tells
nothing, and keeps a store sound whatever meter is open. -/

namespace DeferredMetrics

open Relation (ReflTransGen)

namespace Store

/-- The chain of targets from the deferred provider of each registration has an end. -/
def Acyclic (s : Store) : Prop :=
  ∀ r, s.registrations.Has r → (s.providerEnd? (s.registration r).deferred).isSome = true

/-- A registration keeps its deferred provider, and the chain from there has an end later too. -/
theorem Acyclic.later {s s' : Store} (h : s'.Acyclic) (hlater : Later s s') {r : RegistrationRef}
    (hr : s.registrations.Has r) : (s'.providerEnd? (s.registration r).deferred).isSome = true := by
  rw [← (hlater.registration hr).deferred]
  exact h r (hlater.registrations r hr).1

/-- Chains that are not circular were not circular before. -/
theorem Acyclic.before {s s' : Store} (h : s'.Acyclic) (hlater : Later s s') : s.Acyclic :=
  fun _ hr => ends_of_later hlater (h.later hlater hr)

/-- The store is sound, its registrations agree with themselves, no chain is circular, and no node
was told a target twice. -/
structure Orderly (s : Store) : Prop where
  sound : Sound s
  agrees : ∀ r, s.registrations.Has r → s.AgreesOn r
  ends : s.Acyclic
  tellsOnce : s.TellsOnce

namespace TellsOnce

variable {s s' : Store}

theorem initial (environment : Environment) : (Store.initial environment).TellsOnce where
  quiet _ he := absurd he (Array.not_mem_empty _)
  nodup := .nil
  provider := nofun
  known := nofun
  bound := nofun
  handed i t request j h := by
    have hlength := h.length_le
    simp [Call.handing, Store.initial] at hlength
  settled := nofun

theorem register (h : s.TellsOnce) (discovery : Discovery) :
    ((Op.makeRegistration discovery).left s).TellsOnce := by
  have hsilent := Silent.addProvider s (p := .freshDeferred) rfl rfl
  exact (h.calm hsilent.toCalm hsilent.repeated).congr (.addRegistration _ _) rfl rfl (.of_eq rfl)

theorem of_hushed (h : s.TellsOnce) (hs : Sound s) (hagreed : s.Agreed)
    (hpath : ReflTransGen Hushed s s') (hends : s'.Acyclic) : s'.TellsOnce := by
  induction hpath with
  | refl => exact h
  | @tail t t' hpath hlast ih =>
      have hchanges := changes_of_hushed hpath
      obtain ⟨hsound, -⟩ := sound_of_changes hs hchanges
      obtain ⟨-, hlater⟩ := hlast.change.sound hsound
      -- a chain that ends afterwards had an end before
      have hbefore := hends.before hlater
      have htold := ih hbefore
      cases hlast with
      | calm hcalm hrepeated => exact htold.calm hcalm hrepeated
      | install discovered hr hp =>
          have hknown := hsound.names.registrations _ _ hr
          have hagrees := agreed_of_changes hs hagreed hchanges _ hknown (hbefore _ hknown)
          exact htold.install hsound hknown hp discovered hagrees (hends.later hlater hknown)
      | register discovery => exact htold.register discovery

end TellsOnce

namespace Orderly

variable {s s' : Store}

theorem initial (environment : Environment) : (Store.initial environment).Orderly where
  sound := sound_initial environment
  agrees := nofun
  ends := nofun
  tellsOnce := .initial environment

/-- What is hushed keeps order, unless it makes a chain circular. -/
theorem of_hushed (h : s.Orderly) (hpath : ReflTransGen Hushed s s') (hends : s'.Acyclic) :
    s'.Orderly := by
  have hchanges := changes_of_hushed hpath
  have hagreed : s.Agreed := fun r hr _ => h.agrees r hr
  exact ⟨(sound_of_changes h.sound hchanges).1,
    fun r hr => agreed_of_changes h.sound hagreed hchanges r hr (hends r hr), hends,
    h.tellsOnce.of_hushed h.sound hagreed hpath hends⟩

end Orderly

end Store

/-! ## Beside an installation -/

/-- Nothing is told, nothing gets a target, and the store stays sound whatever meter is open. -/
structure Harmless (s s' : Store) : Prop extends Steady s s' where
  passing : ∃ new, Passing new s s' ∧ ∀ c ∈ new, c.tells = false
  repeated : NothingRepeated s s'
  sound : ∀ o, SoundBut o s → SoundBut o s'
  meter : ∀ m, s.meters.Has m → (s'.meter m).target? = (s.meter m).target?

namespace Harmless

variable {s s' : Store}

theorem of_calm (hcalm : Calm s s') (hrepeated : NothingRepeated s s') (hsteady : Steady s s')
    (hsound : ∀ o, SoundBut o s → SoundBut o s')
    (hmeter : ∀ m, s.meters.Has m → (s'.meter m).target? = (s.meter m).target?) : Harmless s s' :=
  ⟨hsteady, hcalm.passing, hrepeated, hsound, hmeter⟩

theorem of_shown (h : Shown s s') : Harmless s s' :=
  of_calm (.of_shown h) (.of_shown h) (.of_shown h) (fun _ hs => hs.shown h)
    fun m _ => congrArg Meter.target? (h.meter m)

theorem refl (s : Store) : Harmless s s := of_shown (.refl s)

theorem trans {s'' : Store} (h : Harmless s s') (h' : Harmless s' s'') : Harmless s s'' where
  toSteady := h.toSteady.trans h'.toSteady
  passing := by
    obtain ⟨new, hpassing, hnew⟩ := h.passing
    obtain ⟨new', hpassing', hnew'⟩ := h'.passing
    exact ⟨_, hpassing.trans hpassing', fun c hc => (List.mem_append.1 hc).elim (hnew c) (hnew' c)⟩
  repeated := h.repeated.trans h'.repeated
  sound o hs := h'.sound o (h.sound o hs)
  meter m hm := (h'.meter m (h.later.meters m hm).1).trans (h.meter m hm)

theorem log {m : Message} (hm : (Event.log m).isRepeat = false) : Harmless s (s.log m) :=
  of_calm (.see _) (.see hm) (.log s m) (fun _ hs => hs.log m) fun _ _ => rfl

/-- What was seen is forgotten. -/
theorem clear (s : Store) : Harmless s { s with trace := #[] } :=
  of_calm (.of_tables rfl rfl rfl rfl rfl rfl rfl) (fun _ he => absurd he (Array.not_mem_empty _))
    ⟨.of_eq rfl rfl rfl rfl rfl, rfl, rfl, fun _ => rfl⟩
    (fun _ hs => hs.of_eq rfl rfl rfl rfl rfl rfl) fun _ _ => rfl

theorem of_gives (h : ReflTransGen Gives s s') : Harmless s s' := by
  induction h with
  | refl => exact refl s
  | tail _ hgives ih =>
      have halike := Alike.of_gives hgives
      exact ih.trans (of_calm hgives.calm hgives.repeated (.of_gives (.single hgives)) halike.sound
        fun m _ => (halike.meter m).target)

theorem note {c : Call} (hdeed : Deed s (s.note c)) (hc : c.tells = false) :
    Harmless s (s.note c) := by
  refine of_calm (.note hdeed hc) (.of_eq rfl) (.note s c) (fun _ hs => hs.note ?_) fun _ _ => rfl
  rintro m t rfl
  cases hc

theorem askMeter {o : Option (MeterRef × MeterRef)} (h : SoundBut o s) {p e : ProviderRef}
    (scope : Scope) (hp : s.providers.Has p) (he : s.providerEnd? p = some e) :
    Harmless s (s.askMeter p e scope) :=
  of_calm (.askMeter scope hp he) (.of_eq (Store.directory_askMeter s p e scope).2)
    (.askMeter s p e scope) (fun _ hs => hs.askMeter scope (h.bindings.has_end hp he))
    fun _ hm => congrArg Meter.target? (Store.meter_askMeter hm scope)

theorem askInstrument {m t : MeterRef} (request : Request) (ht : s.meterEnd? m = some t) :
    Harmless s (s.askInstrument m t request) := by
  refine of_calm (.askInstrument request ht) (.askInstrument s m t request)
    (.of_aside (.askInstrument s m t request) (.askInstrument s m t request) fun q => ?_)
    (fun _ hs => hs.askInstrument m t request) fun x _ => ?_
  · show ((s.askInstrument m t request).providers.get q).target? = _
    rw [Store.askInstrument, Store.providers_noteReturn]
    exact Calm.target?_giveInstrument (s.note (.instrument m request)) t request q
  · rw [Store.meter, Store.meters_askInstrument]
    exact Table.apply_get_update Meter.target? _ (fun m => m.target?_take _ _) _ _

theorem told (h : Harmless s s') : s'.told = s.told := by
  obtain ⟨new, hpassing, hnew⟩ := h.passing
  have hnone : new.filterMap Call.told? = [] :=
    List.filterMap_eq_nil_iff.2 fun c hc => Call.told?_of_not_tells (hnew c hc)
  rw [Store.told_of_append new hpassing.calls, hnone, List.append_nil]

theorem told_bindMeter (h : Harmless s s') (m t : MeterRef) :
    (s'.note (.bindMeter m t)).told = s.told ++ [.meter m] := by
  rw [Store.told_of_append [.bindMeter m t] Array.toList_push, h.told]
  rfl

theorem tellsOnce (h : Harmless s s') (htold : s.TellsOnce) : s'.TellsOnce := by
  obtain ⟨new, hpassing, hnew⟩ := h.passing
  exact htold.of_passing h.later hpassing hnew h.repeated

end Harmless

namespace Op

variable {s : Store} {o : Option (MeterRef × MeterRef)}

theorem left_answering {α : Type} {op : Op α} {answer : Except Payload α} {s' : Store}
    (hrun : op s = answering answer s') : op.left s = s' := by
  unfold left
  rw [hrun]
  cases answer <;> rfl

theorem harmless_requestMeter (h : SoundBut o s) {p : ProviderRef} (hp : s.providers.Has p)
    (scope : Scope) : Harmless s ((requestMeter p scope).left s) := by
  cases he : s.providerEnd? p with
  | none =>
      rw [left_of_error (requestMeter_of_none scope he)]
      exact .note (.loseMeter scope he) rfl
  | some e =>
      obtain ⟨s', hs', hrun⟩ := requestMeter_run scope he
      rw [left_answering hrun]
      exact (Harmless.askMeter h scope hp he).trans (.of_shown hs'.shown)

theorem harmless_requestInstrument (h : SoundBut o s) (m : MeterRef) (request : Request) :
    Harmless s ((requestInstrument m request).left s) := by
  cases ht : s.meterEnd? m with
  | none =>
      rw [left_of_error (requestInstrument_of_none request ht)]
      exact .note (.loseInstrument request ht) rfl
  | some t =>
      have hfits : s.MeterFits t := fun e he => (h.tree.fits t e he).2
      obtain ⟨s', hs', hrun⟩ := requestInstrument_run request ht hfits
      rw [left_answering hrun]
      exact (Harmless.askInstrument request ht).trans (.of_shown hs'.shown)

end Op

end DeferredMetrics
