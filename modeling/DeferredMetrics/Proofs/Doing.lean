import DeferredMetrics.Proofs.Performing

set_option autoImplicit false

/-! # Steps are made of deeds

An installation is made of deeds whatever it meets: a target that is told in vain, a circle, or a
backend that refuses some of what it is asked for (`deeds_install`). With that every change, and so
every sequential step, is a path of deeds that keep the store sound (`deeds_of_step`,
`deeds_of_run`). -/

namespace DeferredMetrics

open Relation (ReflTransGen)

/-- Nothing happens that soundness speaks of, nor a call, nor to a callback. -/
theorem SoundDeed.aside {s s' : Store} (hsound : Sound s → Sound s')
    (hproviders : s'.providers = s.providers) (hmeters : s'.meters = s.meters)
    (hinstruments : s'.instruments = s.instruments) (hcallbacks : s'.callbacks = s.callbacks)
    (hcalls : s'.calls = s.calls) : SoundDeed s s' :=
  ⟨.aside hproviders hmeters hinstruments hcallbacks hcalls, hsound⟩

theorem SoundDeed.log (s : Store) (m : Message) : SoundDeed s (s.log m) :=
  .aside (fun hs => hs.log m) rfl rfl rfl rfl rfl

theorem SoundDeed.shown {s s' : Store} (h : Shown s s') : SoundDeed s s' :=
  .aside (fun hs => hs.shown h) h.providers h.meters h.instruments h.callbacks h.calls

theorem SoundDeed.finish (s : Store) (r : RegistrationRef) (discovered : Bool) :
    SoundDeed s (s.finish r discovered) :=
  .aside (fun hs => Store.sound_finish hs r discovered) rfl rfl rfl rfl rfl

namespace Store

variable {s : Store} {p e d : ProviderRef}

/-- Trying to bind a meter is asking for a meter, and binding it to what is answered. -/
theorem deeds_tryMeter (h : Sound s) {m : MeterRef} (hwaits : s.MeterWaits m)
    (hd : (s.meter m).issuer = some d) (hp : (s.provider d).target? = some p)
    (he : s.providerEnd? p = some e) : ReflTransGen SoundDeed s (s.tryMeter p e m) := by
  have hknown := h.bindings.known d p hp
  have hasked : SoundDeed s (s.askMeter p e (s.meter m).scope) :=
    ⟨.askMeter _ hknown he, fun hs => hs.askMeter _ (hs.bindings.has_end hknown he)⟩
  have htried := h.tryMeter hwaits hd hp he
  cases hanswer : s.meterAnswer e (s.meter m).scope with
  | error payload =>
      rw [tryMeter_of_error hanswer]
      exact .tail (.single hasked) (.log _ _)
  | ok t =>
      rw [tryMeter_of_ok hanswer] at htried ⊢
      have hne : m ≠ t := meterAnswer_eq_next s hanswer ▸ Table.ne_next_of_has hwaits.known
      exact .tail (.single hasked)
        ⟨.bindMeter (serves_askMeter hanswer) (hwaits.askMeter _) hne, fun _ => htried⟩

theorem deeds_tryMeters (h : Sound s) {ms : List MeterRef} (hwait : s.AllWait ms)
    (hd : ∀ m ∈ ms, (s.meter m).issuer = some d) (hp : (s.provider d).target? = some p)
    (he : s.providerEnd? p = some e) : ReflTransGen SoundDeed s (s.tryMeters p e ms) := by
  induction ms generalizing s with
  | nil => exact .refl
  | cons m ms ih =>
      have hm := hwait.waits m List.mem_cons_self
      have hhead := deeds_tryMeter h hm (hd m List.mem_cons_self) hp he
      have hlater : Later s (s.tryMeter p e m) := .tryMeter hm
      refine hhead.trans (ih (h.tryMeter hm (hd m List.mem_cons_self) hp he) hwait.tail ?_ ?_ ?_)
      · intro k hk
        have hknown := (hwait.waits k (List.mem_cons_of_mem _ hk)).known
        rw [(hlater.meter hknown).issuer]
        exact hd k (List.mem_cons_of_mem _ hk)
      · exact (hlater.provider (has_of_providerTarget hp)).target p hp
      · exact (providerEnd?_tryMeter hm.known p).trans he

/-- A registration gets a provider, and all that its deferred provider has issued is tried. -/
theorem deeds_bindProvider {r : RegistrationRef} (h : Sound s) (hr : s.registrations.Has r)
    (hp : s.providers.Has p) (hwait : s.ProviderWaits (s.registration r).deferred)
    (he : s.providerEnd? p = some e) (hne : e ≠ (s.registration r).deferred) :
    ReflTransGen SoundDeed s
      ((s.writeProvider r p).bindProvider (s.registration r).deferred p e) := by
  obtain ⟨m, _, heq⟩ := bindProvider_eq_tryMeters s r p e
  obtain ⟨hready, hend⟩ := ready_assign hwait he hne
  have htarget : ((s.assign r p).provider (s.registration r).deferred).target? = some p := by
    rw [target?_assign (h.owners.known r hr) (h.owners.deferred r hr), if_pos rfl]
  have hissuer : ∀ m ∈ (s.provider (s.registration r).deferred).meters,
      ((s.assign r p).meter m).issuer = some (s.registration r).deferred :=
    fun _ hm => (h.issued_of_mem_meters (h.owners.deferred r hr) hm).2
  have hassigned : SoundDeed s (s.assign r p) :=
    ⟨.assign hr hwait.target?, fun hs => hs.assign hp hwait.target?⟩
  have htried := deeds_tryMeters (hassigned.sound h) hready hissuer htarget hend
  rw [heq]
  exact .tail (.head hassigned htried) (.log _ m)

end Store

namespace Op

variable {s : Store} {r : RegistrationRef} {p : ProviderRef}

theorem deeds_install (h : Sound s) (hr : s.registrations.Has r) (hp : s.providers.Has p)
    (discovered : Bool) : ReflTransGen SoundDeed s ((install r p discovered).left s) := by
  have hassigned : (s.provider (s.registration r).deferred).target? = none →
      SoundDeed s (s.assign r p) := fun htarget =>
    ⟨.assign hr htarget, fun hs => hs.assign hp htarget⟩
  have hinstalls := installs (p := p) h hr discovered
  generalize hrun : install r p discovered s = result at hinstalls
  cases hinstalls with
  | late hgate =>
      rw [left_of_ok hrun]
      split
      · exact .refl
      · exact .single (.log s _)
  | effective hgate hwait he hne hshown =>
      rw [left_of_ok hrun]
      exact .tail (.tail (Store.deeds_bindProvider h hr hp hwait he hne) (.shown hshown))
        (.finish _ r discovered)
  | again hgate htarget =>
      rw [left_of_ok hrun]
      have hwritten : SoundDeed s (s.writeProvider r p) :=
        .aside (fun hs => hs.writeProvider hp) rfl rfl rfl rfl rfl
      have htold : SoundDeed (s.writeProvider r p)
          ((s.writeProvider r p).note (.bindProvider (s.registration r).deferred p)) :=
        ⟨.tellAgain p htarget, fun hs => hs.note (by simp)⟩
      exact .tail (.tail (.tail (.single hwritten) htold) (.log _ _)) (.finish _ r discovered)
  | idle hgate htarget hcircular =>
      rw [left_of_ok hrun]
      exact .tail (.tail (.single (hassigned htarget)) (.log _ _)) (.finish _ r discovered)
  | stuck scope hgate htarget hcircular =>
      rw [left_of_error hrun]
      have hend := (Store.providerEnd?_assign_of_circular (h.owners.known r hr)
        (h.owners.deferred r hr) htarget hcircular).2
      exact .tail (.single (hassigned htarget))
        ⟨.loseMeter scope hend, fun hs => hs.note (by simp)⟩

end Op

/-- Every change is made of deeds. -/
theorem deeds_of_change {s s' : Store} (h : Sound s) (hchange : Change s s') :
    ReflTransGen SoundDeed s s' := by
  cases hchange with
  | calm hcalm => exact hcalm.deeds
  | install discovered hr hp =>
      exact Op.deeds_install h (h.names.registrations _ _ hr) hp discovered
  | register discovery =>
      have hadded := (Silent.addProvider s (p := .freshDeferred) rfl rfl).toCalm.deeds
      have hsound := (sound_makeRegistration h discovery).1
      exact hadded.tail (.aside (fun _ => hsound) rfl rfl rfl rfl rfl)

theorem deeds_of_changes {s s' : Store} (h : Sound s) (hchanges : ReflTransGen Change s s') :
    ReflTransGen SoundDeed s s' := by
  induction hchanges with
  | refl => exact .refl
  | tail hchanges hchange ih =>
      exact ih.trans (deeds_of_change (sound_of_changes h hchanges).1 hchange)

theorem deeds_of_step (depth : Nat) (processWide : Option RegistrationRef) {s : Store} {x : Step}
    (h : Sound s) (hx : x.sequential = true) :
    ReflTransGen SoundDeed s (Scenario.step depth processWide s x).2 :=
  deeds_of_changes h (changes_of_step depth processWide h hx)

theorem deeds_of_run (depth : Nat) (processWide : Option RegistrationRef) {s : Store}
    {steps : List Step} (h : Sound s) (hsteps : ∀ x ∈ steps, x.sequential = true) :
    ReflTransGen SoundDeed s (Scenario.after depth processWide s steps) := by
  induction steps generalizing s with
  | nil => exact .refl
  | cons x xs ih =>
      have hx := hsteps x List.mem_cons_self
      have hsound := (sound_of_changes h (changes_of_step depth processWide h hx)).1
      exact (deeds_of_step depth processWide h hx).trans
        (ih hsound fun y hy => hsteps y (List.mem_cons_of_mem x hy))

/-- A run takes nothing back. -/
theorem later_of_run (depth : Nat) (processWide : Option RegistrationRef) {s : Store}
    {steps : List Step} (h : Sound s) (hsteps : ∀ x ∈ steps, x.sequential = true) :
    Later s (Scenario.after depth processWide s steps) := by
  induction steps generalizing s with
  | nil => exact .refl s
  | cons x xs ih =>
      have hx := hsteps x List.mem_cons_self
      obtain ⟨hsound, hlater⟩ := sound_of_changes h (changes_of_step depth processWide h hx)
      exact hlater.trans (ih hsound fun y hy => hsteps y (List.mem_cons_of_mem x hy))

/-- Every store that can be reached is reached by deeds from one without objects. -/
theorem deeds_of_reachable {s : Store} (h : Reachable s) :
    ∃ environment, ReflTransGen SoundDeed (.initial environment) s := by
  let I (s : Store) : Prop := ∃ environment, ReflTransGen SoundDeed (.initial environment) s
  have hchange : ∀ s s', Sound s → I s → Change s s' → I s' := by
    rintro s s' hsound ⟨environment, hdeeds⟩ hchange
    exact ⟨environment, hdeeds.trans (deeds_of_change hsound hchange)⟩
  exact (h.induct (I := I) (fun environment => ⟨environment, .refl⟩) hchange).2

end DeferredMetrics
