import DeferredMetrics.Proofs.Agreement
import DeferredMetrics.Proofs.Undecided

set_option autoImplicit false

/-! # What factories leave of a registration

A factory may offer providers to registrations, also to the one that it is run for. Two things are
kept however that comes out. A search accounts for the provider that a registration has got since it
began: its deferred provider was told of it (`Accounted`). And if what a factory does comes to an
end, the gate of a registration has fired just if the registration has a provider
(`Op.settles_runFactory`): an installation that has written its provider down and not passed its
gate does not come to an end. As long as a registration has no provider, an offer is no different
from a first one (`Store.Sane.setProvider`, `Store.Sane.setProvider_back`). -/

namespace DeferredMetrics

open Relation (ReflTransGen)

namespace Store

/-- The store is sound, and its registrations without a provider have decided nothing. -/
structure Sane (s : Store) : Prop where
  sound : Sound s
  undecided : ∀ r, s.registrations.Has r → s.Undecided r

/-- The gate of the registration has fired just if the registration has a provider. -/
def Settled (s : Store) (r : RegistrationRef) : Prop :=
  (s.gate r).fired = (s.registration r).provider.isSome

/-- Between the stores the registration has got no provider but one that its deferred provider was
told of. -/
structure Accounted (r : RegistrationRef) (s s' : Store) : Prop where
  deferred : (s'.registration r).deferred = (s.registration r).deferred
  told : ∃ new, s'.calls.toList = s.calls.toList ++ new ∧
    ((s'.registration r).provider = (s.registration r).provider ∨
      ∃ w, (s'.registration r).provider = some w ∧
        .bindProvider (s.registration r).deferred w ∈ new)

variable {s s' : Store} {r r₀ : RegistrationRef} {p : ProviderRef}

theorem Sane.of_changes (h : s.Sane) (hpath : ReflTransGen Change s s') : s'.Sane := by
  induction hpath with
  | refl => exact h
  | tail _ hchange ih =>
      exact ⟨(hchange.sound ih.sound).1, hchange.undecided ih.sound ih.undecided⟩

theorem Sane.of_searches (h : s.Sane) (hpath : ReflTransGen Search s s') : s'.Sane :=
  h.of_changes (changes_of_searches hpath)

theorem Sane.of_install (h : s.Sane) (hr : s.registrations.Has r) (hp : s.providers.Has p)
    (discovered : Bool) : ((Op.install r p discovered).left s).Sane :=
  ⟨(Op.sound_install h.sound hr hp discovered).1,
    undecided_of_install h.sound hr discovered h.undecided⟩

theorem Sane.settled (h : s.Sane) (hr : s.registrations.Has r)
    (hslot : (s.registration r).provider = none) : s.Settled r := by
  rw [Settled, hslot, (h.undecided r hr hslot).1]
  rfl

/-- A registration without a provider waits, with all that its deferred provider has issued. -/
theorem Sane.waits (h : s.Sane) (hr : s.registrations.Has r)
    (hslot : (s.registration r).provider = none) :
    s.ProviderWaits (s.registration r).deferred :=
  h.sound.providerWaits (h.sound.owners.known r hr) (h.sound.owners.deferred r hr)
    (h.undecided r hr hslot).2

theorem Settled.congr (h : s.Settled r) (hrests : (s.registration r).Rests (s'.registration r)) :
    s'.Settled r := by
  rw [Settled, gate, hrests.gate, hrests.provider]
  exact h

/-- After `r` has written a provider down and has finished, it is settled. -/
theorem settled_finish (hr : s.registrations.Has r) {t : Store}
    (hregistrations : t.registrations = (s.writeProvider r p).registrations) (discovered : Bool) :
    (t.finish r discovered).Settled r := by
  have hrow := registration_finish r hr hregistrations discovered
  rw [if_pos rfl] at hrow
  rw [Settled, gate, hrow]
  rfl

namespace Accounted

theorem refl (r : RegistrationRef) (s : Store) : Accounted r s s := ⟨rfl, [], by simp, .inl rfl⟩

theorem trans {s'' : Store} (h : Accounted r s s') (h' : Accounted r s' s'') :
    Accounted r s s'' := by
  obtain ⟨new, hcalls, hslot⟩ := h.told
  obtain ⟨new', hcalls', hslot'⟩ := h'.told
  refine ⟨h'.deferred.trans h.deferred, new ++ new', by rw [hcalls', hcalls, List.append_assoc], ?_⟩
  rcases hslot' with hsame | ⟨w, hw, hmem⟩
  · rw [hsame]
    exact hslot.imp_right fun ⟨w, hw, hmem⟩ => ⟨w, hw, List.mem_append_left new' hmem⟩
  · exact .inr ⟨w, hw, List.mem_append_right new (h.deferred ▸ hmem)⟩

/-- The registration has got `w`, and a call has told its deferred provider so. -/
theorem of_got {w : ProviderRef} (new : List Call)
    (hgot : (s'.registration r).deferred = (s.registration r).deferred ∧
      (s'.registration r).provider = some w)
    (hcalls : s'.calls.toList = s.calls.toList ++ new)
    (hmem : .bindProvider (s.registration r).deferred w ∈ new) : Accounted r s s' :=
  ⟨hgot.1, new, hcalls, .inr ⟨w, hgot.2, hmem⟩⟩

/-- A registration that rests has got no provider. -/
theorem of_rests (new : List Call) (hrests : (s.registration r).Rests (s'.registration r))
    (hcalls : s'.calls.toList = s.calls.toList ++ new) : Accounted r s s' :=
  ⟨hrests.deferred, new, hcalls, .inl hrests.provider⟩

theorem of_silent (h : Silent s s') : Accounted r s s' :=
  of_rests [] (h.registration r) (by rw [h.calls, List.append_nil])

end Accounted

end Store

namespace Op

open Store (Accounted)

variable {α β : Type} {s s' : Store} {r r₀ : RegistrationRef} {p : ProviderRef}

/-- An installation accounts for the provider of its registration. -/
theorem accounted_install_self (h : Sound s) (hr : s.registrations.Has r) (hp : s.providers.Has p)
    (discovered : Bool) : Accounted r s ((install r p discovered).left s) := by
  have hgot : ∀ {t : Store}, t.registrations = (s.writeProvider r p).registrations →
      ((t.finish r discovered).registration r).deferred = (s.registration r).deferred ∧
        ((t.finish r discovered).registration r).provider = some p := fun ht => by
    rw [Store.registration_finish r hr ht discovered, if_pos rfl]
    exact ⟨rfl, rfl⟩
  have hinstalls := installs (p := p) h hr discovered
  generalize hrun : install r p discovered s = result at hinstalls
  cases hinstalls with
  | late hgate =>
      rw [left_of_ok hrun]
      split
      · exact .refl r s
      · exact .of_rests [] ⟨rfl, rfl, rfl⟩ (by simp [Store.log, Store.see])
  | effective hgate hwait he hne hshown =>
      obtain ⟨xs, hrebinding⟩ := Rebinding.of_bindProvider h hr hp hwait he hne hshown discovered
      rw [left_of_ok hrun]
      refine .of_got _ ?_ hrebinding.calls List.mem_cons_self
      rw [hrebinding.registration]
      exact ⟨rfl, rfl⟩
  | again hgate htarget =>
      rw [left_of_ok hrun]
      exact .of_got _ (hgot rfl) Array.toList_push List.mem_cons_self
  | idle hgate htarget hcircular hmeters =>
      rw [left_of_ok hrun]
      exact .of_got _ (hgot rfl) Array.toList_push List.mem_cons_self
  | stuck scope hgate htarget hcircular hmeters =>
      rw [left_of_error hrun]
      refine .of_got (w := p) [.bindProvider (s.registration r).deferred p, .meter p scope] ?_ ?_
        List.mem_cons_self
      · show ((s.writeProvider r p).registration r).deferred = _ ∧
          ((s.writeProvider r p).registration r).provider = some p
        rw [Store.writeProvider, Store.registration_updateRegistration, if_pos ⟨rfl, hr⟩]
        exact ⟨rfl, rfl⟩
      · show ((s.calls.push _).push _).toList = _
        simp

theorem accounted_install (h : Sound s) (hr₀ : s.registrations.Has r₀) (hp : s.providers.Has p)
    (discovered : Bool) : Accounted r s ((install r₀ p discovered).left s) := by
  by_cases heq : r = r₀
  · subst heq
    exact accounted_install_self h hr₀ hp discovered
  · obtain ⟨new, hcalls, _⟩ := calls_install h hr₀ hp discovered
    have hrow := (elsewhere_install (p := p) h hr₀ discovered).registration r heq
    exact .of_rests new (by rw [hrow]; exact ⟨rfl, rfl, rfl⟩) hcalls

theorem accounted_search (h : Sound s) (hsearch : Search s s') : Accounted r s s' := by
  cases hsearch with
  | silent hsilent => exact .of_silent hsilent
  | @offered _ r₀ p hr hp =>
      have hinstall : Accounted r s ((install r₀ p false).left s) :=
        accounted_install h (h.names.registrations _ _ hr) hp false
      rcases left_offer r₀ p s with heq | ⟨won, heq⟩
      · exact heq ▸ hinstall
      · rw [heq]
        exact hinstall.trans (.of_rests [] ⟨rfl, rfl, rfl⟩ (List.append_nil _).symm)

/-- A search accounts for the provider of every registration. -/
theorem accounted_of_searches (h : Sound s) (hpath : ReflTransGen Search s s') :
    Accounted r s s' := by
  induction hpath with
  | refl => exact .refl r s
  | tail hbefore hlast ih => exact ih.trans (accounted_search (sound_of_searches h hbefore).1 hlast)

/-! ## Settled registrations -/

/-- If the operation comes to an end, the registration is settled. -/
def Settles (r : RegistrationRef) (op : Op α) (s : Store) : Prop :=
  ∀ a s', op s = .ok a s' → s'.Settled r

theorem settles_pure {a : α} (hs : s.Settled r) : Settles r (pure a) s := by
  rintro b s' ⟨⟩
  exact hs

theorem settles_throw (halt : Halt) : Settles r (throw halt : Op α) s := by
  rintro a s' ⟨⟩

/-- Where nothing is decided, a registration stays settled. -/
theorem settles_of_silent {op : Op α} {Q : α → Store → Prop} (h : Goes Silent op s Q)
    (hs : s.Settled r) : Settles r op s := by
  intro a s' hrun
  have hsilent := silent_of_path h.path
  rw [left_of_ok hrun] at hsilent
  exact hs.congr (hsilent.registration r)

theorem Settles.bind {op : Op α} {f : α → Op β} (h : Settles r op s)
    (hf : ∀ a s', op s = .ok a s' → s'.Settled r → Settles r (f a) s') :
    Settles r (op >>= f) s := by
  intro b s' hrun
  rw [bind_run] at hrun
  cases hop : op s with
  | error halt s₁ => rw [hop] at hrun; cases hrun
  | ok a s₁ =>
      rw [hop] at hrun
      exact hf a s₁ hop (h a s₁ hop) b s' hrun

theorem settles_named_bind {roster : Directory → Roster α} {name : String} {f : α → Op β}
    (h : ∀ x, (roster s.directory).get? name = some x → Settles r (f x) s) :
    Settles r (named roster name >>= f) s := by
  intro b s' hrun
  cases hx : (roster s.directory).get? name with
  | none => rw [bind_of_error (named_of_none hx)] at hrun; cases hrun
  | some x =>
      rw [bind_of_ok (named_of_some hx)] at hrun
      exact h x hx b s' hrun

/-- An installation that comes to an end has passed its gate, or it has found the gate passed. -/
theorem settles_install (h : Sound s) (hr₀ : s.registrations.Has r₀) (hs : s.Settled r)
    (discovered : Bool) : Settles r (install r₀ p discovered) s := by
  intro won s' hrun
  by_cases heq : r = r₀
  · subst heq
    have hinstalls := installs (p := p) h hr₀ discovered
    rw [hrun] at hinstalls
    -- the case that waits for itself does not come to an end
    cases hinstalls with
    | late hgate => split <;> exact hs
    | effective hgate hwait he hne hshown =>
        have hwritten := hshown.registrations.trans (Store.registrations_bindProvider s r p _)
        exact Store.settled_finish hr₀ hwritten discovered
    | again hgate htarget => exact Store.settled_finish (p := p) hr₀ rfl discovered
    | idle hgate htarget hcircular hmeters =>
        exact Store.settled_finish (p := p) hr₀ rfl discovered
  · have hrow := (elsewhere_install (p := p) h hr₀ discovered).registration r heq
    rw [left_of_ok hrun] at hrow
    exact hs.congr (by rw [hrow]; exact ⟨rfl, rfl, rfl⟩)

/-- Asking a registry searches, and leaves the registration settled. -/
structure Asker.Settles (ask : Asker) (r : RegistrationRef) : Prop where
  searches : ask.Searches
  settles : ∀ {s}, Sound s → s.Settled r → ∀ g key name, Op.Settles r (ask g key name) s

variable {ask : Asker}

theorem settles_act (hask : ask.Settles r) (h : Sound s) (hs : s.Settled r)
    (action : FactoryAction) : Settles r (act ask action) s := by
  cases action with
  | ask registry key name =>
      refine settles_named_bind fun g _ => (hask.settles h hs g key name).bind fun _ _ _ hs' => ?_
      exact settles_pure hs'
  | offer registration provider =>
      refine settles_named_bind fun o ho => ?_
      refine (settles_of_silent (goes_providerNamed h) hs).bind fun p s₁ hp hs₁ => ?_
      -- to look the provider up may make it, but the registration that it is offered to stays
      have hgoes : Goes Silent (providerNamed provider) s _ := goes_providerNamed h
      have hsilent := silent_of_path hgoes.path
      rw [left_of_ok hp] at hsilent
      have ho₁ : s₁.registrations.Has o :=
        (hsilent.has o).2 (h.names.registrations registration o ho)
      refine (settles_install (hsilent.sound h) ho₁ hs₁ false).bind fun won s₂ _ hs₂ => ?_
      rintro _ s₃ ⟨⟩
      exact hs₂
  | _ => exact settles_of_silent (goes_act_of_isSilent h rfl) hs

theorem settles_acts (hask : ask.Settles r) (h : Sound s) (hs : s.Settled r)
    (actions : List FactoryAction) : Settles r (actions.forM (act ask)) s := by
  induction actions generalizing s with
  | nil => exact settles_pure hs
  | cons x xs ih =>
      refine (settles_act hask h hs x).bind fun _ s₁ hrun hs₁ => ih ?_ hs₁
      have hpath := (goes_act hask.searches h x).path
      rw [left_of_ok hrun] at hpath
      exact (sound_of_searches h hpath).1

theorem settles_finish (hask : ask.Settles r) (h : Sound s) (hs : s.Settled r) (name : String)
    (outcome : Outcome) : Settles r (finish ask name outcome) s := by
  cases outcome with
  | panics payload => exact settles_throw _
  | fails reason causes => exact settles_pure hs
  | delegates registry key other =>
      refine settles_named_bind fun g _ => ?_
      refine (hask.settles h hs g key other).bind fun answer _ _ hs' => ?_
      cases answer <;> exact settles_pure hs'
  | makes spec =>
      exact (settles_of_silent (goes_buildInvented h spec) hs).bind fun _ _ _ hs' =>
        settles_pure hs'

theorem settles_runFactory (hask : ask.Settles r) (h : Sound s) (hs : s.Settled r) (name : String)
    (stored : StoredFactory) : Settles r (runFactory ask name stored) s := by
  cases stored with
  | noop =>
      exact (settles_of_silent (goes_makeProvider rfl rfl) hs).bind fun _ _ _ hs' =>
        settles_pure hs'
  | program factory =>
      refine (settles_of_silent (goes_see rfl rfl) hs).bind fun _ s₁ hseen hs₁ => ?_
      have h₁ : Sound s₁ := by
        cases hseen
        exact (Silent.see s (e := .factory name) rfl rfl).sound h
      refine (settles_acts hask h₁ hs₁ factory.actions).bind fun _ s₂ hrun hs₂ => ?_
      refine settles_finish hask ?_ hs₂ name factory.outcome
      have hactions : Goes Search (factory.actions.forM (act ask)) s₁ fun _ s' => Sound s' :=
        goes_forM h₁ fun action _ s' hs' => (goes_act hask.searches hs' action).mono
          fun _ _ hpath _ => (sound_of_searches hs' hpath).1
      have hpath := hactions.path
      rw [left_of_ok hrun] at hpath
      exact (sound_of_searches h₁ hpath).1

theorem settles_instantiate (depth : Nat) : (instantiate depth).Settles r := by
  induction depth with
  | zero => exact ⟨searches_instantiate 0, fun _ _ _ _ _ => settles_throw _⟩
  | succ depth ih =>
      refine ⟨searches_instantiate (depth + 1), fun {s} h hs g key name => ?_⟩
      show Settles r (get >>= fun s => _) s
      intro answer s' hrun
      rw [bind_of_ok (get_run s)] at hrun
      cases hfound : (s.registry g).get? name with
      | none =>
          rw [hfound] at hrun
          exact settles_pure hs answer s' hrun
      | some stored =>
          rw [hfound] at hrun
          exact settles_runFactory ih h hs name stored answer s' hrun

end Op

/-! ## Offers to registrations without a provider -/

namespace Store.Sane

variable {s : Store} {r : RegistrationRef} {p : ProviderRef}

/-- A provider whose chain ends elsewhere takes effect in a registration that has none. -/
theorem setProvider (h : s.Sane) (hr : s.registrations.Has r)
    (hslot : (s.registration r).provider = none) {e : ProviderRef} (hp : s.providers.Has p)
    (he : s.providerEnd? p = some e) (hne : e ≠ (s.registration r).deferred) :
    ∃ xs s', Op.setProvider r p s = .ok true s' ∧ Rebinding s r p e xs s' := by
  have hwait := h.waits hr hslot
  obtain ⟨s', hs', hrun⟩ := Op.install_run false (h.undecided r hr hslot).1 hwait he hne
  obtain ⟨xs, hrebinding⟩ := Rebinding.of_bindProvider h.sound hr hp hwait he hne hs'.shown false
  exact ⟨xs, _, hrun, hrebinding⟩

/-- A provider that leads back takes effect too, as long as there is nothing to bind; else the
installation waits for itself. -/
theorem setProvider_back (h : s.Sane) (hr : s.registrations.Has r)
    (hslot : (s.registration r).provider = none)
    (hcircular : ∀ e, s.providerEnd? p = some e → e = (s.registration r).deferred) :
    ((s.provider (s.registration r).deferred).meters = [] → Op.setProvider r p s =
      .ok true (((s.assign r p).log (.providerBound 0 0)).finish r false)) ∧
    ((s.provider (s.registration r).deferred).meters ≠ [] → ∃ scope, Op.setProvider r p s =
      .error .waiting ((s.assign r p).note (.meter p scope))) := by
  obtain ⟨hgate, htarget⟩ := h.undecided r hr hslot
  have hinstalls := Op.installs (p := p) h.sound hr false
  unfold Op.setProvider
  generalize Op.install r p false s = result at hinstalls
  cases hinstalls with
  | late hfired => rw [hgate] at hfired; cases hfired
  | effective _ _ he hne => exact absurd (hcircular _ he) hne
  | again _ hbound => rw [htarget] at hbound; cases hbound
  | idle _ _ _ hnone => exact ⟨fun _ => rfl, fun hsome => absurd hnone hsome⟩
  | stuck scope _ _ _ hsome => exact ⟨fun hnone => absurd hnone hsome, fun _ => ⟨scope, rfl⟩⟩

end Store.Sane

theorem Reachable.sane {s : Store} (h : Reachable s) : s.Sane :=
  ⟨reachable_sound h, fun _ hr => h.undecided hr⟩

end DeferredMetrics
