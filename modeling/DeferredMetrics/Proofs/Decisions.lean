import DeferredMetrics.Proofs.Selecting

set_option autoImplicit false

/-! # A registration decides once

What is seen of the decisions of one registration over a run is a word of a small language
(`Decides`): nothing until a provider takes effect, then the one message that tells so, and from
then on a warning for every caller that offers another one. Discovery and offering can nest,
because a factory may offer a provider while discovery waits for its own; so the language is
followed along paths of changes first (`seen_of_path`), then over the steps of a run. A
caller who looks for a provider where there is none gets the one that is written down when the look
is over (`Adopts`). A provider that is never the target of anything is never asked for anything
(`untouched_of_turns`). The main statement is `registration_once`. -/

namespace DeferredMetrics

open Relation (ReflTransGen)

/-! ## The language of decisions -/

/-- The events `ds` may be seen of decisions while the provider in effect goes from the first to the
second. If nothing `discovers`, callers alone decide. -/
inductive Decides (discovers : Bool) :
    Option ProviderRef → List Event → Option ProviderRef → Prop where
  | nothing (x : Option ProviderRef) : Decides discovers x [] x
  /-- Discovery has found a provider. -/
  | found (hdiscovers : discovers = true) (w : ProviderRef) :
      Decides discovers none [.log (.installed true)] (some w)
  /-- A caller has offered a provider, and it was taken. -/
  | taken (w : ProviderRef) :
      Decides discovers none [.log (.installed false), .offered true] (some w)
  /-- A caller has offered a provider too late. -/
  | refused (w : ProviderRef) :
      Decides discovers (some w) [.log .refused, .offered false] (some w)
  | append {x y z : Option ProviderRef} {ds ds' : List Event} (h : Decides discovers x ds y)
      (h' : Decides discovers y ds' z) : Decides discovers x (ds ++ ds') z

/-- What is seen when a provider takes effect. -/
def opening (discovered : Bool) : List Event :=
  .log (.installed discovered) :: if discovered then [] else [.offered true]

/-- What is seen when `k` callers have offered providers too late. -/
def refusals (k : Nat) : List Event :=
  (List.replicate k [Event.log .refused, .offered false]).flatten

theorem refusals_add (k l : Nat) : refusals (k + l) = refusals k ++ refusals l := by
  rw [refusals, List.replicate_add, List.flatten_append]
  rfl

namespace Decides

variable {discovers : Bool} {x y : Option ProviderRef} {ds : List Event}

theorem of_some {w : ProviderRef} (h : Decides discovers x ds y) (hx : x = some w) :
    y = some w ∧ ∃ k, ds = refusals k := by
  induction h with
  | nothing x => exact ⟨hx, 0, rfl⟩
  | found _ w => cases hx
  | taken w => cases hx
  | refused w' => exact ⟨hx, 1, rfl⟩
  | append _ _ ih ih' =>
      obtain ⟨hy, k, hk⟩ := ih hx
      obtain ⟨hz, l, hl⟩ := ih' hy
      exact ⟨hz, k + l, by rw [hk, hl, refusals_add]⟩

/-- From the start, either nothing is decided, or one provider takes effect and all others are
refused. -/
theorem of_none (h : Decides discovers x ds y) (hx : x = none) :
    (y = none ∧ ds = []) ∨ ∃ w discovered k, (discovered = true → discovers = true) ∧
      y = some w ∧ ds = opening discovered ++ refusals k := by
  induction h with
  | nothing x => exact .inl ⟨hx, rfl⟩
  | found hdiscovers w => exact .inr ⟨w, true, 0, fun _ => hdiscovers, rfl, rfl⟩
  | taken w => exact .inr ⟨w, false, 0, by simp, rfl, rfl⟩
  | refused w => cases hx
  | append _ h' ih ih' =>
      rcases ih hx with ⟨hy, rfl⟩ | ⟨w, discovered, k, hdiscovered, hy, rfl⟩
      · exact ih' hy
      · obtain ⟨hz, l, rfl⟩ := h'.of_some hy
        exact .inr ⟨w, discovered, k + l, hdiscovered, hz, by rw [refusals_add, List.append_assoc]⟩

/-- What callers may decide where nothing discovers, they may decide anywhere. -/
theorem of_callers (h : Decides false x ds y) : Decides discovers x ds y := by
  induction h with
  | nothing x => exact .nothing x
  | found hdiscovers _ => cases hdiscovers
  | taken w => exact .taken w
  | refused w => exact .refused w
  | append _ _ ih ih' => exact ih.append ih'

end Decides

/-! ## What is seen of an installation -/

namespace Store

variable {s t : Store} {r : RegistrationRef} {p : ProviderRef}

theorem decisions_see (s : Store) (e : Event) :
    (s.see e).decisions = s.decisions ++ if e.isDecision then [e] else [] := by
  cases he : e.isDecision <;> simp [decisions, see, he]

theorem decisions_log (s : Store) (m : Message) :
    (s.log m).decisions = s.decisions ++ if (Event.log m).isDecision then [.log m] else [] :=
  decisions_see s (.log m)

theorem decisions_finish (s : Store) (r : RegistrationRef) (discovered : Bool) :
    (s.finish r discovered).decisions = s.decisions ++ [.log (.installed discovered)] :=
  decisions_log s (.installed discovered)

end Store

namespace Op

variable {s : Store} {r : RegistrationRef} {p : ProviderRef}

/-- What is seen of an installation that takes effect, and what is written down. -/
theorem decided_finish (hr : s.registrations.Has r) {e : ProviderRef} {s' : Store}
    (hshown : Shown ((s.writeProvider r p).bindProvider (s.registration r).deferred p e) s')
    (discovered : Bool) :
    (s'.finish r discovered).decisions = s.decisions ++ [.log (.installed discovered)] ∧
      ((s'.finish r discovered).registration r).provider = some p := by
  have haside := Aside.bindProvider (s.writeProvider r p) (s.registration r).deferred p e
  have hregistrations := hshown.registrations.trans (Store.registrations_bindProvider s r p e)
  constructor
  · rw [Store.decisions_finish, hshown.decisions, haside.decisions]
    rfl
  · rw [Store.registration_finish r hr hregistrations discovered, if_pos rfl]

/-- What is seen of an installation that leaves no circle. -/
theorem install_decides (h : Sound s) (hr : s.registrations.Has r) (discovered : Bool)
    (hagrees : s.AgreesOn r)
    (hend : (((install r p discovered).left s).providerEnd? (s.registration r).deferred).isSome) :
    (∃ w, (s.registration r).provider = some w ∧
      install r p discovered s = .ok false (if discovered then s else s.log .refused)) ∨
    ((s.registration r).provider = none ∧ ∃ s', install r p discovered s = .ok true s' ∧
      s'.decisions = s.decisions ++ [.log (.installed discovered)] ∧
      (s'.registration r).provider = some p) := by
  rcases install_of_end h hr discovered hagrees hend
      with ⟨hgate, hrun⟩ | ⟨e, s', hwait, _, _, hs', hrun⟩
  · rw [hagrees.gate] at hgate
    obtain ⟨w, hw⟩ := Option.isSome_iff_exists.1 hgate
    exact .inl ⟨w, hw, hrun⟩
  · exact .inr ⟨hagrees.target.symm.trans hwait.target?, _, hrun, decided_finish hr hs' discovered⟩

end Op

/-! ## Turns -/

/-- The store is sound and agrees, and no registration but `r` has a name. -/
structure Store.Alone (s : Store) (r : RegistrationRef) : Prop where
  sound : Sound s
  agreed : s.Agreed
  known : s.registrations.Has r
  only : ∀ name o, s.directory.registrations.get? name = some o → o = r

/-- A change of looking for a provider in effect and of asking it for a meter. -/
inductive Turn (r : RegistrationRef) : Store → Store → Prop where
  | search {s s' : Store} (h : Search s s') : Turn r s s'
  | discovered {s : Store} {name : String} {o : RegistrationRef} {p : ProviderRef}
      (ho : s.directory.registrations.get? name = some o) (hp : s.providers.Has p) :
      Turn r s ((Op.install o p true).left s)
  | asked {s s' : Store} {p e : ProviderRef} (scope : Scope)
      (hp : (s.registration r).provider = some p ∨ p = (s.registration r).deferred)
      (he : s.providerEnd? p = some e) (h : Shown (s.askMeter p e scope) s') : Turn r s s'
  | waits {s : Store} {p : ProviderRef} (scope : Scope)
      (hp : (s.registration r).provider = some p ∨ p = (s.registration r).deferred)
      (hend : s.providerEnd? p = none) : Turn r s (s.note (.meter p scope))
  | names {s : Store} (name : String) (m : MeterRef) :
      Turn r s (s.updateDirectory fun d => { d with meters := d.meters.insert name m })

namespace Store.Alone

variable {s s' : Store} {r : RegistrationRef}

theorem agreesOn (h : s.Alone r)
    (hend : (s.providerEnd? (s.registration r).deferred).isSome = true) : s.AgreesOn r :=
  h.agreed r h.known hend

theorem has_of_inEffect (h : s.Alone r) {p : ProviderRef}
    (hp : (s.registration r).provider = some p ∨ p = (s.registration r).deferred) :
    s.providers.Has p := by
  rcases hp with hp | rfl
  · exact h.sound.owners.slots r p hp
  · exact h.sound.owners.known r h.known

/-- The store is as it was before, as far as names and changes go. -/
theorem of_changes (h : s.Alone r) (hchanges : ReflTransGen Change s s')
    (hroster : s'.directory.registrations = s.directory.registrations) : s'.Alone r := by
  obtain ⟨hsound, hlater⟩ := sound_of_changes h.sound hchanges
  have hagreed := agreed_of_changes h.sound h.agreed hchanges
  refine ⟨hsound, hagreed, (hlater.registrations r h.known).1, ?_⟩
  rw [hroster]
  exact h.only

end Store.Alone

namespace Turn

variable {s s' : Store} {r : RegistrationRef}

/-- A turn is made of changes, and gives no name to a registration. -/
theorem changes (h : s.Alone r) (hturn : Turn r s s') :
    ReflTransGen Change s s' ∧ s'.directory.registrations = s.directory.registrations := by
  cases hturn with
  | search hsearch => exact ⟨hsearch.changes, hsearch.roster h.sound⟩
  | discovered ho hp =>
      obtain rfl := h.only _ _ ho
      exact ⟨.single (.install true ho hp), (Op.aside_install h.sound h.known true).2⟩
  | @asked _ p e scope hp he hshown =>
      have hcalm := (Calm.askMeter scope (h.has_of_inEffect hp) he).trans (.of_shown hshown)
      have haside := (Aside.askMeter s p e scope).trans hshown.aside
      exact ⟨.single (.calm hcalm), haside.roster⟩
  | waits scope hp hend => exact ⟨.single (.calm (.note (.loseMeter scope hend) rfl)), rfl⟩
  | names name m => exact ⟨.single (.calm (.updateDirectory rfl rfl)), rfl⟩

theorem alone (h : s.Alone r) (hturn : Turn r s s') : s'.Alone r ∧ Later s s' := by
  obtain ⟨hchanges, hroster⟩ := hturn.changes h
  exact ⟨h.of_changes hchanges hroster, (sound_of_changes h.sound hchanges).2⟩

end Turn

theorem alone_of_turns {s s' : Store} {r : RegistrationRef} (h : s.Alone r)
    (hturns : ReflTransGen (Turn r) s s') : s'.Alone r ∧ Later s s' := by
  induction hturns with
  | refl => exact ⟨h, .refl s⟩
  | tail _ hturn ih =>
      obtain ⟨halone, hlater⟩ := hturn.alone ih.1
      exact ⟨halone, ih.2.trans hlater⟩

/-! ## What is seen of turns -/

section Seen

variable {s s' : Store} {r : RegistrationRef}

/-- The events that are seen of decisions between the stores belong to the language. -/
def Seen (discovers : Bool) (r : RegistrationRef) (s s' : Store) : Prop :=
  ∃ ds, s'.decisions = s.decisions ++ ds ∧
    Decides discovers (s.registration r).provider ds (s'.registration r).provider

namespace Seen

variable {discovers : Bool}

theorem of_nothing (hdecisions : s'.decisions = s.decisions)
    (hslot : (s'.registration r).provider = (s.registration r).provider) : Seen discovers r s s' :=
  ⟨[], by rw [hdecisions, List.append_nil], hslot ▸ .nothing _⟩

theorem of_callers (h : Seen false r s s') : Seen discovers r s s' := by
  obtain ⟨ds, hds, hdecides⟩ := h
  exact ⟨ds, hds, hdecides.of_callers⟩

theorem trans {s'' : Store} (h : Seen discovers r s s') (h' : Seen discovers r s' s'') :
    Seen discovers r s s'' := by
  obtain ⟨ds, hds, hdecides⟩ := h
  obtain ⟨ds', hds', hdecides'⟩ := h'
  exact ⟨ds ++ ds', by rw [hds', hds, List.append_assoc], hdecides.append hdecides'⟩

end Seen

/-- What is seen of a provider that discovery has found. -/
theorem seen_discovered (h : s.Alone r) {p : ProviderRef}
    (hend : (((Op.install r p true).left s).providerEnd? (s.registration r).deferred).isSome)
    (hagrees : s.AgreesOn r) : Seen true r s ((Op.install r p true).left s) := by
  rcases Op.install_decides h.sound h.known true hagrees hend with
    ⟨w, _, hrun⟩ | ⟨hnone, s', hrun, hdecisions, hslot⟩
  · rw [Op.left_of_ok hrun]
    exact .of_nothing rfl rfl
  · rw [Op.left_of_ok hrun]
    refine ⟨_, hdecisions, ?_⟩
    rw [hnone, hslot]
    exact .found rfl p

/-- What is seen of a provider that a factory has offered. -/
theorem seen_offered (h : s.Alone r) {p : ProviderRef}
    (hend : (((Op.install r p false).left s).providerEnd? (s.registration r).deferred).isSome)
    (hagrees : s.AgreesOn r) : Seen false r s ((Op.offer r p).left s) := by
  have hoffer : ∀ won s', Op.setProvider r p s = .ok won s' →
      (Op.offer r p).left s = s'.see (.offered won) :=
    fun won s' hrun => Op.left_bind_of_ok hrun
  rcases Op.install_decides h.sound h.known false hagrees hend with
    ⟨w, hw, hrun⟩ | ⟨hnone, s', hrun, hdecisions, hslot⟩
  · rw [hoffer _ _ hrun]
    refine ⟨[.log .refused, .offered false], ?_, ?_⟩
    · rw [Store.decisions_see]
      show (s.log .refused).decisions ++ _ = _
      rw [Store.decisions_log, List.append_assoc]
      rfl
    · show Decides false (s.registration r).provider _ (s.registration r).provider
      rw [hw]
      exact .refused w
  · rw [hoffer _ _ hrun]
    refine ⟨[.log (.installed false), .offered true], ?_, ?_⟩
    · rw [Store.decisions_see, hdecisions, List.append_assoc]
      rfl
    · rw [hnone, show ((s'.see (.offered true)).registration r).provider = _ from hslot]
      exact .taken p

/-- What is seen of a search: a factory may have offered a provider. -/
theorem Search.seen (h : s.Alone r) (hsearch : Search s s')
    (hend : (s'.providerEnd? (s.registration r).deferred).isSome = true) : Seen false r s s' := by
  obtain ⟨_, hlater⟩ := (Turn.search hsearch).alone h
  have hagrees := h.agreesOn (Store.ends_of_later hlater hend)
  cases hsearch with
  | silent hsilent => exact .of_nothing hsilent.decisions (hsilent.registration r).provider
  | @offered _ o p ho hp =>
      obtain rfl := h.only _ _ ho
      refine seen_offered h ?_ hagrees
      rcases Op.left_offer o p s with heq | ⟨won, heq⟩ <;> rw [heq] at hend <;> exact hend

/-- What is seen of one turn. -/
theorem Turn.seen (h : s.Alone r) (hturn : Turn r s s')
    (hend : (s'.providerEnd? (s.registration r).deferred).isSome = true) : Seen true r s s' := by
  obtain ⟨_, hlater⟩ := hturn.alone h
  have hagrees := h.agreesOn (Store.ends_of_later hlater hend)
  cases hturn with
  | search hsearch => exact (hsearch.seen h hend).of_callers
  | discovered ho hp =>
      obtain rfl := h.only _ _ ho
      exact seen_discovered h hend hagrees
  | @asked _ p e scope hp he hshown =>
      have haside := (Aside.askMeter s p e scope).trans hshown.aside
      refine .of_nothing haside.decisions ?_
      show (s'.registrations.get r).provider = _
      rw [haside.registrations]
      rfl
  | waits scope hp hend => exact .of_nothing rfl rfl
  | names name m => exact .of_nothing rfl rfl

/-- What is seen of a path of changes that are turns. -/
theorem seen_of_path {R : Store → Store → Prop} {discovers : Bool}
    (hturn : ∀ s s', R s s' → Turn r s s')
    (hseen : ∀ {s s'}, s.Alone r → R s s' →
      (s'.providerEnd? (s.registration r).deferred).isSome = true → Seen discovers r s s')
    (h : s.Alone r) (hpath : ReflTransGen R s s')
    (hend : (s'.providerEnd? (s.registration r).deferred).isSome = true) :
    Seen discovers r s s' := by
  induction hpath with
  | refl => exact .of_nothing rfl rfl
  | tail hpath hlast ih =>
      obtain ⟨halone, hlater⟩ := alone_of_turns h (ReflTransGen.mono hturn _ _ hpath)
      obtain ⟨_, hlater'⟩ := (hturn _ _ hlast).alone halone
      refine (ih (Store.ends_of_later hlater' hend)).trans (hseen halone hlast ?_)
      rw [(hlater.registration h.known).deferred]
      exact hend

end Seen

/-! ## What is found -/

/-- What comes of looking for a provider in `s` where the registration `r` has none, from what the
configuration and its factories come to. -/
inductive Adopts (depth : Nat) (r : RegistrationRef) (s : Store) :
    EStateM.Result Halt Store (Except DiscoveryError ProviderRef) → Prop where
  /-- Nothing is configured: the answer is the deferred provider, and nothing is decided. -/
  | own {s' : Store} (hresolve : Op.resolve depth r s = .ok (.ok none) s')
      (hslot : (s'.registration r).provider = none) (hseen : s'.decisions = s.decisions) :
      Adopts depth r s (.ok (.ok (s.registration r).deferred) s')
  /-- A factory has made `p`, and nothing was decided meanwhile: `p` takes effect, it is told once
  that discovery has found it, and `p` is the answer. -/
  | installed {p : ProviderRef} {s₁ s' : Store}
      (hresolve : Op.resolve depth r s = .ok (.ok (some p)) s₁)
      (hbefore : (s₁.registration r).provider = none) (hquiet : s₁.decisions = s.decisions)
      (hslot : (s'.registration r).provider = some p)
      (hseen : s'.decisions = s.decisions ++ [.log (.installed true)]) :
      Adopts depth r s (.ok (.ok p) s')
  /-- A factory has made `p`, but `w` was taken meanwhile, from a factory that has offered it: `w` is
  the answer, and `p` is dropped in silence. -/
  | overtaken {p w : ProviderRef} {s' : Store}
      (hresolve : Op.resolve depth r s = .ok (.ok (some p)) s')
      (hslot : (s'.registration r).provider = some w)
      (hseen : ∃ k, s'.decisions = s.decisions ++ (opening false ++ refusals k)) :
      Adopts depth r s (.ok (.ok w) s')
  /-- There is no factory of the name, or the factory fails. -/
  | failed {e : DiscoveryError} {s' : Store} (hresolve : Op.resolve depth r s = .ok (.error e) s') :
      Adopts depth r s (.ok (.error e) s')
  /-- The factory panics, or waits for ever. -/
  | halted {halt : Halt} {s' : Store} (hresolve : Op.resolve depth r s = .error halt s') :
      Adopts depth r s (.error halt s')

namespace Op

variable {s s' : Store} {r : RegistrationRef}

/-- A configuration that names nothing is read, and that is all. -/
theorem silent_of_resolve_none {depth : Nat} (hrun : resolve depth r s = .ok (.ok none) s') :
    Silent s s' := by
  have hblank := (resolve_eq_none_iff depth).1 ⟨s', hrun⟩
  cases hrun.symm.trans (resolve_of_blank depth hblank)
  exact s.silent_afterLookUp r

end Op

section Found

variable {s s' : Store} {r : RegistrationRef}

/-- As long as there is no provider, nothing has been decided. -/
theorem Seen.quiet {discovers : Bool} (h : Seen discovers r s s')
    (hslot : (s.registration r).provider = none) (hslot' : (s'.registration r).provider = none) :
    s'.decisions = s.decisions := by
  obtain ⟨ds, hds, hdecides⟩ := h
  rcases hdecides.of_none hslot with ⟨_, rfl⟩ | ⟨w, _, _, _, hw, _⟩
  · rw [hds, List.append_nil]
  · rw [hslot'] at hw
    cases hw

/-- Where nothing discovers, a provider is there because a caller has offered it. -/
theorem Seen.offered (h : Seen false r s s') (hslot : (s.registration r).provider = none)
    {w : ProviderRef} (hslot' : (s'.registration r).provider = some w) :
    ∃ k, s'.decisions = s.decisions ++ (opening false ++ refusals k) := by
  obtain ⟨ds, hds, hdecides⟩ := h
  rcases hdecides.of_none hslot with ⟨hnone, _⟩ | ⟨_, discovered, k, hdiscovered, _, rfl⟩
  · rw [hslot'] at hnone
    cases hnone
  · cases discovered with
    | false => exact ⟨k, hds⟩
    | true => cases hdiscovered rfl

/-- What comes of a provider that a factory has made, when the configuration is resolved. -/
theorem adopts_adopt {depth : Nat} (h : s.Alone r) (hslot : (s.registration r).provider = none)
    {p : ProviderRef} (hresolve : Op.resolve depth r s = .ok (.ok (some p)) s')
    (hend : (((Op.install r p true).left s').providerEnd? (s.registration r).deferred).isSome =
      true) : Adopts depth r s (Op.adopt r (.ok p) s') := by
  have hfound := Op.goes_resolve depth h.sound r
  unfold Op.Goes at hfound
  rw [hresolve] at hfound
  have hturn : ∀ s s', Search s s' → Turn r s s' := fun _ _ => .search
  obtain ⟨h', hlater⟩ := alone_of_turns h (ReflTransGen.mono hturn _ _ hfound.1)
  obtain ⟨_, hlater'⟩ := Op.sound_install h'.sound h'.known (hfound.2 (some p) p rfl rfl) true
  -- before the installation only callers have decided anything
  have hseen : Seen false r s s' :=
    seen_of_path hturn Search.seen h hfound.1 (Store.ends_of_later hlater' hend)
  rw [← (hlater.registration h.known).deferred] at hend
  have hagrees := h'.agreesOn (Store.ends_of_later hlater' hend)
  rcases Op.install_decides h'.sound h'.known true hagrees hend with
    ⟨w, hw, hrun⟩ | ⟨hnone, t, hrun, htold, hgot⟩
  · rw [Op.adopt_of_ok hrun hw]
    exact .overtaken hresolve hw (hseen.offered hslot hw)
  · have hquiet := hseen.quiet hslot hnone
    rw [Op.adopt_of_ok hrun hgot]
    exact .installed hresolve hnone hquiet hgot (by rw [htold, hquiet])

/-- Looking for a provider where there is none comes to one of these, unless it leaves a circle. -/
theorem adopts_getProvider (depth : Nat) (h : s.Alone r)
    (hslot : (s.registration r).provider = none)
    (hend : (((Op.getProvider depth r).left s).providerEnd? (s.registration r).deferred).isSome =
      true) : Adopts depth r s (Op.getProvider depth r s) := by
  rw [Op.left_of_eq (Op.getProvider_of_none depth hslot)] at hend
  rw [Op.getProvider_of_none depth hslot]
  cases hresolve : Op.resolve depth r s with
  | error halt s₁ =>
      rw [Op.bind_of_error hresolve]
      exact .halted hresolve
  | ok found s₁ =>
      rw [Op.left_bind_of_ok hresolve] at hend
      rw [Op.bind_of_ok hresolve]
      rcases found with e | _ | p
      · exact .failed hresolve
      · have hsilent := Op.silent_of_resolve_none hresolve
        have hrests := hsilent.registration r
        have hown := Adopts.own hresolve (hrests.provider.trans hslot) hsilent.decisions
        rw [← hrests.deferred] at hown
        exact hown
      · refine adopts_adopt h hslot hresolve ?_
        rw [← Op.left_adopt]
        exact hend

end Found

/-! ## What is never asked -/

namespace Call

/-- The call is none on the provider `q` or a meter that `q` has issued, does not tell it to
anyone, and carries no sample. -/
def Misses (s : Store) (q : ProviderRef) : Call → Prop
  | .bindProvider d p => d ≠ q ∧ p ≠ q
  | .meter p _ => p ≠ q
  | .instrument m _ => s.meters.Has m ∧ (s.meter m).issuer ≠ some q
  | .sample .. => False
  | .observe .. => False
  | .poll .. => False
  | _ => True

theorem Misses.later {s s' : Store} {q : ProviderRef} {c : Call} (h : c.Misses s q)
    (hlater : Later s s') : c.Misses s' q := by
  cases c with
  | instrument m request =>
      obtain ⟨hknown, hissuer⟩ := h
      exact ⟨(hlater.meters m hknown).1, by rwa [(hlater.meter hknown).issuer]⟩
  | _ => exact h

end Call

/-- The provider `q` is what it was, and no call was on it. -/
structure Untouched (q : ProviderRef) (s s' : Store) : Prop where
  provider : s'.provider q = s.provider q
  calls : ∃ new, s'.calls.toList = s.calls.toList ++ new ∧ ∀ c ∈ new, c.Misses s' q

/-- The provider `q` is not the deferred provider of the registration, and the target of none: it
was not taken. -/
structure Store.Loses (s : Store) (r : RegistrationRef) (q : ProviderRef) : Prop where
  own : q ≠ (s.registration r).deferred
  target : ∀ d, (s.provider d).target? ≠ some q

section Untouched

variable {s s' : Store} {r : RegistrationRef} {q : ProviderRef}

theorem Store.Loses.before (h : s'.Loses r q) (hr : s.registrations.Has r) (hlater : Later s s') :
    s.Loses r q := by
  refine ⟨(hlater.registration hr).deferred ▸ h.own, fun d hd => h.target d ?_⟩
  exact (hlater.provider (Store.has_of_providerTarget hd)).target q hd

/-- No chain from elsewhere ends at a provider that is the target of none. -/
theorem Store.Loses.end_ne (h : s.Loses r q) {p e : ProviderRef} (he : s.providerEnd? p = some e)
    (hp : p ≠ q) : e ≠ q := by
  have hlead := (Store.providerEnd?_eq_some.1 he).1
  rintro rfl
  cases hlead with
  | refl => exact hp rfl
  | @tail d _ _ hd => exact h.target d hd

namespace Untouched

theorem of_eq (hprovider : s'.provider q = s.provider q) (hcalls : s'.calls = s.calls) :
    Untouched q s s' := ⟨hprovider, [], by rw [hcalls, List.append_nil], nofun⟩

theorem trans {s'' : Store} (h : Untouched q s s') (h' : Untouched q s' s'')
    (hlater : Later s' s'') :
    Untouched q s s'' := by
  obtain ⟨hprovider, new, hcalls, hnew⟩ := h
  obtain ⟨hprovider', new', hcalls', hnew'⟩ := h'
  refine ⟨hprovider'.trans hprovider, new ++ new', ?_, fun c hc => ?_⟩
  · rw [hcalls', hcalls, List.append_assoc]
  · exact (List.mem_append.1 hc).elim (fun hc => (hnew c hc).later hlater) (hnew' c)

end Untouched

/-- A provider that takes effect is asked, and no other that is none of its targets. -/
theorem Rebinding.untouched {p e : ProviderRef} {xs : List MeterTrial}
    (h : Rebinding s r p e xs s') (hown : q ≠ (s.registration r).deferred) (hp : p ≠ q)
    (he : e ≠ q) : Untouched q s s' := by
  refine ⟨h.otherProvider q hown (Ne.symm he), _, h.calls, fun c hc => ?_⟩
  rcases List.mem_cons.1 hc with rfl | hc
  · exact ⟨Ne.symm hown, hp⟩
  · obtain ⟨x, hx, hc⟩ := List.mem_flatMap.1 hc
    rcases MeterTrial.cases_of_mem_calls hc with
      rfl | ⟨t, hanswer, rfl | rfl | ⟨y, _, rfl | rfl | ⟨j, rfl⟩⟩⟩
    · exact hp
    · trivial
    · trivial
    · trivial
    · have hissuer := (h.issuedMeter x hx t hanswer).2.2
      refine ⟨Table.has_of_ne_default fun hdefault => ?_, ?_⟩
      · rw [Store.meter, hdefault] at hissuer
        cases hissuer
      · rw [hissuer]
        exact fun heq => he (Option.some.inj heq)
    · trivial

/-- An installation does not touch a provider that is not taken. -/
theorem untouched_install (h : s.Alone r) {p : ProviderRef} (hp : s.providers.Has p)
    (discovered : Bool) (hagrees : s.AgreesOn r)
    (hend : (((Op.install r p discovered).left s).providerEnd? (s.registration r).deferred).isSome)
    (hq : ((Op.install r p discovered).left s).Loses r q) :
    Untouched q s ((Op.install r p discovered).left s) := by
  obtain ⟨_, hlater⟩ := Op.sound_install h.sound h.known hp discovered
  have hbefore := hq.before h.known hlater
  rcases Op.install_of_end h.sound h.known discovered hagrees hend with
    ⟨_, hrun⟩ | ⟨e, s', hwait, he, hne, hs', hrun⟩
  · rw [Op.left_of_ok hrun]
    split <;> exact .of_eq rfl rfl
  · obtain ⟨xs, hrebinding⟩ :=
      Rebinding.of_bindProvider h.sound h.known hp hwait he hne hs' discovered
    rw [Op.left_of_ok hrun] at hq ⊢
    have hpq : p ≠ q := by
      rintro rfl
      exact hq.target _ hrebinding.target
    exact hrebinding.untouched hbefore.own hpq (hbefore.end_ne he hpq)

/-- A request for a meter of another provider, whose chain ends elsewhere. -/
theorem untouched_askMeter {p e : ProviderRef} {scope : Scope} (hpq : p ≠ q) (heq : e ≠ q)
    (hshown : Shown (s.askMeter p e scope) s') : Untouched q s s' := by
  have hcalls := (congrArg Array.toList hshown.calls).trans (Store.calls_askMeter s p e scope)
  refine ⟨?_, _, hcalls, ?_⟩
  · rw [hshown.provider]
    show Table.get (s.askMeter p e scope).providers q = _
    rw [Store.providers_askMeter, Table.get_update_of_ne _ _ heq]
    rfl
  · intro c hc
    rcases List.mem_cons.1 hc with rfl | hc
    · exact hpq
    · cases hanswer : s.meterAnswer e scope with
      | error payload =>
          rw [hanswer] at hc
          cases hc
      | ok t =>
          rw [hanswer] at hc
          rw [List.mem_singleton.1 hc]
          trivial

/-- Turns do not touch a provider that is not taken. -/
theorem Turn.untouched (h : s.Alone r) (hturn : Turn r s s')
    (hend : (s'.providerEnd? (s.registration r).deferred).isSome = true)
    (hknown : s.providers.Has q)
    (hq : s'.Loses r q) : Untouched q s s' := by
  obtain ⟨_, hlater⟩ := hturn.alone h
  have hbefore := hq.before h.known hlater
  have hagrees := h.agreesOn (Store.ends_of_later hlater hend)
  have hinEffect : ∀ {p}, (s.registration r).provider = some p ∨ p = (s.registration r).deferred →
      p ≠ q := by
    rintro p (hp | rfl) rfl
    · exact hbefore.target _ (hagrees.target.trans hp)
    · exact hbefore.own rfl
  cases hturn with
  | search hsearch =>
      cases hsearch with
      | silent hsilent => exact .of_eq (hsilent.provider q hknown) hsilent.calls
      | @offered _ o p ho hp =>
          obtain rfl := h.only _ _ ho
          have hinstall := untouched_install h hp false hagrees (q := q)
          rcases Op.left_offer o p s with heq | ⟨won, heq⟩ <;> rw [heq] at hend hq ⊢
          · exact hinstall hend hq
          · have huntouched := hinstall hend ⟨hq.own, hq.target⟩
            exact ⟨huntouched.provider, huntouched.calls⟩
  | discovered ho hp =>
      obtain rfl := h.only _ _ ho
      exact untouched_install h hp true hagrees hend hq
  | @asked _ p e scope hp he hshown =>
      have hpq := hinEffect hp
      exact untouched_askMeter hpq (hbefore.end_ne he hpq) hshown
  | @waits p scope hp =>
      refine ⟨rfl, [.meter p scope], by simp [Store.note], fun c hc => ?_⟩
      rw [List.mem_singleton.1 hc]
      exact hinEffect hp
  | names name m => exact .of_eq rfl rfl

theorem untouched_of_turns (h : s.Alone r) (hturns : ReflTransGen (Turn r) s s')
    (hend : (s'.providerEnd? (s.registration r).deferred).isSome = true)
    (hknown : s.providers.Has q)
    (hq : s'.Loses r q) : Untouched q s s' := by
  induction hturns with
  | refl => exact .of_eq rfl rfl
  | tail hturns hturn ih =>
      obtain ⟨halone, hlater⟩ := alone_of_turns h hturns
      obtain ⟨_, hlater'⟩ := hturn.alone halone
      have hfirst := ih (Store.ends_of_later hlater' hend) (hq.before halone.known hlater')
      refine hfirst.trans (hturn.untouched halone ?_ (hlater.providers q hknown).1 hq) hlater'
      rw [(hlater.registration h.known).deferred]
      exact hend

end Untouched

/-! ## The steps of a run -/

namespace Step

/-- The step belongs to a run on a registration: it makes a provider or offers one, asks for the
one in effect or for a meter of it, registers a factory, or changes the configuration. -/
def registers : Step → Bool
  | .provider .. => true
  | .register .. => true
  | .configure .. => true
  | .getProvider .. => true
  | .setProvider .. => true
  | .registered .. => true
  | .getMeter .. => true
  | _ => false

/-- What a step shows of decisions, with the answer if it offers a provider itself. -/
def seen (x : Step) (entry : Reply × List Event) : List Event :=
  entry.2.filter Event.isDecision ++
    match x, entry.1 with
    | .setProvider .., .flag won => [.offered won]
    | _, _ => []

end Step

namespace Scenario

/-- What the steps of a run show of decisions, in order. -/
def seen (depth : Nat) (processWide : Option RegistrationRef) (s : Store) (steps : List Step) :
    List Event :=
  (steps.zip (runFrom depth processWide s steps)).flatMap fun e => e.1.seen e.2

theorem seen_cons (depth : Nat) (processWide : Option RegistrationRef) (s : Store) (x : Step)
    (xs : List Step) : seen depth processWide s (x :: xs) =
      x.seen (step depth processWide s x).1 ++
        seen depth processWide (step depth processWide s x).2 xs := by
  rw [seen, runFrom, List.zip_cons_cons, List.flatMap_cons]
  rfl

end Scenario

section Steps

variable {s s' : Store} {r : RegistrationRef}

/-- What the steps of a run do, of which `ds` is seen. -/
structure Advance (r : RegistrationRef) (s s' : Store) (ds : List Event) : Prop where
  alone : s'.Alone r
  later : Later s s'
  decides : (s'.providerEnd? (s.registration r).deferred).isSome = true →
    Decides true (s.registration r).provider ds (s'.registration r).provider
  untouched : (s'.providerEnd? (s.registration r).deferred).isSome = true →
    ∀ q, s.providers.Has q → s'.Loses r q → Untouched q s s'

namespace Advance

theorem refl (h : s.Alone r) : Advance r s s [] :=
  ⟨h, .refl s, fun _ => .nothing _, fun _ _ _ _ => .of_eq rfl rfl⟩

theorem trans {s'' : Store} {ds ds' : List Event} (h : Advance r s s' ds)
    (hr : s.registrations.Has r)
    (h' : Advance r s' s'' ds') : Advance r s s'' (ds ++ ds') := by
  have hdeferred := (h.later.registration hr).deferred
  refine ⟨h'.alone, h.later.trans h'.later, fun hend => ?_, fun hend q hq hloses => ?_⟩
  · have hend' := Store.ends_of_later h'.later hend
    rw [← hdeferred] at hend
    exact (h.decides hend').append (h'.decides hend)
  · have hend' := Store.ends_of_later h'.later hend
    rw [← hdeferred] at hend
    have hfirst := h.untouched hend' q hq (hloses.before h.alone.known h'.later)
    exact hfirst.trans (h'.untouched hend q (h.later.providers q hq).1 hloses) h'.later

/-- Nothing happens. -/
theorem of_same (h : s.Alone r) (hs : s' = { s with trace := #[] }) : Advance r s s' [] := by
  subst hs
  have hcalm : Calm s { s with trace := #[] } := .of_tables rfl rfl rfl rfl rfl rfl rfl
  exact ⟨h.of_changes (.single (.calm hcalm)) rfl, hcalm.later, fun _ => .nothing _,
    fun _ _ _ _ => .of_eq rfl rfl⟩

theorem of_turns (h : s.Alone r) (hturns : ReflTransGen (Turn r) { s with trace := #[] } s') :
    Advance r s s' s'.decisions := by
  have hclear := (of_same h rfl).alone
  obtain ⟨halone, hlater⟩ := alone_of_turns hclear hturns
  refine ⟨halone, ((of_same h rfl).later).trans hlater, fun hend => ?_, fun hend q hq hloses => ?_⟩
  · obtain ⟨ds, hds, hdecides⟩ := seen_of_path (fun _ _ => id) Turn.seen hclear hturns hend
    rw [hds]
    exact hdecides
  · have huntouched := untouched_of_turns hclear hturns hend hq hloses
    exact ⟨huntouched.provider, huntouched.calls⟩

end Advance

namespace Op

/-- Asking a provider in effect for a meter is a turn. -/
theorem goes_requestInEffect (scope : Scope) {p : ProviderRef}
    (hp : (s.registration r).provider = some p ∨ p = (s.registration r).deferred) :
    Goes (Turn r) (requestMeter p scope) s Anything := by
  cases he : s.providerEnd? p with
  | none => exact goes_of_error (requestMeter_of_none scope he) (.single (.waits scope hp he))
  | some e =>
      obtain ⟨s', hs', hrun⟩ := requestMeter_run scope he
      have hturn : Turn r s s' := .asked scope hp he hs'.shown
      cases hanswer : s.meterAnswer e scope with
      | ok m => exact goes_of_ok (hrun.trans (by rw [hanswer]; rfl)) (.single hturn) trivial
      | error payload => exact goes_of_error (hrun.trans (by rw [hanswer]; rfl)) (.single hturn)

theorem Goes.turns {α : Type} {op : Op α} {Q : α → Store → Prop} (h : Goes Search op s Q) :
    Goes (Turn r) op s Q :=
  h.mapPaths fun _ _ hpath => ReflTransGen.mono (fun _ _ => Turn.search) _ _ hpath

theorem turns_getProvider (depth : Nat) (h : s.Alone r) {name : String} {o : RegistrationRef}
    (ho : s.directory.registrations.get? name = some o) :
    Goes (Turn r) (getProvider depth o) s (InEffect o) :=
  goes_getProvider depth h.sound ho (ReflTransGen.mono fun _ _ => Turn.search)
    fun _ _ => .discovered

/-- The steps of a run on a registration are made of turns, unless they offer a provider
themselves. -/
theorem goes_registers (depth : Nat) (processWide : Option RegistrationRef) (h : s.Alone r)
    {x : Step}
    (hx : x.registers = true) (hset : ∀ o p, x ≠ .setProvider o p) :
    Goes (Turn r) (perform depth processWide x) s Anything := by
  cases x with
  | provider id spec =>
      exact (goes_build h.sound id spec).searches.turns.bind fun _ _ _ _ => goes_pure trivial
  | register registry name factory =>
      refine (goes_registryNamed registry).bind fun g s' _ _ => ?_
      exact (goes_register g name _).searches.turns.bind fun _ _ _ _ => goes_pure trivial
  | configure registration key value =>
      refine goes_named_bind fun o _ => ?_
      exact (goes_configure o key value).searches.turns.bind fun _ _ _ _ => goes_pure trivial
  | getProvider registration =>
      refine goes_named_bind fun o ho => ?_
      refine (turns_getProvider depth h ho).bind fun answer s' hpath hanswer => ?_
      obtain rfl := h.only _ _ ho
      obtain ⟨halone, _⟩ := alone_of_turns h hpath
      exact (goes_showEffect halone.sound halone.known hanswer).turns
  | setProvider registration provider => exact absurd rfl (hset registration provider)
  | registered registration =>
      refine goes_named_bind fun o _ => ?_
      refine (goes_registered h.sound).searches.turns.bind fun p s' _ hp => ?_
      exact (goes_identify hp).searches.turns.bind fun _ _ _ _ => goes_pure trivial
  | getMeter registration id scope =>
      refine goes_named_bind fun o ho => ?_
      obtain rfl := h.only _ _ ho
      have hmeter : Goes (Turn o) (getMeter depth o scope) s Anything := by
        refine (turns_getProvider depth h ho).bind fun answer s' _ hanswer => ?_
        cases answer with
        | error e => exact goes_pure trivial
        | ok p =>
            refine (goes_requestInEffect scope (hanswer p rfl)).bind fun _ _ _ _ => ?_
            exact goes_pure trivial
      refine hmeter.bind fun answer s' _ _ => ?_
      cases answer with
      | error e => exact goes_pure trivial
      | ok m => exact goes_modify_bind (.names id m) (goes_get_bind (goes_pure trivial))
  | _ => cases hx

end Op

section SetProvider

variable {depth : Nat} {processWide : Option RegistrationRef} {registration provider : String}

/-- Offering a provider in a step answers whether it was taken. -/
theorem Op.perform_setProvider {o : RegistrationRef} {q : NamedProvider}
    (ho : s.directory.registrations.get? registration = some o)
    (hq : s.directory.providers.get? provider = some q) (hwide : processWide ≠ some o) :
    perform depth processWide (.setProvider registration provider) s =
      (install o q.ref false >>= fun won => pure (.flag won)) s := by
  rw [perform, bind_of_ok (named_of_some ho), bind_of_ok (providerNamed_of_some hq)]
  simp only [if_neg hwide]
  rfl

/-- The step answers what the installation answers, and leaves what that leaves. -/
theorem step_setProvider_of_ok {o : RegistrationRef} {q : NamedProvider} {won : Bool}
    (ho : s.directory.registrations.get? registration = some o)
    (hq : s.directory.providers.get? provider = some q) (hwide : processWide ≠ some o)
    (hrun : Op.install o q.ref false { s with trace := #[] } = .ok won s') :
    Scenario.step depth processWide s (.setProvider registration provider) =
      ((.flag won, s'.trace.toList), s') := by
  refine Scenario.step_of_ok ?_
  rw [Op.perform_setProvider (s := { s with trace := #[] }) ho hq hwide, Op.bind_of_ok hrun]
  rfl

theorem step_setProvider_left {o : RegistrationRef} {q : NamedProvider}
    (ho : s.directory.registrations.get? registration = some o)
    (hq : s.directory.providers.get? provider = some q) (hwide : processWide ≠ some o) :
    (Scenario.step depth processWide s (.setProvider registration provider)).2 =
      (Op.install o q.ref false).left { s with trace := #[] } := by
  rw [Scenario.step_left, Op.left,
    Op.perform_setProvider (s := { s with trace := #[] }) ho hq hwide]
  exact Op.left_bind_pure _ _ _

/-- A step that offers a provider and halts before the offer changes nothing but the trace. -/
theorem advance_of_halt (h : s.Alone r) (halt : Halt)
    (hrun : Op.perform depth processWide (.setProvider registration provider)
      { s with trace := #[] } = .error halt { s with trace := #[] }) :
    Advance r s (Scenario.step depth processWide s (.setProvider registration provider)).2
      ((Step.setProvider registration provider).seen
        (Scenario.step depth processWide s (.setProvider registration provider)).1) := by
  unfold Scenario.step
  rw [hrun]
  exact .of_same h rfl

/-- A step that offers a provider to the registration. -/
theorem advance_of_offer (h : s.Alone r) (hwide : processWide ≠ some r) {q : NamedProvider}
    (hr : s.directory.registrations.get? registration = some r)
    (hq : s.directory.providers.get? provider = some q) :
    Advance r s (Scenario.step depth processWide s (.setProvider registration provider)).2
      ((Step.setProvider registration provider).seen
        (Scenario.step depth processWide s (.setProvider registration provider)).1) := by
  let s₁ : Store := { s with trace := #[] }
  have hclear : s₁.Alone r := (Advance.of_same h rfl).alone
  have hp : s₁.providers.Has q.ref := h.sound.names.providers provider q hq
  have hchanges : ReflTransGen Change s₁ ((Op.install r q.ref false).left s₁) :=
    .single (.install false hr hp)
  have hroster := (Op.aside_install (p := q.ref) hclear.sound hclear.known false).2
  obtain ⟨_, hlater⟩ := sound_of_changes hclear.sound hchanges
  rw [step_setProvider_left hr hq hwide]
  refine ⟨hclear.of_changes hchanges hroster, (Advance.of_same h rfl).later.trans hlater,
    fun hend => ?_, fun hend q' hq' hloses => ?_⟩
  · have hagrees := hclear.agreesOn (Store.ends_of_later hlater hend)
    rcases Op.install_decides hclear.sound hclear.known false hagrees hend with
      ⟨w, hw, hrun⟩ | ⟨hnone, s', hrun, hdecisions, hslot⟩
    · rw [step_setProvider_of_ok hr hq hwide hrun, Op.left_of_ok hrun]
      show Decides true (s.registration r).provider _ (s.registration r).provider
      rw [show (s.registration r).provider = some w from hw]
      exact .refused w
    · rw [step_setProvider_of_ok hr hq hwide hrun, Op.left_of_ok hrun, hslot,
        show (s.registration r).provider = none from hnone]
      show Decides true none (s'.decisions ++ _) _
      rw [hdecisions]
      exact .taken q.ref
  · have hagrees := hclear.agreesOn (Store.ends_of_later hlater hend)
    have huntouched := untouched_install hclear hp false hagrees hend hloses
    exact ⟨huntouched.provider, huntouched.calls⟩

/-- Offering a provider in a step. -/
theorem advance_setProvider (h : s.Alone r) (hwide : processWide ≠ some r) :
    Advance r s (Scenario.step depth processWide s (.setProvider registration provider)).2
      ((Step.setProvider registration provider).seen
        (Scenario.step depth processWide s (.setProvider registration provider)).1) := by
  cases ho : s.directory.registrations.get? registration with
  | none =>
      refine advance_of_halt h (.unnamed registration) ?_
      exact Op.bind_of_error (Op.named_of_none (s := { s with trace := #[] }) ho)
  | some o =>
      obtain rfl := h.only _ _ ho
      cases hq : s.directory.providers.get? provider with
      | none =>
          refine advance_of_halt h (.unnamed provider) ?_
          rw [Op.perform, Op.bind_of_ok (Op.named_of_some (s := { s with trace := #[] }) ho)]
          exact Op.bind_of_error (Op.providerNamed_of_none (s := { s with trace := #[] }) hq)
      | some q => exact advance_of_offer h hwide ho hq

end SetProvider

/-- Every step of a run on a registration advances it. -/
theorem advance_step (depth : Nat) {processWide : Option RegistrationRef} (h : s.Alone r)
    (hwide : processWide ≠ some r) {x : Step} (hx : x.registers = true) :
    Advance r s (Scenario.step depth processWide s x).2
      (x.seen (Scenario.step depth processWide s x).1) := by
  by_cases hset : ∃ o p, x = .setProvider o p
  · obtain ⟨o, p, rfl⟩ := hset
    exact advance_setProvider h hwide
  · have hother : ∀ o p, x ≠ .setProvider o p := fun o p heq => hset ⟨o, p, heq⟩
    have hclear := (Advance.of_same h rfl).alone
    have hturns := (Op.goes_registers depth processWide hclear hx hother).path
    have hseen : x.seen (Scenario.step depth processWide s x).1 =
        (Scenario.step depth processWide s x).2.decisions := by
      unfold Step.seen
      rw [Scenario.step_events]
      cases x <;> first | exact List.append_nil _ | exact absurd rfl (hother _ _)
    rw [hseen, Scenario.step_left]
    exact .of_turns h hturns

theorem advance_run (depth : Nat) {processWide : Option RegistrationRef} (h : s.Alone r)
    (hwide : processWide ≠ some r) {steps : List Step} (hsteps : ∀ x ∈ steps, x.registers = true) :
    Advance r s (Scenario.after depth processWide s steps)
      (Scenario.seen depth processWide s steps) := by
  induction steps generalizing s with
  | nil => exact .refl h
  | cons x xs ih =>
      have hhead := advance_step depth h hwide (hsteps x List.mem_cons_self)
      have htail := ih hhead.alone fun y hy => hsteps y (List.mem_cons_of_mem x hy)
      rw [Scenario.seen_cons]
      exact hhead.trans h.known htail

theorem Scenario.after_append (depth : Nat) (processWide : Option RegistrationRef) (s : Store)
    (before later : List Step) : after depth processWide s (before ++ later) =
      after depth processWide (after depth processWide s before) later := List.foldl_append

end Steps

/-! ## A registration decides once -/

/-- What holds of a run of `steps` on the registration `r` from the store `s` on. -/
structure Once (depth : Nat) (processWide : Option RegistrationRef) (s : Store)
    (r : RegistrationRef)
    (steps : List Step) : Prop where
  /-- Either nothing is decided, or one provider takes effect first, which is told once, and all
  callers after that are refused with a warning each; nobody else is warned. -/
  seen : let s' := Scenario.after depth processWide s steps
    ((s'.registration r).provider = none ∧ (s'.gate r).fired = false ∧
        Scenario.seen depth processWide s steps = []) ∨
      ∃ w discovered k, (s'.registration r).provider = some w ∧ (s'.gate r).fired = true ∧
        Scenario.seen depth processWide s steps = opening discovered ++ refusals k
  /-- As long as nothing has taken effect, an offer does, unless it leads back. -/
  accepted : ∀ before later, steps = before ++ later →
    let s' := Scenario.after depth processWide s before
    (s'.gate r).fired = false → ∀ p e, s'.providers.Has p → s'.providerEnd? p = some e →
      e ≠ (s'.registration r).deferred →
        ∃ s'', Op.setProvider r p s' = .ok true s'' ∧ (s''.registration r).provider = some p ∧
          s''.decisions = s'.decisions ++ [.log (.installed false)]
  /-- Once something has, an offer is warned of and changes nothing. -/
  refused : ∀ before later, steps = before ++ later →
    let s' := Scenario.after depth processWide s before
    (s'.gate r).fired = true → ∀ p, Op.setProvider r p s' = .ok false (s'.log .refused)
  /-- Who looks for a provider where there is none gets the one that is there afterwards, whether
  discovery has found it or a factory has offered it meanwhile, and the deferred one if there is none
  still. -/
  found : ∀ before later, steps = before ++ later →
    let s' := Scenario.after depth processWide s before
    (s'.registration r).provider = none → ∀ depth',
      (((Op.getProvider depth' r).left s').providerEnd? (s'.registration r).deferred).isSome = true →
        Adopts depth' r s' (Op.getProvider depth' r s')
  /-- From then on the winner is what is registered and what is found, until the end. -/
  winner : ∀ before later, steps = before ++ later →
    let s' := Scenario.after depth processWide s before
    ∀ w, (s'.registration r).provider = some w →
      ((Scenario.after depth processWide s steps).registration r).provider = some w ∧
      Op.registered r s' = .ok (some w) s' ∧
      ∀ depth', Op.getProvider depth' r s' = .ok (.ok w) s'
  /-- A provider that is not taken is never asked for anything. -/
  losers : ∀ before later, steps = before ++ later →
    let s' := Scenario.after depth processWide s before
    ∀ q, s'.providers.Has q → (Scenario.after depth processWide s steps).Loses r q →
      Untouched q s' (Scenario.after depth processWide s steps)

namespace Op

variable {s : Store} {r : RegistrationRef}

/-- A registration that has decided nothing takes a provider that does not lead back. -/
theorem setProvider_of_ready (h : s.Alone r)
    (hend : (s.providerEnd? (s.registration r).deferred).isSome = true)
    (hgate : (s.gate r).fired = false) {p e : ProviderRef} (he : s.providerEnd? p = some e)
    (hne : e ≠ (s.registration r).deferred) :
    ∃ s', setProvider r p s = .ok true s' ∧ (s'.registration r).provider = some p ∧
      s'.decisions = s.decisions ++ [.log (.installed false)] := by
  have hagrees := h.agreesOn hend
  have htarget : (s.provider (s.registration r).deferred).target? = none := by
    rw [hagrees.target]
    rw [hagrees.gate] at hgate
    simpa using hgate
  have hwait := h.sound.providerWaits (h.sound.owners.known r h.known)
    (h.sound.owners.deferred r h.known) htarget
  obtain ⟨s', hs', hrun⟩ := install_run false hgate hwait he hne
  obtain ⟨hseen, hslot⟩ := decided_finish h.known hs'.shown false
  exact ⟨_, hrun, hslot, hseen⟩

end Op

/-- A run on a registration that has decided nothing decides once: whatever factories do, and
whatever panics, unless the chain of targets becomes circular. -/
theorem registration_once (depth : Nat) {processWide : Option RegistrationRef} {s : Store}
    {r : RegistrationRef} {steps : List Step} (h : Reachable s) (hr : s.registrations.Has r)
    (honly : ∀ name o, s.directory.registrations.get? name = some o → o = r)
    (hslot : (s.registration r).provider = none) (hwide : processWide ≠ some r)
    (hsteps : ∀ x ∈ steps, x.registers = true)
    (hend : ((Scenario.after depth processWide s steps).providerEnd?
      (s.registration r).deferred).isSome = true) : Once depth processWide s r steps := by
  have halone : s.Alone r := ⟨reachable_sound h, reachable_agreed h, hr, honly⟩
  have hrun := advance_run depth halone hwide hsteps
  -- every part of the run advances, and the chain has an end in between
  have hsplit : ∀ before later, steps = before ++ later →
      let s' := Scenario.after depth processWide s before
      s'.Alone r ∧ (s'.providerEnd? (s'.registration r).deferred).isSome = true ∧
        (s'.registration r).deferred = (s.registration r).deferred ∧
        Advance r s' (Scenario.after depth processWide s steps)
          (Scenario.seen depth processWide s' later) := by
    rintro before later rfl
    have hbefore := advance_run depth halone hwide fun x hx => hsteps x (List.mem_append_left _ hx)
    have hlater := advance_run depth hbefore.alone hwide fun x hx =>
      hsteps x (List.mem_append_right _ hx)
    have hdeferred := (hbefore.later.registration hr).deferred
    rw [Scenario.after_append] at hend ⊢
    refine ⟨hbefore.alone, ?_, hdeferred, hlater⟩
    rw [hdeferred]
    exact Store.ends_of_later hlater.later hend
  have hfinal := (hrun.alone.agreesOn
    (by rw [(hrun.later.registration hr).deferred]; exact hend)).gate
  constructor
  · rcases (hrun.decides hend).of_none hslot with
      ⟨hnone, hseen⟩ | ⟨w, discovered, k, _, hw, hseen⟩
    · exact .inl ⟨hnone, by rw [hfinal, hnone]; rfl, hseen⟩
    · exact .inr ⟨w, discovered, k, hw, by rw [hfinal, hw]; rfl, hseen⟩
  · intro before later heq s' hgate p e _ he hne
    obtain ⟨halone', hend', _, _⟩ := hsplit before later heq
    exact Op.setProvider_of_ready halone' hend' hgate he hne
  · exact fun before later _ hgate p => Op.setProvider_of_fired p hgate
  · intro before later heq s' hnone depth' hleft
    obtain ⟨halone', _, _, _⟩ := hsplit before later heq
    exact adopts_getProvider depth' halone' hnone hleft
  · intro before later heq s' w hw
    obtain ⟨_, _, hdeferred, hadvance⟩ := hsplit before later heq
    refine ⟨((hadvance.decides (hdeferred ▸ hend)).of_some hw).1, ?_, fun depth' => ?_⟩
    · rw [Op.registered, Op.bind_of_ok (Op.get_run s'), hw]
      rfl
    · exact Op.getProvider_of_some depth' hw
  · intro before later heq s' q hq hloses
    obtain ⟨_, _, hdeferred, hadvance⟩ := hsplit before later heq
    exact hadvance.untouched (hdeferred ▸ hend) q hq hloses

/-- The configuration names a factory that offers `p` before it makes another provider. -/
def Store.overtaking : Store :=
  Scenario.after 1 none (.initial .empty)
    [.provider "p" .recording, .provider "q" .recording,
      .registry "g" true,
      .register (.own "g") "x" (.mk [.offer "r" "p"] (.makes .recording)),
      .registration "r" none (.settings [(Discovery.defaultKey, "x")]) (some "g")]

theorem only_overtaking (name : String) (o : RegistrationRef)
    (h : Store.overtaking.directory.registrations.get? name = some o) : o = ⟨0⟩ := by
  have hall : ∀ e ∈ Store.overtaking.directory.registrations.entries,
      e.2 = (⟨0⟩ : RegistrationRef) := by decide +kernel
  obtain ⟨e, he, rfl⟩ := Roster.exists_entry h
  exact hall e he

/-- Looking for a provider, the registration takes the one that the factory offers, and the one that
the factory makes is dropped. -/
theorem registration_once_overtaking :
    ((Scenario.after 2 none .overtaking [.getProvider "r"]).registration ⟨0⟩).provider = some ⟨0⟩ ∧
      Once 2 none .overtaking ⟨0⟩ [.getProvider "r", .setProvider "r" "q", .registered "r"] := by
  have hreachable : Reachable .overtaking := .after _ _ (.initial _) (by decide)
  exact ⟨by decide +kernel, registration_once 2 hreachable (by decide +kernel) only_overtaking
    (by decide +kernel) (by decide +kernel) (by decide) (by decide +kernel)⟩

end DeferredMetrics
