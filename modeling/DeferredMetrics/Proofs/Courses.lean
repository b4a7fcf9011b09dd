import DeferredMetrics.Proofs.Doing
import DeferredMetrics.Proofs.Midway
import DeferredMetrics.Proofs.Rebinding

set_option autoImplicit false

/-! # Nodes are bound at most once in every course

A course is a run of any length in which no chain of targets becomes circular: sequential steps,
backends of any kind that come in between them, and installations that other threads work beside,
step by step in any order. The main statement is `Course.nothingWasted`: it is never said that a
node was offered a second target, each node was told a target at most once, and what was made for a
node to become its target is its target. -/

namespace DeferredMetrics

open Installation

instance Installation.Move.decidableKnown (s : Store) : (x : Move) → Decidable (x.Known s)
  | .requestMeterFrom q _ => inferInstanceAs (Decidable (q.place < s.providers.size))
  | .advance => .isTrue trivial
  | .requestMeter _ => .isTrue trivial
  | .requestInstrument _ _ => .isTrue trivial
  | .look => .isTrue trivial
  | .record _ _ _ => .isTrue trivial
  | .observe _ => .isTrue trivial

namespace Message

/-- What is said of a node that is offered a second target. -/
def repeats : List String :=
  ["proxy provider already upgraded, ignoring", "proxy meter already upgraded",
    "proxy instrument already bound, keeping the first target",
    "proxy observable already bound, keeping the first target"]

theorem isRepeat_of_text {m : Message} (h : m.text ∈ repeats) :
    (Event.log m).isRepeat = true := by
  cases m with
  | childFailed child name reason => exact absurd h (by simp [text, repeats])
  | _ => first | rfl | exact absurd h (by simp [text, repeats])

end Message

namespace Store

instance (s : Store) : Decidable s.Acyclic :=
  decidable_of_iff (∀ n < s.registrations.size,
      (s.providerEnd? (s.registration ⟨n⟩).deferred).isSome = true)
    ⟨fun h r hr => h r.place hr, fun h n hn => h ⟨n⟩ hn⟩

/-- Where no target of a provider that is there changes and no registration is new, no chain becomes
circular. -/
theorem Acyclic.calm {s s' : Store} (h : s.Acyclic) (hs : Sound s) (hcalm : Calm s s') :
    s'.Acyclic := by
  intro r hr
  have hr := (hcalm.has r).1 hr
  obtain ⟨e, he⟩ := Option.isSome_iff_exists.1 (h r hr)
  obtain ⟨hleads, hnone⟩ := providerEnd?_eq_some.1 he
  have hknown := hs.bindings.has_end (hs.owners.known r hr) he
  rw [(hcalm.registration r).deferred]
  exact Option.isSome_iff_exists.2 ⟨e, providerEnd?_eq_some.2
    ⟨handsOn_later hleads hcalm.later, (hcalm.target e hknown).trans hnone⟩⟩

end Store

/-- An installation that is going on. -/
structure Underway where
  registration : RegistrationRef
  provider : ProviderRef
  phase : Phase
deriving DecidableEq

namespace Underway

/-- The meter that is being bound just now, and its target. -/
def opened (w : Underway) (s : Store) : Option (MeterRef × MeterRef) := (w.phase.pending s).opened

/-- A step of some thread, with an empty trace: the machine afterwards. -/
def step (w : Underway) (s : Store) (x : Move) : Machine :=
  (Machine.step w.registration w.provider ⟨w.phase, { s with trace := #[] }⟩ x).2

/-- The installation after a step. -/
def next (w : Underway) (s : Store) (x : Move) : Underway := { w with phase := (w.step s x).phase }

/-- Steps one after the other: the installation then, what was seen of them, and the store. -/
def run : Underway → Store → List Move → Underway × List Event × Store
  | w, s, [] => (w, [], s)
  | w, s, x :: xs =>
      let s' := (w.step s x).store
      let (w', seen, s'') := run (w.next s x) s' xs
      (w', s'.trace.toList ++ seen, s'')

/-- The steps use no provider that is not there, and none makes a chain circular. -/
def Allows : Underway → Store → List Move → Prop
  | _, _, [] => True
  | w, s, x :: xs =>
      x.Known s ∧ (w.step s x).store.Acyclic ∧ Allows (w.next s x) (w.step s x).store xs

instance decidableAllows : (w : Underway) → (s : Store) → (xs : List Move) →
    Decidable (w.Allows s xs)
  | _, _, [] => inferInstanceAs (Decidable True)
  | w, s, x :: xs =>
      have := decidableAllows (w.next s x) (w.step s x).store xs
      inferInstanceAs (Decidable (x.Known s ∧ (w.step s x).store.Acyclic ∧ _))

end Underway

/-- A run in which no chain becomes circular: the installation that is going on, if one is, all that
could be seen so far, and the store. Threads that offer providers to one registration pass its gate
one after the other, and a request that meets a lock waits; so the races of a scenario, which show
nothing but their result, are made of the steps of a course. -/
inductive Course : Option Underway → List Event → Store → Prop where
  | initial (environment : Environment) : Course none [] (.initial environment)
  | step {seen : List Event} {s : Store} (depth : Nat) (processWide : Option RegistrationRef)
      {x : Step} (h : Course none seen s) (hx : x.sequential = true)
      (hends : (Scenario.step depth processWide s x).2.Acyclic) :
      Course none (seen ++ (Scenario.step depth processWide s x).1.2)
        (Scenario.step depth processWide s x).2
  /-- There is a new provider, whatever it panics on. -/
  | backend {seen : List Event} {s : Store} (name : String) {p : Provider} (h : Course none seen s)
      (htarget : p.target? = none) (hissued : p.issued = []) :
      Course none seen ((Op.makeNamed name p).left s)
  /-- A thread begins to install a provider, and others go on beside it. -/
  | begin {seen : List Event} {s : Store} {r : RegistrationRef} {p : ProviderRef}
      (h : Course none seen s) (hr : s.registrations.Has r) (hp : s.providers.Has p) :
      Course (some ⟨r, p, .before⟩) seen s
  | move {seen : List Event} {s : Store} {w : Underway} (x : Move) (h : Course (some w) seen s)
      (hx : x.Known s) (hends : (w.step s x).store.Acyclic) :
      Course (some (w.next s x)) (seen ++ (w.step s x).store.trace.toList) (w.step s x).store
  | finish {seen : List Event} {s : Store} {r : RegistrationRef} {p : ProviderRef}
      {installed : Bool} (h : Course (some ⟨r, p, .ended installed⟩) seen s) : Course none seen s

/-- The store is orderly, or in the phase of the installation that is going on. -/
def Store.InOrder (s : Store) : Option Underway → Prop
  | none => s.Orderly
  | some w => Midway w.registration w.provider w.phase s

/-- No node was offered a second target, and none that was made for a node is lost: it is never said
in what was `seen`, no node was told twice, and what a provider or a meter was told is its target,
but that a meter gets it when its instruments have got theirs. What was made for an instrument is
the target of the instrument. -/
structure NothingWasted (opened : Option (MeterRef × MeterRef)) (seen : List Event) (s : Store) :
    Prop where
  unsaid : ∀ m, Event.log m ∈ seen → m.text ∉ Message.repeats
  once : s.told.Nodup
  provider : ∀ d p, Call.bindProvider d p ∈ s.calls.toList → (s.provider d).target? = some p
  meter : ∀ m t, Call.bindMeter m t ∈ s.calls.toList →
    (s.meter m).target? = some t ∨ opened = some (m, t)
  instrument : ∀ i t request j, Call.handing i t request j <:+: s.calls.toList →
    (s.instrument i).target? = some j

theorem NothingWasted.of_tellsOnce {o : Option (MeterRef × MeterRef)} {seen : List Event}
    {s : Store} (hseen : ∀ e ∈ seen, e.isRepeat = false) (hsound : SoundBut o s)
    (htold : s.TellsOnce) : NothingWasted o seen s where
  unsaid m hm htext := by
    have hsaid := Message.isRepeat_of_text htext
    rw [hseen _ hm] at hsaid
    cases hsaid
  once := htold.nodup
  provider := htold.provider
  meter := hsound.bindings.told
  instrument := htold.handed

namespace Course

variable {w : Option Underway} {seen : List Event} {s : Store}

/-- What is seen of one step more says nothing of second targets. -/
theorem quiet_append {s : Store} (hseen : ∀ e ∈ seen, e.isRepeat = false) (h : s.TellsOnce) :
    ∀ e ∈ seen ++ s.trace.toList, e.isRepeat = false := fun e he =>
  (List.mem_append.1 he).elim (hseen e) fun he => h.quiet e (Array.mem_toList_iff.1 he)

/-- Every step of a course keeps order, or leads on from phase to phase. -/
theorem inOrder (h : Course w seen s) : (∀ e ∈ seen, e.isRepeat = false) ∧ s.InOrder w := by
  induction h with
  | initial environment => exact ⟨nofun, .initial environment⟩
  | step depth processWide _ hx hends ih =>
      obtain ⟨hseen, horder⟩ := ih
      have hnext := Store.Orderly.of_hushed horder
        (hushed_of_step depth processWide horder.sound hx) hends
      rw [Scenario.step_events]
      exact ⟨quiet_append hseen hnext.tellsOnce, hnext⟩
  | @backend seen s name p _ htarget hissued ih =>
      obtain ⟨hseen, horder⟩ := ih
      have hsilent := Op.silent_of_path (Op.goes_makeNamed (s := s) name htarget hissued).path
      exact ⟨hseen, Store.Orderly.of_hushed horder (.single (.calm hsilent.toCalm hsilent.repeated))
        (Store.Acyclic.calm horder.ends horder.sound hsilent.toCalm)⟩
  | begin _ hr hp ih => exact ⟨ih.1, .of_orderly ih.2 hr hp⟩
  | @move seen s w x _ hx hends ih =>
      obtain ⟨hseen, hmidway⟩ := ih
      -- each step begins with an empty trace, and forgetting is harmless
      have hcleared := Midway.of_harmless hmidway (.clear s) hmidway.ends
      have hnext := hcleared.step (m := ⟨w.phase, { s with trace := #[] }⟩) hx hends
      exact ⟨quiet_append hseen hnext.tellsOnce, hnext⟩
  | finish _ ih => exact ⟨ih.1, Midway.orderly ih.2⟩

/-- The steps of a scenario after a course. -/
theorem after (h : Course none seen s) (depth : Nat) (processWide : Option RegistrationRef)
    {steps : List Step} (hsteps : ∀ x ∈ steps, x.sequential = true)
    (hends : (Scenario.after depth processWide s steps).Acyclic) :
    Course none (seen ++ (Scenario.runFrom depth processWide s steps).flatMap Prod.snd)
      (Scenario.after depth processWide s steps) := by
  induction steps generalizing s seen with
  | nil => exact (List.append_nil seen).symm ▸ h
  | cons x xs ih =>
      have hx := hsteps x List.mem_cons_self
      have hxs : ∀ y ∈ xs, y.sequential = true := fun y hy => hsteps y (List.mem_cons_of_mem x hy)
      have hsound := (sound_of_changes (Store.Orderly.sound h.inOrder.2)
        (changes_of_step depth processWide (Store.Orderly.sound h.inOrder.2) hx)).1
      -- chains that have ends at last had them after the first step too
      have hnext := h.step depth processWide hx
        (hends.before (later_of_run depth processWide hsound hxs))
      rw [Scenario.runFrom, List.flatMap_cons, ← List.append_assoc]
      exact ih hnext hxs hends

/-- Steps of threads beside an installation after a course. -/
theorem run {w : Underway} (h : Course (some w) seen s) {moves : List Move}
    (hmoves : w.Allows s moves) :
    Course (some (w.run s moves).1) (seen ++ (w.run s moves).2.1) (w.run s moves).2.2 := by
  induction moves generalizing w s seen with
  | nil => exact (List.append_nil seen).symm ▸ h
  | cons x xs ih =>
      obtain ⟨hx, hends, hxs⟩ := hmoves
      have hnext := ih (h.move x hx hends) hxs
      rw [List.append_assoc] at hnext
      exact hnext

/-- In every course, no node is offered a second target, and nothing is lost that was made to be a
target. -/
theorem nothingWasted (h : Course w seen s) :
    NothingWasted (w.bind fun w => w.opened s) seen s := by
  obtain ⟨hseen, horder⟩ := h.inOrder
  cases w with
  | none => exact .of_tellsOnce hseen (Store.Orderly.sound horder) (Store.Orderly.tellsOnce horder)
  | some w => exact .of_tellsOnce hseen (Midway.sound horder) (Midway.tellsOnce horder)

theorem course_poisoned : ∃ seen, Course none seen .poisoned :=
  ⟨_, (Course.initial .empty).after 1 none (by decide) (by decide +kernel)⟩

/-- The poisoned registration gets its backend while another thread asks the backend for a meter,
and one of the meters of the registration for an instrument. -/
def crowded : Underway × List Event × Store :=
  Underway.run ⟨⟨0⟩, ⟨1⟩, .before⟩ .poisoned
    [.advance, .advance, .requestMeterFrom ⟨1⟩ (.named "own"), .advance,
      .requestInstrument ⟨0⟩ ⟨.counter, .named "late", none⟩, .advance, .advance, .advance,
      .advance, .advance, .advance, .advance, .advance, .advance]

theorem nothingWasted_crowded :
    ∃ seen, NothingWasted none
      (seen ++ crowded.2.1 ++ (Scenario.step 1 none crowded.2.2 (.setProvider "r" "p")).1.2)
      (Scenario.step 1 none crowded.2.2 (.setProvider "r" "p")).2 := by
  obtain ⟨seen, hpoisoned⟩ := course_poisoned
  have hbegun := hpoisoned.begin (r := ⟨0⟩) (p := ⟨1⟩) (by decide +kernel) (by decide +kernel)
  have hrun : Course (some crowded.1) (seen ++ crowded.2.1) crowded.2.2 :=
    hbegun.run (by decide +kernel)
  have hended : crowded.1 = ⟨⟨0⟩, ⟨1⟩, .ended true⟩ := by decide +kernel
  rw [hended] at hrun
  exact ⟨seen, (hrun.finish.step 1 none rfl (by decide +kernel)).nothingWasted⟩

end Course

end DeferredMetrics
