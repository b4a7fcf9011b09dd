import DeferredMetrics.Proofs.Using
import DeferredMetrics.Proofs.Wiring

set_option autoImplicit false

/-! # A callback that goes through a list of batches

All instruments that were created with one callback share it, wherever they were created and
whatever they are bound to. Observing one of them asks the callback if the chain of the instrument
ends at one of a recording meter, and leaves it alone otherwise (`Observing`). So the answers of a
run, taken together over all who ask, are the batches in order, each once, and empty ones after the
last: `stream_of_run`. -/

namespace DeferredMetrics

open Relation (ReflTransGen)

/-- The callback `c` goes through the batches `B` once, and was called `k` times. -/
structure Store.Streams (s : Store) (c : CallbackRef) (B : List Batch) (k : Nat) : Prop where
  known : s.callbacks.Has c
  feed : (s.callback c).feed = Feed.ofList (B.map .batch)
  additions : (s.callback c).additions = []
  asked : (s.callback c).asked = k

/-- The callback `c` has `g` ready for its calls and adds nothing to counters, and was called `k`
times. -/
structure Store.Supplies (s : Store) (c : CallbackRef) (g : Nat → Feed) (k : Nat) : Prop where
  known : s.callbacks.Has c
  feed : (s.callback c).feed = g
  additions : (s.callback c).additions = []
  asked : (s.callback c).asked = k

/-- Observing the instrument asks the callback `c`: its chain ends at an instrument of a recording
meter that was created with `c`. -/
def Store.asks (s : Store) (c : CallbackRef) (i : InstrumentRef) : Bool :=
  (s.instrumentEnd? i).any fun e =>
    decide ((s.instrument e).destination = .log ∧ (s.instrument e).request.callback = some c)

/-- The step calls the callback `c`, directly or by observing. -/
def Step.reaches (s : Store) (c : CallbackRef) : Step → Bool
  | .poll name => decide (s.directory.callbacks.get? name = some c)
  | .observe name => (s.directory.instruments.get? name).any fun i => s.asks c i.ref
  | _ => false

/-- An SDK calls the callbacks that it keeps in the step. -/
def Step.collects : Step → Bool
  | .collect _ => true
  | _ => false

/-- The batch that is the answer, if one is. -/
def Reply.batch? : Reply → Option Batch
  | .batch b => some b
  | .polled b _ => some b
  | _ => none

/-- The answers of the steps that call the callback `c`, in order. -/
def Scenario.drawn (depth : Nat) (processWide : Option RegistrationRef) (c : CallbackRef) :
    Store → List Step → List (Option Batch)
  | _, [] => []
  | s, x :: xs =>
      let rest := drawn depth processWide c (step depth processWide s x).2 xs
      if x.reaches s c then (step depth processWide s x).1.1.batch? :: rest else rest

namespace Store

variable {s s' : Store} {c : CallbackRef} {B : List Batch} {g : Nat → Feed} {k : Nat}

theorem asks_eq_true {i : InstrumentRef} :
    s.asks c i = true ↔ ∃ e, s.instrumentEnd? i = some e ∧
      (s.instrument e).destination = .log ∧ (s.instrument e).request.callback = some c := by
  simp [asks, Option.any_eq_true]

theorem streams_iff : s.Streams c B k ↔ s.Supplies c (Feed.ofList (B.map .batch)) k :=
  ⟨fun ⟨hknown, hfeed, hadditions, hasked⟩ => ⟨hknown, hfeed, hadditions, hasked⟩,
    fun ⟨hknown, hfeed, hadditions, hasked⟩ => ⟨hknown, hfeed, hadditions, hasked⟩⟩

theorem Supplies.congr (h : s.Supplies c g k) (hknown : s'.callbacks.Has c)
    (hrow : s'.callback c = s.callback c) : s'.Supplies c g k :=
  ⟨hknown, hrow ▸ h.feed, hrow ▸ h.additions, hrow ▸ h.asked⟩

theorem Supplies.of_eq (h : s.Supplies c g k) (hcallbacks : s'.callbacks = s.callbacks) :
    s'.Supplies c g k :=
  h.congr (hcallbacks ▸ h.known) (congrArg (Table.get · c) hcallbacks)

/-- One call more. -/
theorem Supplies.count (h : s.Supplies c g k)
    (hcallbacks : s'.callbacks = s.callbacks.update c Callback.count) :
    s'.Supplies c g (k + 1) := by
  have hrow : s'.callback c = (s.callback c).count := by
    rw [callback, hcallbacks]
    exact Table.get_update_self _ _ h.known
  constructor
  case known =>
    rw [hcallbacks, Table.has_update]
    exact h.known
  case feed =>
    rw [hrow]
    exact h.feed
  case additions =>
    rw [hrow]
    exact h.additions
  case asked =>
    rw [hrow]
    exact congrArg (· + 1) h.asked

/-- What a list of batches has ready. -/
theorem answer_ofList (B : List Batch) (n : Nat) :
    Op.answer (Feed.ofList (B.map .batch) n) = pure (B.getD n []) := by
  rw [Feed.ofList, List.getD_eq_getElem?_getD, List.getD_eq_getElem?_getD, List.getElem?_map]
  cases B[n]? <;> rfl

end Store

/-! ## Calling the callback -/

namespace Op

variable {s : Store} {c : CallbackRef} {g : Nat → Feed} {f : Nat → Batch} {k : Nat}

/-- The answer to the next call is what is ready for it. -/
theorem poll_of_supplies (hg : ∀ n, answer (g n) = pure (f n)) (h : s.Supplies c g k) :
    ∃ s', poll c s = .ok (f k) s' ∧ Called c s s' := by
  obtain ⟨s₁, hcalled, hpoll⟩ := exists_called c s
  rw [h.additions, h.feed, h.asked, hg] at hpoll
  exact ⟨s₁, hpoll, hcalled⟩

/-- A recording meter keeps just the batch that the callback has answered. -/
theorem observe_of_supplies (hg : ∀ n, answer (g n) = pure (f n)) (h : s.Supplies c g k)
    {i e : InstrumentRef} (he : s.instrumentEnd? i = some e)
    (hlog : (s.instrument e).destination = .log)
    (hc : (s.instrument e).request.callback = some c) :
    ∃ s₁, Called c (s.note (.observe i)) s₁ ∧ observe i s = .ok (f k)
      (s₁.updateMeter (s.instrument e).issuer fun m => m.keep ((f k).map fun x =>
        ⟨(s.instrument e).request.kind, (s.instrument e).request.descriptor.name, x.value,
          x.attributes⟩)) := by
  have hnoted : (s.note (.observe i)).Supplies c g k := h.of_eq rfl
  obtain ⟨s₁, hrun, hcalled⟩ := poll_of_supplies hg hnoted
  rw [observe_of_log he hlog hc, bind_of_ok hrun]
  exact ⟨s₁, hcalled, rfl⟩

/-! ## What is called of other callbacks -/

/-- Observing calls at most the callback that the end of the chain was created with. -/
theorem callbacks_observe (i : InstrumentRef) :
    ((observe i).left s).callbacks = s.callbacks ∨
      ∃ c, s.asks c i = true ∧
        ((observe i).left s).callbacks = s.callbacks.update c Callback.count := by
  cases he : s.instrumentEnd? i with
  | none =>
      have hend : (s.note (.observe i)).instrumentEnd? i = none := he
      refine .inl ?_
      rw [left_of_error (by rw [observe, bind_of_ok (note_run _ s),
        bind_of_error (instrumentEnd_of_none hend)])]
      rfl
  | some e =>
      -- only an instrument of a meter with a log is asked for a batch
      by_cases hlog : (s.instrument e).destination = .log
      · cases hc : (s.instrument e).request.callback with
        | none =>
            rw [left_of_ok (observe_of_elsewhere he (.inr hc))]
            exact .inl rfl
        | some c =>
            refine .inr ⟨c, ?_, ?_⟩
            · exact Store.asks_eq_true.2 ⟨e, he, hlog, hc⟩
            · have hpoll := callbacks_poll c (s.note (.observe i))
              unfold left at hpoll ⊢
              rw [observe_of_log he hlog hc, bind_run]
              cases hrun : poll c (s.note (.observe i)) with
              | ok batch s' =>
                  rw [hrun] at hpoll
                  exact hpoll
              | error halt s' =>
                  rw [hrun] at hpoll
                  exact hpoll
      · rw [left_of_ok (observe_of_elsewhere he (.inl hlog))]
        exact .inl rfl

end Op

/-! ## Steps -/

section Steps

variable {s : Store} {c : CallbackRef} {g : Nat → Feed} {f : Nat → Batch} {B : List Batch} {k : Nat}
  (depth : Nat) (processWide : Option RegistrationRef)

/-- What a step answers where it calls `c`, and what becomes of `c`. -/
structure Draws (s : Store) (c : CallbackRef) (g : Nat → Feed) (f : Nat → Batch) (k : Nat)
    (x : Step) : Prop where
  reached : x.reaches s c = true →
    (Scenario.step depth processWide s x).1.1.batch? = some (f k) ∧
      (Scenario.step depth processWide s x).2.Supplies c g (k + 1)
  passed : x.reaches s c = false → (Scenario.step depth processWide s x).2.Supplies c g k

/-- A step that counts a call of another callback. -/
theorem Draws.other (hc : s.Supplies c g k) {x : Step} {c' : CallbackRef} (hne : c ≠ c')
    (hx : x.reaches s c = false)
    (hcallbacks : (Scenario.step depth processWide s x).2.callbacks =
      s.callbacks.update c' Callback.count) : Draws depth processWide s c g f k x := by
  refine ⟨fun hreaches => absurd (hx.symm.trans hreaches) (by simp), fun _ => hc.congr ?_ ?_⟩
  · rw [hcallbacks, Table.has_update]
    exact hc.known
  · rw [Store.callback, hcallbacks]
    exact Table.get_update_of_ne _ _ hne.symm

/-- A step that calls no callback. -/
theorem Draws.none (hc : s.Supplies c g k) {x : Step} (hx : x.reaches s c = false)
    (hcallbacks : (Scenario.step depth processWide s x).2.callbacks = s.callbacks) :
    Draws depth processWide s c g f k x :=
  ⟨fun hreaches => absurd (hx.symm.trans hreaches) (by simp), fun _ => hc.of_eq hcallbacks⟩

/-- A step that answers with the next batch. -/
theorem Draws.next (hc : s.Supplies c g k) {x : Step} (hx : x.reaches s c = true) {reply : Reply}
    {s' : Store} (hrun : Op.perform depth processWide x { s with trace := #[] } = .ok reply s')
    (hreply : reply.batch? = some (f k))
    (hcallbacks : s'.callbacks = s.callbacks.update c Callback.count) :
    Draws depth processWide s c g f k x := by
  refine ⟨fun _ => ?_, fun hnot => absurd (hx.symm.trans hnot) (by simp)⟩
  rw [Scenario.step_of_ok hrun]
  exact ⟨hreply, hc.count hcallbacks⟩

theorem draws_poll (hg : ∀ n, Op.answer (g n) = pure (f n)) (hc : s.Supplies c g k)
    (name : String) : Draws depth processWide s c g f k (.poll name) := by
  have hstart : Store.Supplies { s with trace := #[] } c g k := hc.of_eq rfl
  cases hname : s.directory.callbacks.get? name with
  | none =>
      have hnamed : Op.named Directory.callbacks name { s with trace := #[] } =
          .error (.unnamed name) _ := Op.named_of_none hname
      refine .none depth processWide hc (by simp [Step.reaches, hname]) ?_
      rw [Scenario.step_left, Op.perform, Op.left_bind_of_error hnamed]
  | some c' =>
      have hnamed : Op.named Directory.callbacks name { s with trace := #[] } = .ok c' _ :=
        Op.named_of_some hname
      by_cases hcc : c = c'
      · subst hcc
        obtain ⟨s', hrun, hcalled⟩ := Op.poll_of_supplies hg hstart
        exact .next depth processWide hc (by simp [Step.reaches, hname])
          ((Op.bind_of_ok hnamed).trans (Op.bind_of_ok hrun)) rfl hcalled.callbacks
      · refine .other depth processWide hc hcc (by simp [Step.reaches, hname, Ne.symm hcc]) ?_
        rw [Scenario.step_left, Op.perform, Op.left_bind_of_ok hnamed, Op.left_bind_pure,
          Op.callbacks_poll]

theorem draws_observe (hg : ∀ n, Op.answer (g n) = pure (f n)) (hc : s.Supplies c g k)
    (name : String) : Draws depth processWide s c g f k (.observe name) := by
  have hstart : Store.Supplies { s with trace := #[] } c g k := hc.of_eq rfl
  cases hname : s.directory.instruments.get? name with
  | none =>
      have hnamed : Op.instrumentNamed name { s with trace := #[] } = .error (.unnamed name) _ :=
        Op.bind_of_error (Op.named_of_none hname)
      refine .none depth processWide hc (by simp [Step.reaches, hname]) ?_
      rw [Scenario.step_left, Op.perform, Op.left_bind_of_error hnamed]
  | some i =>
      have hnamed : Op.instrumentNamed name { s with trace := #[] } = .ok i.ref _ :=
        Op.bind_of_ok (Op.named_of_some hname)
      have hreaches : (Step.observe name).reaches s c = s.asks c i.ref := by
        simp [Step.reaches, hname]
      cases hasks : s.asks c i.ref with
      | true =>
          obtain ⟨e, he, hlog, hcallback⟩ := Store.asks_eq_true.1 hasks
          obtain ⟨s₁, hcalled, hrun⟩ := Op.observe_of_supplies hg hstart he hlog hcallback
          exact .next depth processWide hc (hreaches.trans hasks)
            ((Op.bind_of_ok hnamed).trans (Op.bind_of_ok hrun)) rfl hcalled.callbacks
      | false =>
          have hleft : (Scenario.step depth processWide s (.observe name)).2 =
              (Op.observe i.ref).left { s with trace := #[] } := by
            rw [Scenario.step_left, Op.perform, Op.left_bind_of_ok hnamed, Op.left_bind_pure]
          rcases Op.callbacks_observe (s := { s with trace := #[] }) i.ref with hkept | ⟨c', hasks', hcounted⟩
          · exact .none depth processWide hc (hreaches.trans hasks) (hleft ▸ hkept)
          · refine .other depth processWide hc ?_ (hreaches.trans hasks) (hleft ▸ hcounted)
            rintro rfl
            exact absurd (hasks.symm.trans hasks') (by simp)

theorem draws_of_step (hg : ∀ n, Op.answer (g n) = pure (f n)) (h : Sound s)
    (hc : s.Supplies c g k) {x : Step} (hx : x.sequential = true)
    (hcollects : x.collects = false) : Draws depth processWide s c g f k x := by
  have hclear : Sound { s with trace := #[] } := h.of_eq rfl rfl rfl rfl rfl rfl
  cases hstill : x.still with
  | true =>
      have hpath := (Op.goes_perform_still depth processWide hclear hstill).path
      have hkept := callbacks_of_stills hclear hpath
      refine ⟨fun hreaches => ?_, fun _ => hc.of_eq ?_⟩
      · cases x <;> first | cases hreaches | cases hstill
      · rw [Scenario.step_left]
        exact hkept
  | false =>
      -- such a step calls callbacks, makes one, or runs threads
      cases x with
      | poll name => exact draws_poll depth processWide hg hc name
      | observe name => exact draws_observe depth processWide hg hc name
      | callback id kind answers additions =>
          refine ⟨nofun, fun _ => hc.congr ?_ ?_⟩
          · exact (Table.has_add _ _ _).2 (.inl hc.known)
          · exact Table.get_add_of_has s.callbacks _ hc.known
      | collect provider => cases hcollects
      | race registration threads winner => cases hx
      | raceCreate registration meter threads provider => cases hx
      | _ => cases hstill

/-- What steps answer that call `c`, from its `k`-th call on. -/
theorem drawn_of_run (hg : ∀ n, Op.answer (g n) = pure (f n)) (h : Sound s)
    (hc : s.Supplies c g k) {steps : List Step}
    (hsteps : ∀ x ∈ steps, x.sequential = true ∧ x.collects = false) :
    ∃ n, Scenario.drawn depth processWide c s steps =
        (List.range' k n).map (fun k => some (f k)) ∧
      (Scenario.after depth processWide s steps).Supplies c g (k + n) := by
  induction steps generalizing s k with
  | nil => exact ⟨0, rfl, hc⟩
  | cons x xs ih =>
      obtain ⟨hx, hcollects⟩ := hsteps x List.mem_cons_self
      have hsound := (sound_of_changes h (changes_of_step depth processWide h hx)).1
      have hdraws := draws_of_step depth processWide hg h hc hx hcollects
      have hrest := fun y hy => hsteps y (List.mem_cons_of_mem x hy)
      cases hreaches : x.reaches s c with
      | true =>
          obtain ⟨hreply, hnext⟩ := hdraws.reached hreaches
          obtain ⟨n, hdrawn, hlast⟩ := ih hsound hnext hrest
          refine ⟨n + 1, ?_, ?_⟩
          · rw [Scenario.drawn, if_pos hreaches, hreply, hdrawn]
            simp [List.range'_succ]
          · rw [← Nat.add_assoc, Nat.add_right_comm]
            exact hlast
      | false =>
          obtain ⟨n, hdrawn, hlast⟩ := ih hsound (hdraws.passed hreaches) hrest
          refine ⟨n, ?_, hlast⟩
          rw [Scenario.drawn, if_neg (by simp [hreaches]), hdrawn]

/-- What observing the instrument `i` does, which was created with `c`: either its target is an
instrument of a recording meter, which keeps just the batch that is answered, or it has no such
target, and nothing happens. -/
inductive Observes (s : Store) (c : CallbackRef) (B : List Batch) (k : Nat) (i : InstrumentRef) :
    Prop where
  | drawn {e : InstrumentRef} {s' : Store} (he : s.instrumentEnd? i = some e)
      (hrecording : ∃ x, (s.meter (s.instrument e).issuer).body = .recording x)
      (hlog : (s.instrument e).destination = .log)
      (hrun : Op.observe i s = .ok (B.getD k []) s') (hstream : s'.Streams c B (k + 1))
      (hevents : (s'.meter (s.instrument e).issuer).log.events =
        (s.meter (s.instrument e).issuer).log.events ++ (B.getD k []).map fun x =>
          ⟨(s.instrument i).request.kind, (s.instrument i).request.descriptor.name, x.value,
            x.attributes⟩)
      (hothers : ∀ m, m ≠ (s.instrument e).issuer → s'.meter m = s.meter m)
  | idle {e : InstrumentRef} (he : s.instrumentEnd? i = some e)
      (hlog : (s.instrument e).destination ≠ .log)
      (hrun : Op.observe i s = .ok [] (s.note (.observe i)))
      (hstream : (s.note (.observe i)).Streams c B k)

theorem observes_of_streams (hwired : s.Wired) (hc : s.Streams c B k) {i : InstrumentRef}
    (hi : (s.instrument i).request.callback = some c) : Observes s c B k i := by
  obtain ⟨e, he, hrequest⟩ := Store.exists_end hwired i
  by_cases hlog : (s.instrument e).destination = .log
  · have hfresh := hwired.log e hlog
    obtain ⟨x, hx⟩ : ∃ x, (s.meter (s.instrument e).issuer).body = .recording x := by
      unfold Meter.freshDestination at hfresh
      cases hbody : (s.meter (s.instrument e).issuer).body <;> simp_all
    have hsupplies := Store.streams_iff.1 hc
    obtain ⟨s₁, hcalled, hrun⟩ :=
      Op.observe_of_supplies (Store.answer_ofList B) hsupplies he hlog (by rw [hrequest, hi])
    have hmeters : ∀ m, s₁.meter m = s.meter m := hcalled.meter
    have hgains := gains_keep (s := s₁) (by rw [hmeters, hx]) ((B.getD k []).map fun x =>
      ⟨(s.instrument e).request.kind, (s.instrument e).request.descriptor.name, x.value,
        x.attributes⟩)
    refine .drawn he ⟨x, hx⟩ hlog hrun
      (Store.streams_iff.2 (hsupplies.count hcalled.callbacks)) ?_ fun m hm => ?_
    · rw [hgains.log, hmeters, hrequest]
    · exact (hgains.others m hm).trans (hmeters m)
  · exact .idle he hlog (Op.observe_of_elsewhere he (.inl hlog))
      (Store.streams_iff.2 ((Store.streams_iff.1 hc).of_eq rfl))

end Steps

/-- In every run, the answers of all who call a callback that was made from the batches `B`, by
direct calls or by observing instruments that were created with it, are together the batches `B` in
order, and empty ones after the last. Observing an instrument without a recording target answers
nothing and leaves the callback where it was; with one, the meter of the target keeps what was
answered. -/
theorem stream_of_run (depth : Nat) (processWide : Option RegistrationRef) {s : Store}
    {c : CallbackRef} {B : List Batch} (h : Reachable s) (hc : s.Streams c B 0) {steps : List Step}
    (hsteps : ∀ x ∈ steps, x.sequential = true ∧ x.collects = false) :
    ∃ n, Scenario.drawn depth processWide c s steps =
        ((B ++ List.replicate n []).take n).map some ∧
      (Scenario.after depth processWide s steps).Streams c B n ∧
      ∀ i, ((Scenario.after depth processWide s steps).instrument i).request.callback = some c →
        Observes (Scenario.after depth processWide s steps) c B n i := by
  obtain ⟨n, hdrawn, hlast⟩ := drawn_of_run depth processWide (Store.answer_ofList B)
    (reachable_sound h) (Store.streams_iff.1 hc) hsteps
  rw [Nat.zero_add, ← Store.streams_iff] at hlast
  have hafter := h.after depth processWide fun x hx => (hsteps x hx).1
  refine ⟨n, ?_, hlast, fun i hi => observes_of_streams (wired_of_reachable hafter) hlast hi⟩
  rw [hdrawn]
  refine List.ext_getElem (by simp) fun k _ hk => ?_
  have hlt : k < (B ++ List.replicate n []).length := by simp at hk ⊢; omega
  simp only [List.getElem_map, List.getElem_range', List.getElem_take, Nat.zero_add, Nat.one_mul,
    List.getElem_append, List.getElem_replicate, List.getD_eq_getElem?_getD]
  split
  · rename_i hB
    rw [List.getElem?_eq_getElem hB]
    rfl
  · rename_i hB
    rw [List.getElem?_eq_none (Nat.le_of_not_lt hB)]
    rfl

/-- Two batches. -/
def streamed : List Batch := [[.bare (.ofNat 1), .bare (.ofNat 2)], [.bare (.ofNat 3)]]

/-- Two instruments on one callback, one of a meter that waits, and one of a recording meter. -/
def Store.streaming : Store :=
  Scenario.after 1 none (.initial .empty)
    [.registration "r" none (.settings []) none,
      .provider "p" .recording,
      .callback "c" .list (streamed.map .batch) [],
      .getMeter "r" "m" (.named "deferred"),
      .create "m" "i" .observableGauge (.named "load") (some "c"),
      .meter "p" "n" (.named "direct"),
      .create "n" "j" .observableCounter (.named "hits") (some "c")]

theorem stream_of_run_streaming :
    ∃ n, Scenario.drawn 1 none ⟨0⟩ .streaming
        [.observe "i", .observe "j", .setProvider "r" "p", .observe "i", .poll "c"] =
      ((streamed ++ List.replicate n []).take n).map some := by
  have hstart : Reachable .streaming := .after _ _ (.initial _) (by decide)
  have hc : Store.streaming.Streams ⟨0⟩ streamed 0 := ⟨by decide +kernel, rfl, rfl, rfl⟩
  have hsteps : ∀ x ∈ ([.observe "i", .observe "j", .setProvider "r" "p", .observe "i",
      .poll "c"] : List Step), x.sequential = true ∧ x.collects = false := by decide
  obtain ⟨n, hdrawn, -⟩ := stream_of_run 1 none hstart hc hsteps
  exact ⟨n, hdrawn⟩

end DeferredMetrics
