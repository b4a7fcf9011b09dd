import DeferredMetrics.Proofs.Giving
import DeferredMetrics.Proofs.Rounding

set_option autoImplicit false

/-! # Where samples arrive

A sample for an instrument goes to the end of its chain. If that is an instrument of a recording
meter, the meter has one event more, and to observe the instrument is to call its callback once and
to have the meter keep the batch that the callback has ready (`Reaches`). An SDK sees the sample as
one for its own instrument (`Relays`), and at any other end nothing comes of it (`Discards`). -/

namespace DeferredMetrics

/-- The number that is kept of a sample: the sample itself, or the number nearest to it if it is an
integer. -/
inductive Sample.Reads : Sample → Binary64 → Prop where
  | count (n : UInt64) {x : Binary64} (hx : x.Nearest n.toNat) : Reads (.count n) x
  | delta (i : Int64) {x : Binary64} (hx : x.Nearest i.toInt) : Reads (.delta i) x
  | value (x : Binary64) : Reads (.value x) x

theorem Sample.reads_toBinary64 (sample : Sample) : sample.Reads sample.toBinary64 := by
  cases sample with
  | count n => exact .count n (Binary64.nearest_ofNat n.toNat_lt)
  | delta i =>
      refine .delta i (Binary64.nearest_ofInt ?_)
      have hlow := i.le_toInt
      have hhigh := i.toInt_lt
      show _ < 2 ^ 64
      omega
  | value x => exact .value x

/-! ## Events of a recording meter -/

/-- The recording meter `t` has the events `events` in its log after those that it had, and that is
all that has happened. -/
structure Gains (t : MeterRef) (events : List Recorded) (s s' : Store) : Prop where
  recording : ∃ x, (s'.meter t).body = .recording x
  issuer : (s'.meter t).issuer = (s.meter t).issuer
  log : (s'.meter t).log = { (s.meter t).log with events := (s.meter t).log.events ++ events }
  others : ∀ m, m ≠ t → s'.meter m = s.meter m
  known : ∀ m, s'.meters.Has m ↔ s.meters.Has m
  rest : s' = { s with meters := s'.meters }

theorem Gains.callbacks {t : MeterRef} {events : List Recorded} {s s' : Store}
    (h : Gains t events s s') : s'.callbacks = s.callbacks := by
  rw [h.rest]

/-- A recording meter that keeps something gains just that. -/
theorem gains_keep {s : Store} {t : MeterRef} {x : RecordingMeter}
    (ht : (s.meter t).body = .recording x) (events : List Recorded) :
    Gains t events s (s.updateMeter t fun m => m.keep events) := by
  have hknown : s.meters.Has t := by
    refine Table.has_of_ne_default fun heq => ?_
    rw [Store.meter, heq] at ht
    cases ht
  have hrow : (s.updateMeter t fun m => m.keep events).meter t = (s.meter t).keep events :=
    Table.get_update_self _ _ hknown
  constructor
  case recording =>
    rw [hrow]
    exact ⟨{ x with events := x.events ++ events.toArray }, by simp [Meter.keep, ht]⟩
  case issuer =>
    rw [hrow]
    simp [Meter.keep, ht]
  case log =>
    rw [hrow]
    simp [Meter.keep, Meter.log, ht]
  case others => exact fun m hm => Table.get_update_of_ne _ _ hm.symm
  case known => exact fun m => Table.has_update _ _ _ _
  case rest => rfl

/-! ## Calls of a callback -/

/-- The callback `c` was called once; the call is shown if the callback has a label, and nothing
else has happened. -/
structure Called (c : CallbackRef) (s s' : Store) : Prop where
  callbacks : s'.callbacks = s.callbacks.update c Callback.count
  calls : s'.calls = s.calls.push (.poll c)
  trace : s'.trace = match (s.callback c).label with
    | some label => s.trace.push (.polled label (s.callback c).asked)
    | none => s.trace
  rest : s' = { s with callbacks := s'.callbacks, calls := s'.calls, trace := s'.trace }

theorem Called.meter {c : CallbackRef} {s s' : Store} (h : Called c s s') (m : MeterRef) :
    s'.meter m = s.meter m := by
  rw [h.rest]
  rfl

/-- What is answered where this is ready, unless that is a panic: where there is nothing, the batch
is empty. -/
inductive Feed.Answers : Feed → Batch → Prop where
  | batch (b : Batch) : Answers (.batch b) b
  | absent : Answers .absent []

/-- To observe the instrument `i` is to call the callback `c` once. It gives its samples, and of the
batch that it has ready for this call, which is the answer, the meter `t` keeps every measurement as
one of the instrument that `request` asks for. A panic of the callback gets through, and so does
what stops its samples. -/
inductive Yields (s : Store) (i : InstrumentRef) (request : Request) (t : MeterRef)
    (c : CallbackRef) : Prop where
  | answered {b : Batch} {s₁ s₂ s₃ : Store} (hcalled : Called c (s.note (.observe i)) s₁)
      (hadded : Op.addAll (s.callback c).additions s₁ = .ok () s₂)
      (hfeed : ((s.callback c).feed (s.callback c).asked).Answers b)
      (hrun : Op.observe i s = .ok b s₃)
      (hgains : Gains t (b.map fun x =>
        ⟨request.kind, request.descriptor.name, x.value, x.attributes⟩) s₂ s₃)
      (honce : s₃.callbacks = s.callbacks.update c Callback.count)
  | panicked {payload : Payload} {s₁ s₂ : Store} (hcalled : Called c (s.note (.observe i)) s₁)
      (hadded : Op.addAll (s.callback c).additions s₁ = .ok () s₂)
      (hfeed : (s.callback c).feed (s.callback c).asked = .panics payload)
      (hrun : Op.observe i s = .error (.panic payload) s₂)
      (honce : s₂.callbacks = s.callbacks.update c Callback.count)
  | stopped {halt : Halt} {s₁ s₂ : Store} (hcalled : Called c (s.note (.observe i)) s₁)
      (hadded : Op.addAll (s.callback c).additions s₁ = .error halt s₂)
      (hrun : Op.observe i s = .error halt s₂)
      (honce : s₂.callbacks = s.callbacks.update c Callback.count)

/-! ## What becomes of samples -/

/-- A sample for the instrument `i` is one event more of the meter `t`, under what `request` asks
for; to observe `i` is to call the callback of the request once. -/
structure Reaches (s : Store) (i : InstrumentRef) (request : Request) (t : MeterRef) : Prop where
  recording : ∃ x, (s.meter t).body = .recording x
  record : ∀ sample attributes, ∃ value s', sample.Reads value ∧
    Op.record i sample attributes s = .ok () s' ∧
    Gains t [⟨request.kind, request.descriptor.name, value, attributes⟩]
      (s.note (.sample i sample attributes)) s'
  observe : ∀ c, request.callback = some c → Yields s i request t c

/-- An SDK sees a sample for the instrument `i` as one for its instrument `j`, and nothing else comes
of it; to observe `i` yields nothing and calls nothing, as the SDK asks when it collects. -/
structure Relays (s : Store) (i j : InstrumentRef) : Prop where
  record : ∀ sample attributes, Op.record i sample attributes s = .ok ()
    ((s.note (.sample i sample attributes)).see
      (.sdkSample j (s.instrument j).request.descriptor.name sample attributes.toSdk))
  observe : Op.observe i s = .ok [] (s.note (.observe i))

/-- A sample for the instrument `i` is written down as a call and nothing else comes of it; to
observe `i` yields nothing and calls nothing. -/
structure Discards (s : Store) (i : InstrumentRef) : Prop where
  record : ∀ sample attributes,
    Op.record i sample attributes s = .ok () (s.note (.sample i sample attributes))
  observe : Op.observe i s = .ok [] (s.note (.observe i))

namespace Op

variable {s : Store} {i j : InstrumentRef}

/-- A call is counted and shown, and then the callback gives its samples and answers. -/
theorem exists_called (c : CallbackRef) (s : Store) : ∃ s₁, Called c s s₁ ∧
    poll c s = (do
      addAll (s.callback c).additions
      answer ((s.callback c).feed (s.callback c).asked) : Op Batch) s₁ := by
  rw [poll_run]
  unfold respond
  cases hlabel : (s.callback c).label with
  | none =>
      refine ⟨(s.note (.poll c)).updateCallback c Callback.count, ⟨rfl, rfl, ?_, rfl⟩, rfl⟩
      rw [hlabel]
      rfl
  | some label =>
      refine ⟨((s.note (.poll c)).updateCallback c Callback.count).see
        (.polled label (s.callback c).asked), ⟨rfl, rfl, ?_, rfl⟩, rfl⟩
      rw [hlabel]
      rfl

theorem answer_of_answers {feed : Feed} {b : Batch} (h : feed.Answers b) (s : Store) :
    answer feed s = .ok b s := by
  cases h <;> rfl

/-- A sample calls no callback. -/
theorem callbacks_accept (e : InstrumentRef) (sample : Sample) (attributes : AttributeSet) :
    (s.accept e sample attributes).callbacks = s.callbacks := by
  unfold Store.accept
  simp only
  split <;> rfl

/-- The samples that a callback gives call no callback. -/
theorem callbacks_addAll (additions : List Addition) (s : Store) :
    ((addAll additions).left s).callbacks = s.callbacks := by
  have hrecord : ∀ s i sample attributes, Goes (fun s s' => s'.callbacks = s.callbacks)
      (record i sample attributes) s Anything := by
    intro s i sample attributes
    refine goes_modify_bind rfl ((goes_instrumentEnd i).bind fun e s₂ _ _ => ?_)
    exact goes_of_ok rfl (.single (callbacks_accept e sample attributes)) trivial
  generalize hleft : (addAll additions).left s = s'
  have hpath := (goes_addAll hrecord additions s).path
  rw [hleft] at hpath
  clear hleft
  induction hpath with
  | refl => rfl
  | tail _ hstep ih => exact hstep.trans ih

theorem left_answer (feed : Feed) (s : Store) : (answer feed).left s = s := by
  cases feed <;> rfl

/-- Calling a callback counts one call of it and no other one, whatever it does. -/
theorem callbacks_poll (c : CallbackRef) (s : Store) :
    ((poll c).left s).callbacks = s.callbacks.update c Callback.count := by
  obtain ⟨s₁, hcalled, hpoll⟩ := exists_called c s
  have hadded := callbacks_addAll (s.callback c).additions s₁
  rw [left_of_eq hpoll, ← hcalled.callbacks, ← hadded]
  cases hrun : addAll (s.callback c).additions s₁ with
  | error halt s₂ => rw [left_bind_of_error hrun, left_of_error hrun]
  | ok _ s₂ => rw [left_bind_of_ok hrun, left_of_ok hrun, left_answer]

/-- A sample goes to the end of the chain. -/
theorem record_run (h : s.instrumentEnd? i = some j) (sample : Sample)
    (attributes : AttributeSet) : record i sample attributes s =
      .ok () ((s.note (.sample i sample attributes)).accept j sample attributes) := by
  have hend : (s.note (.sample i sample attributes)).instrumentEnd? i = some j := h
  rw [record, bind_of_ok (note_run _ s), bind_of_ok (instrumentEnd_of_some hend)]
  rfl

/-- An instrument that does not lead to a log, or has no callback, yields nothing. -/
theorem observe_of_elsewhere (h : s.instrumentEnd? i = some j)
    (helsewhere : (s.instrument j).destination ≠ .log ∨ (s.instrument j).request.callback = none) :
    observe i s = .ok [] (s.note (.observe i)) := by
  have hend : (s.note (.observe i)).instrumentEnd? i = some j := h
  rw [observe, bind_of_ok (note_run _ s), bind_of_ok (instrumentEnd_of_some hend),
    bind_of_ok (get_run _)]
  cases hdestination : (s.instrument j).destination with
  | log =>
      have hlog : ((s.note (.observe i)).instrument j).destination = .log := hdestination
      have hnone : ((s.note (.observe i)).instrument j).request.callback = none :=
        helsewhere.resolve_left fun hnot => hnot hdestination
      simp only [hlog, hnone]
      rfl
  | _ =>
      have hdestination' : ((s.note (.observe i)).instrument j).destination = _ := hdestination
      simp only [hdestination']
      rfl

/-- An instrument that leads to a log has its callback asked, and the meter keep the answer. -/
theorem observe_of_log (h : s.instrumentEnd? i = some j)
    (hlog : (s.instrument j).destination = .log) {c : CallbackRef}
    (hc : (s.instrument j).request.callback = some c) : observe i s =
      (do
        let batch ← poll c
        modify fun s' => s'.updateMeter (s.instrument j).issuer fun m => m.keep (batch.map fun x =>
          ⟨(s.instrument j).request.kind, (s.instrument j).request.descriptor.name, x.value,
            x.attributes⟩)
        return batch : Op Batch) (s.note (.observe i)) := by
  have hend : (s.note (.observe i)).instrumentEnd? i = some j := h
  have hlog' : ((s.note (.observe i)).instrument j).destination = .log := hlog
  have hc' : ((s.note (.observe i)).instrument j).request.callback = some c := hc
  rw [observe, bind_of_ok (note_run _ s), bind_of_ok (instrumentEnd_of_some hend),
    bind_of_ok (get_run _)]
  simp only [hlog', hc']
  rfl

/-- Nothing that a callback gives makes a recording meter another one. -/
theorem recording_left {t : MeterRef} (hrecording : ∃ x, (s.meter t).body = .recording x)
    (additions : List Addition) :
    ∃ x, (((addAll additions).left s).meter t).body = .recording x := by
  obtain ⟨x, hx⟩ := hrecording
  have halike := (Alike.of_path (goes_addAll (fun _ => gives_record) additions s).path).meter t
  have hfresh := halike.freshDestination
  rw [Meter.freshDestination, Meter.freshDestination, hx] at hfresh
  cases hbody : (((addAll additions).left s).meter t).body with
  | recording y => exact ⟨y, rfl⟩
  | _ => rw [hbody] at hfresh; cases hfresh

theorem yields_of_log (h : s.instrumentEnd? i = some j)
    (hlog : (s.instrument j).destination = .log)
    (hrecording : ∃ x, (s.meter (s.instrument j).issuer).body = .recording x) {c : CallbackRef}
    (hc : (s.instrument j).request.callback = some c) :
    Yields s i (s.instrument j).request (s.instrument j).issuer c := by
  obtain ⟨s₁, hcalled, hpoll⟩ := exists_called c (s.note (.observe i))
  have honce : ((addAll (s.callback c).additions).left s₁).callbacks =
      s.callbacks.update c Callback.count := (callbacks_addAll _ _).trans hcalled.callbacks
  have hrun := observe_of_log h hlog hc
  -- the callback gives its samples before it answers
  cases hadded : addAll (s.callback c).additions s₁ with
  | error halt s₂ =>
      rw [left_of_error hadded] at honce
      rw [bind_of_error (hpoll.trans (bind_of_error hadded))] at hrun
      exact .stopped hcalled hadded hrun honce
  | ok _ s₂ =>
      -- they may be for instruments of this very meter, which still records afterwards
      have hkept := recording_left (s := s₁) (t := (s.instrument j).issuer)
        (by rw [hcalled.meter]; exact hrecording) (s.callback c).additions
      rw [left_of_ok hadded] at honce hkept
      obtain ⟨x, hx⟩ := hkept
      have hanswer : poll c (s.note (.observe i)) =
          answer ((s.callback c).feed (s.callback c).asked) s₂ := hpoll.trans (bind_of_ok hadded)
      have hgain : ∀ b, ((s.callback c).feed (s.callback c).asked).Answers b →
          Yields s i (s.instrument j).request (s.instrument j).issuer c := by
        intro b hfeed
        rw [bind_of_ok (hanswer.trans (answer_of_answers hfeed s₂))] at hrun
        have hgains := gains_keep hx (b.map fun x => ⟨(s.instrument j).request.kind,
          (s.instrument j).request.descriptor.name, x.value, x.attributes⟩)
        exact .answered hcalled hadded hfeed hrun hgains (hgains.callbacks.trans honce)
      cases hfeed : (s.callback c).feed (s.callback c).asked with
      | batch b => exact hgain b (hfeed ▸ .batch b)
      | absent => exact hgain [] (hfeed ▸ .absent)
      | panics payload =>
          rw [hfeed] at hanswer
          rw [bind_of_error hanswer] at hrun
          exact .panicked hcalled hadded hfeed hrun honce

/-- A sample for an instrument that leads to a log is one event more there. -/
theorem reaches_of_log (h : s.instrumentEnd? i = some j)
    (hlog : (s.instrument j).destination = .log)
    (hrecording : ∃ x, (s.meter (s.instrument j).issuer).body = .recording x) :
    Reaches s i (s.instrument j).request (s.instrument j).issuer where
  recording := hrecording
  record sample attributes := by
    have hlog' : ((s.note (.sample i sample attributes)).instrument j).destination = .log := hlog
    obtain ⟨x, hx⟩ := hrecording
    have hx' : ((s.note (.sample i sample attributes)).meter (s.instrument j).issuer).body =
        .recording x := hx
    refine ⟨_, _, sample.reads_toBinary64, ?_, gains_keep hx' _⟩
    rw [record_run h, Store.accept]
    simp only [hlog']
    rfl
  observe c hc := yields_of_log h hlog hrecording hc

theorem relays_of_sdk (h : s.instrumentEnd? i = some j)
    (hsdk : (s.instrument j).destination = .sdk) : Relays s i j where
  record sample attributes := by
    have hsdk' : ((s.note (.sample i sample attributes)).instrument j).destination = .sdk := hsdk
    rw [record_run h, Store.accept]
    simp only [hsdk']
    rfl
  observe := observe_of_elsewhere h (.inl (by simp [hsdk]))

/-- An instrument whose chain ends where nothing is kept and nothing handed on discards. -/
theorem discards_of_end (h : s.instrumentEnd? i = some j) (hlog : (s.instrument j).destination ≠ .log)
    (hsdk : (s.instrument j).destination ≠ .sdk) : Discards s i where
  record sample attributes := by
    rw [record_run h]
    have hrow : (s.note (.sample i sample attributes)).instrument j = s.instrument j := rfl
    rw [Store.accept, hrow]
    cases hdestination : (s.instrument j).destination with
    | log => exact absurd hdestination hlog
    | sdk => exact absurd hdestination hsdk
    | _ => rfl
  observe := observe_of_elsewhere h (.inl hlog)

end Op

end DeferredMetrics
