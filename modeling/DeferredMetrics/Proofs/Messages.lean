import DeferredMetrics.Proofs.Rebinding

set_option autoImplicit false

/-! # What trials log

Of all that is seen of a run, the messages are what the library itself says. Requests log nothing.
A trial logs one error if it was refused; the trial of a meter that was not refused logs the errors
of its instruments and then how many of them are bound. `messages_tryMeters` puts that together over
all meters, with the numbers that were counted on the way. -/

namespace DeferredMetrics

/-- The message, if the event is one. -/
def Event.message? : Event → Option Message
  | .log m => some m
  | _ => none

/-- The messages logged so far, in order. -/
def Store.messages (s : Store) : List Message := s.trace.toList.filterMap Event.message?

namespace Message

/-- The message tells that a child of the kind got no target. -/
def failsFor (child : ChildKind) : Message → Bool
  | .childFailed child' _ _ => decide (child' = child)
  | _ => false

/-- A message is an error if it tells that a child got no target, a warning if it tells that a
provider came too late, and a detail otherwise. -/
theorem level_eq (m : Message) :
    m.level = if m.failsFor .meter || m.failsFor .instrument then .error
      else if m = .refused then .warn else .debug := by
  cases m with
  | childFailed child name reason => cases child <;> rfl
  | _ => rfl

/-- What is shown of a message says which message it is: its text says what has happened, and its
fields have all that goes with that. -/
theorem eq_of_shown {m m' : Message} (htext : m.text = m'.text) (hfields : m.fields = m'.fields) :
    m = m' := by
  cases m <;> cases m' <;> simp_all [text, fields]
  rename_i child _ _ child' _ _
  cases child <;> cases child' <;> simp_all [ChildKind.name]

end Message

/-- Where each trial logs an error unless it succeeds, successes and errors make up all trials. -/
theorem countP_add_failures {α : Type} {child : ChildKind} {ok : α → Bool}
    {report : α → List Message}
    (h : ∀ x, (report x).countP (Message.failsFor child) = if ok x then 0 else 1) (xs : List α) :
    xs.countP ok + (xs.flatMap report).countP (Message.failsFor child) = xs.length := by
  induction xs with
  | nil => rfl
  | cons x xs ih =>
      have hhead := h x
      rw [List.flatMap_cons, List.countP_append, List.countP_cons, List.length_cons]
      by_cases hok : ok x
      · rw [if_pos hok] at hhead ⊢
        omega
      · rw [if_neg hok] at hhead ⊢
        omega

namespace InstrumentTrial

/-- What is logged of the trial. -/
def report (x : InstrumentTrial) : List Message :=
  match x.answer with
  | .ok _ => []
  | .error (.text reason) => [.childFailed .instrument x.request.descriptor.name reason]
  | .error .other =>
      [.childFailed .instrument x.request.descriptor.name "<non-string panic payload>"]

theorem report_of_error {x : InstrumentTrial} {payload : Payload} (h : x.answer = .error payload) :
    x.report = [.childFailed .instrument x.request.descriptor.name payload.reason] := by
  unfold report
  rw [h]
  cases payload <;> rfl

theorem failures_report (x : InstrumentTrial) :
    x.report.countP (Message.failsFor .instrument) = if x.answer.isOk then 0 else 1 := by
  cases hanswer : x.answer with
  | ok j =>
      rw [report, hanswer]
      rfl
  | error payload =>
      rw [report_of_error hanswer]
      rfl

end InstrumentTrial

namespace MeterTrial

/-- What is logged of the trial: one error, or the errors of the instruments and how many of how
many instruments were not refused. -/
def report (x : MeterTrial) : List Message :=
  match x.answer with
  | .ok _ => x.instruments.flatMap InstrumentTrial.report ++
      [.meterBound x.scope.name (x.instruments.countP fun y => y.answer.isOk) x.instruments.length]
  | .error (.text reason) => [.childFailed .meter x.scope.name reason]
  | .error .other => [.childFailed .meter x.scope.name "<non-string panic payload>"]

theorem report_of_error {x : MeterTrial} {payload : Payload} (h : x.answer = .error payload) :
    x.report = [.childFailed .meter x.scope.name payload.reason] := by
  unfold report
  rw [h]
  cases payload <;> rfl

theorem failures_report (x : MeterTrial) :
    x.report.countP (Message.failsFor .meter) = if x.answer.isOk then 0 else 1 := by
  have hinstruments : (x.instruments.flatMap InstrumentTrial.report).countP
      (Message.failsFor .meter) = 0 := by
    rw [List.countP_eq_zero]
    intro m hm
    obtain ⟨y, _, hy⟩ := List.mem_flatMap.1 hm
    cases hanswer : y.answer with
    | ok j =>
        rw [InstrumentTrial.report, hanswer] at hy
        cases hy
    | error payload =>
        rw [InstrumentTrial.report_of_error hanswer] at hy
        rw [List.mem_singleton.1 hy]
        simp [Message.failsFor]
  cases hanswer : x.answer with
  | ok t =>
      rw [report, hanswer]
      simp only
      rw [List.countP_append, hinstruments]
      rfl
  | error payload =>
      rw [report_of_error hanswer]
      rfl

end MeterTrial

namespace Store

variable {s s' : Store}

theorem messages_log (s : Store) (m : Message) : (s.log m).messages = s.messages ++ [m] := by
  simp [messages, log, see, Event.message?]

theorem messages_congr (h : s'.trace = s.trace) : s'.messages = s.messages := by
  rw [messages, h, messages]

end Store

/-- Events of requests are no messages. -/
theorem Shown.messages {s s' : Store} (h : Shown s s') : s'.messages = s.messages := by
  have hkeep : ∀ l : List Event,
      (l.filter fun e => !e.isRequest).filterMap Event.message? = l.filterMap Event.message? := by
    intro l
    rw [List.filterMap_filter]
    congr 1
    funext e
    cases e <;> rfl
  rw [Store.messages, ← hkeep, h.trace, hkeep, Store.messages]

namespace Store

variable {s : Store} {p e : ProviderRef}

/-! ## Instruments -/

theorem messages_tryInstrument {i : InstrumentRef} (t : MeterRef) (hwaits : s.InstrumentWaits i) :
    (s.tryInstrument t i).messages = s.messages ++ (s.instrumentTrial t i).report := by
  have hask : ((s.note (.bindInstrument i t)).askInstrument t t (s.instrument i).request).messages =
      s.messages := messages_congr (directory_askInstrument _ t t _).2
  unfold tryInstrument
  simp only
  cases hanswer : s.instrumentAnswer t (s.instrument i).request with
  | error payload =>
      rw [InstrumentTrial.report_of_error hanswer]
      simp only
      rw [messages_log, hask]
      rfl
  | ok j =>
      -- the instrument has no target yet, so nothing is said about a second one
      have hrow : ((s.note (.bindInstrument i t)).askInstrument t t
          (s.instrument i).request).instrument i = s.instrument i := by
        rw [instrument, instruments_askInstrument_of_ok (s.note (.bindInstrument i t)) t hanswer]
        exact Table.get_add_of_has s.instruments _ hwaits.known
      simp only
      rw [bindInstrument, hrow, hwaits.target?, InstrumentTrial.report, instrumentTrial, hanswer,
        List.append_nil]
      exact hask

theorem messages_tryInstruments (t : MeterRef) {is : List InstrumentRef} (hnodup : is.Nodup)
    (hwaits : ∀ i ∈ is, s.InstrumentWaits i) :
    (s.tryInstruments t is).messages =
      s.messages ++ (instrumentTrials t s is).flatMap InstrumentTrial.report := by
  induction is generalizing s with
  | nil => exact (List.append_nil _).symm
  | cons i is ih =>
      obtain ⟨hi, hnodup⟩ := List.nodup_cons.1 hnodup
      have hhead := hwaits i List.mem_cons_self
      have htail : ∀ k ∈ is, (s.tryInstrument t i).InstrumentWaits k := fun k hk =>
        hhead.tryInstrument (hwaits k (List.mem_cons_of_mem _ hk)) fun h => hi (h ▸ hk)
      calc ((s.tryInstrument t i).tryInstruments t is).messages
          = (s.tryInstrument t i).messages ++
              (instrumentTrials t (s.tryInstrument t i) is).flatMap InstrumentTrial.report :=
            ih hnodup htail
        _ = s.messages ++ (instrumentTrials t s (i :: is)).flatMap InstrumentTrial.report := by
            rw [messages_tryInstrument t hhead, instrumentTrials, List.flatMap_cons,
              List.append_assoc]

/-! ## Meters -/

theorem messages_tryMeter {m : MeterRef} (hwaits : s.MeterWaits m) :
    (s.tryMeter p e m).messages = s.messages ++ (s.meterTrial p e m).report := by
  have hask : (s.askMeter p e (s.meter m).scope).messages = s.messages :=
    messages_congr (directory_askMeter s p e _).2
  cases hanswer : s.meterAnswer e (s.meter m).scope with
  | error payload =>
      rw [tryMeter_of_error hanswer, meterTrial_of_error hanswer, messages_log, hask,
        MeterTrial.report_of_error rfl]
  | ok t =>
      have hrow : (s.askMeter p e (s.meter m).scope).meter m = s.meter m :=
        meter_askMeter hwaits.known _
      have hsame : ((s.askMeter p e (s.meter m).scope).note (.bindMeter m t)).instruments =
          s.instruments := instruments_askMeter s p e _
      have htried := messages_tryInstruments
        (s := (s.askMeter p e (s.meter m).scope).note (.bindMeter m t)) t hwaits.nodup
        fun i hi => (hwaits.instruments i hi).1.congr hsame
      have hlength := congrArg List.length (map_instrument_instrumentTrials
        (s := (s.askMeter p e (s.meter m).scope).note (.bindMeter m t)) (t := t)
        (s.meter m).instruments)
      rw [List.length_map] at hlength
      rw [tryMeter_of_ok hanswer, meterTrial_of_ok hanswer, bindMeter, hrow, messages_log]
      show messages (tryInstruments t _ _) ++ _ = _
      rw [htried]
      show (s.askMeter p e (s.meter m).scope).messages ++ _ ++ _ = _
      rw [hask, List.append_assoc]
      simp only [MeterTrial.report, hlength]

theorem messages_tryMeters {ms : List MeterRef} (hwait : s.AllWait ms) :
    (s.tryMeters p e ms).messages =
      s.messages ++ (meterTrials p e s ms).flatMap MeterTrial.report := by
  induction ms generalizing s with
  | nil => exact (List.append_nil _).symm
  | cons m ms ih =>
      calc ((s.tryMeter p e m).tryMeters p e ms).messages
          = (s.tryMeter p e m).messages ++
              (meterTrials p e (s.tryMeter p e m) ms).flatMap MeterTrial.report := ih hwait.tail
        _ = s.messages ++ (meterTrials p e s (m :: ms)).flatMap MeterTrial.report := by
            rw [messages_tryMeter (hwait.waits m List.mem_cons_self), meterTrials,
              List.flatMap_cons, List.append_assoc]

end Store

end DeferredMetrics
