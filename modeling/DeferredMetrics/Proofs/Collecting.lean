import DeferredMetrics.Proofs.Delivering

set_option autoImplicit false

/-! # What an SDK gets

Samples get to an SDK one by one as they are given, and measurements when it collects: then it calls
the callbacks that it keeps, each once and in order, and reads every measurement of what they
answer. `Store.given` and `Store.collected` are what it gets of a sample and in a collection;
`Op.passes_record` and `Op.passes_readFrom` say that it gets just that. A callback that panics ends
the collection, and so does one that adds to an instrument without a name. -/

namespace DeferredMetrics

/-- What the callback has ready for the next call, unless that is a panic. -/
def Callback.ready? (c : Callback) : Option Batch :=
  match c.feed c.asked with
  | .batch b => some b
  | .absent => some []
  | .panics _ => none

/-- A measurement that an SDK reads from a callback that it keeps. -/
def Measurement.observed (kept : SdkCallback) (x : Measurement) : Event :=
  .sdkObserved kept.instrument kept.name x.value x.attributes.toSdk

namespace Store

/-- What SDKs get of a sample for the instrument `i`. -/
def given (s : Store) (i : InstrumentRef) (sample : Sample) (attributes : AttributeSet) :
    List Event :=
  match s.instrumentEnd? i with
  | some e =>
      match (s.instrument e).destination with
      | .sdk => [.sdkSample e (s.instrument e).request.descriptor.name sample attributes.toSdk]
      | _ => []
  | none => []

/-- What SDKs get of the samples that a callback adds, until one is for an instrument without a
name. -/
def added (s : Store) : List Addition → List Event
  | [] => []
  | a :: additions =>
      match s.directory.instruments.get? a.instrument with
      | some i => s.given i.ref (.count a.value) a.attributes ++ s.added additions
      | none => []

/-- There is an instrument for every sample that is added. -/
def Named (s : Store) (additions : List Addition) : Prop :=
  ∀ a ∈ additions, (s.directory.instruments.get? a.instrument).isSome = true

instance (s : Store) (additions : List Addition) : Decidable (s.Named additions) :=
  List.decidableBAll _ _

/-- What the callback `c` answers when it is called now, if it answers. -/
def answer? (s : Store) (c : CallbackRef) : Option Batch :=
  if s.Named (s.callback c).additions then (s.callback c).ready? else none

/-- What SDKs get when one of them collects from the callbacks in `kept`. -/
def collected (s : Store) : List SdkCallback → List Event
  | [] => []
  | x :: kept =>
      s.added (s.callback x.callback).additions ++
        match s.answer? x.callback with
        | some batch =>
            batch.map (Measurement.observed x) ++
              (s.updateCallback x.callback Callback.count).collected kept
        | none => []

/-- The callbacks that are called when an SDK collects from those in `kept`. -/
def polled (s : Store) : List SdkCallback → List CallbackRef
  | [] => []
  | x :: kept =>
      x.callback :: if (s.answer? x.callback).isSome then
        (s.updateCallback x.callback Callback.count).polled kept else []

/-- The callback `c` answers whenever it is called. -/
structure Willing (s : Store) (c : CallbackRef) : Prop where
  named : s.Named (s.callback c).additions
  answers : ∀ n payload, (s.callback c).feed n ≠ .panics payload

/-- Every chain of instruments has an end. -/
def Ended (s : Store) : Prop := ∀ i, ∃ e, s.instrumentEnd? i = some e

end Store

/-- SDKs got `us` and no requests, the callbacks `cs` were called, and nothing that matters for the
next sample has changed. -/
structure Passes (us : List Event) (cs : List CallbackRef) (s s' : Store) : Prop where
  uses : s'.uses = s.uses ++ us
  requests : s'.shownRequests = s.shownRequests
  callbacks : s'.callbacks = cs.foldl (fun t c => t.update c Callback.count) s.callbacks
  instruments : s'.instruments = s.instruments
  directory : s'.directory = s.directory
  providers : s'.providers = s.providers

namespace Passes

variable {us us' : List Event} {cs cs' : List CallbackRef} {s s' s'' : Store}

theorem refl (s : Store) : Passes [] [] s s := ⟨(List.append_nil _).symm, rfl, rfl, rfl, rfl, rfl⟩

theorem trans (h : Passes us cs s s') (h' : Passes us' cs' s' s'') :
    Passes (us ++ us') (cs ++ cs') s s'' where
  uses := by rw [h'.uses, h.uses, List.append_assoc]
  requests := h'.requests.trans h.requests
  callbacks := by rw [h'.callbacks, h.callbacks, List.foldl_append]
  instruments := h'.instruments.trans h.instruments
  directory := h'.directory.trans h.directory
  providers := h'.providers.trans h.providers

theorem note (s : Store) (c : Call) : Passes [] [] s (s.note c) :=
  ⟨(List.append_nil _).symm, rfl, rfl, rfl, rfl, rfl⟩

/-- An SDK could be seen to get something. -/
theorem see (s : Store) {e : Event} (he : e.isUse = true) : Passes [e] [] s (s.see e) := by
  have hrequest : e.isRequest = false := by cases e <;> first | rfl | cases he
  refine ⟨?_, ?_, rfl, rfl, rfl, rfl⟩
  · simp [Store.uses, Store.see, he]
  · simp [Store.shownRequests, Store.see, hrequest]

theorem ended (h : Passes us cs s s') (hended : s.Ended) : s'.Ended := by
  intro i
  rw [Store.instrumentEnd?, h.instruments, show s'.instrument = s.instrument from
    funext fun i => congrArg (Table.get · i) h.instruments]
  exact hended i

end Passes

/-- Calling callbacks counts their calls and changes nothing else of them. -/
theorem Table.get_foldl_count (t : Table .callback Callback) (cs : List CallbackRef)
    (c : CallbackRef) :
    ((cs.foldl (fun t c => t.update c Callback.count) t).get c).feed = (t.get c).feed ∧
      ((cs.foldl (fun t c => t.update c Callback.count) t).get c).additions =
        (t.get c).additions ∧
      (t.Has c → ((cs.foldl (fun t c => t.update c Callback.count) t).get c).asked =
        (t.get c).asked + cs.count c) := by
  induction cs generalizing t with
  | nil => exact ⟨rfl, rfl, fun _ => rfl⟩
  | cons c' cs ih =>
      obtain ⟨hfeed, hadditions, hasked⟩ := ih (t.update c' Callback.count)
      have hrow := t.get_update Callback.count c' c
      rw [Table.has_update] at hasked
      refine ⟨hfeed.trans ?_, hadditions.trans ?_, fun hc => (hasked hc).trans ?_⟩
      · rw [hrow]
        split <;> rfl
      · rw [hrow]
        split <;> rfl
      · rw [hrow, List.count_cons]
        by_cases hcc : c = c'
        · subst hcc
          simp [hc, Callback.count]
          omega
        · simp [hcc, Ne.symm hcc]

namespace Store.Willing

variable {us : List Event} {cs : List CallbackRef} {s s' : Store} {c : CallbackRef}

theorem passes (h : s.Willing c) (hpasses : Passes us cs s s') : s'.Willing c := by
  obtain ⟨hfeed, hadditions, _⟩ := s.callbacks.get_foldl_count cs c
  rw [← hpasses.callbacks] at hfeed hadditions
  refine ⟨?_, ?_⟩
  · rw [show (s'.callback c).additions = (s.callback c).additions from hadditions, Store.Named,
      hpasses.directory]
    exact h.named
  · rw [show (s'.callback c).feed = (s.callback c).feed from hfeed]
    exact h.answers

theorem answer? (h : s.Willing c) : (s.answer? c).isSome = true := by
  rw [Store.answer?, if_pos h.named, Callback.ready?]
  cases hfeed : (s.callback c).feed (s.callback c).asked with
  | panics payload => exact absurd hfeed (h.answers _ payload)
  | _ => rfl

end Store.Willing

/-- If all answer, all are called. -/
theorem Store.polled_of_willing {s : Store} (kept : List SdkCallback)
    (h : ∀ x ∈ kept, s.Willing x.callback) : s.polled kept = kept.map SdkCallback.callback := by
  induction kept generalizing s with
  | nil => rfl
  | cons x kept ih =>
      have hcounted : Passes [] [x.callback] s (s.updateCallback x.callback Callback.count) :=
        ⟨(List.append_nil _).symm, rfl, rfl, rfl, rfl, rfl⟩
      rw [polled, if_pos (h x List.mem_cons_self).answer?,
        ih fun y hy => (h y (List.mem_cons_of_mem _ hy)).passes hcounted]
      rfl

/-! ## What does not matter for the next sample -/

namespace Store

variable {s s' : Store}

theorem given_congr (h : s'.instruments = s.instruments) (i : InstrumentRef) (sample : Sample)
    (attributes : AttributeSet) : s'.given i sample attributes = s.given i sample attributes := by
  have hrow : s'.instrument = s.instrument := funext fun i => congrArg (Table.get · i) h
  rw [given, given, instrumentEnd?, instrumentEnd?, h, hrow]

theorem added_congr (h : s'.instruments = s.instruments) (hdirectory : s'.directory = s.directory)
    (additions : List Addition) : s'.added additions = s.added additions := by
  induction additions with
  | nil => rfl
  | cons a additions ih => simp only [added, hdirectory, given_congr h, ih]

theorem answer?_congr (hdirectory : s'.directory = s.directory)
    (hcallbacks : s'.callbacks = s.callbacks) (c : CallbackRef) : s'.answer? c = s.answer? c := by
  have hrow : s'.callback c = s.callback c := congrArg (Table.get · c) hcallbacks
  simp only [answer?, Named, hdirectory, hrow]

theorem collected_congr (s s' : Store) (h : s'.instruments = s.instruments)
    (hdirectory : s'.directory = s.directory) (hcallbacks : s'.callbacks = s.callbacks)
    (kept : List SdkCallback) :
    s'.collected kept = s.collected kept ∧ s'.polled kept = s.polled kept := by
  induction kept generalizing s s' with
  | nil => exact ⟨rfl, rfl⟩
  | cons x kept ih =>
      have hrow : s'.callback x.callback = s.callback x.callback :=
        congrArg (Table.get · x.callback) hcallbacks
      obtain ⟨hrest, hrest'⟩ := ih (s.updateCallback x.callback Callback.count)
        (s'.updateCallback x.callback Callback.count) h hdirectory
        (congrArg (Table.update · x.callback Callback.count) hcallbacks)
      simp only [collected, polled, hrow, added_congr h hdirectory,
        answer?_congr hdirectory hcallbacks, hrest, hrest', and_self]

end Store

namespace Op

variable {s : Store}

/-- A sample gets to the SDK behind the end of the chain, if there is one. -/
theorem passes_record (hended : s.Ended) (i : InstrumentRef) (sample : Sample)
    (attributes : AttributeSet) : ∃ s', Op.record i sample attributes s = .ok () s' ∧
      Passes (s.given i sample attributes) [] s s' := by
  obtain ⟨e, he⟩ := hended i
  refine ⟨_, record_run he sample attributes, ?_⟩
  have hrow : (s.note (.sample i sample attributes)).instrument e = s.instrument e := rfl
  rw [Store.given, he, Store.accept]
  simp only [hrow]
  have hnoted := Passes.note s (.sample i sample attributes)
  cases (s.instrument e).destination with
  | nowhere => exact hnoted
  | log => exact hnoted.trans ⟨(List.append_nil _).symm, rfl, rfl, rfl, rfl, rfl⟩
  | deferred target => exact hnoted
  | sdk => exact hnoted.trans (.see _ rfl)

/-- A callback adds its samples, and halts at one for an instrument without a name. -/
theorem passes_addAll (hended : s.Ended) (additions : List Addition) :
    ∃ s', Passes (s.added additions) [] s s' ∧
      if s.Named additions then addAll additions s = .ok () s'
      else ∃ halt, addAll additions s = .error halt s' := by
  induction additions generalizing s with
  | nil =>
      refine ⟨s, .refl s, ?_⟩
      rw [if_pos (show s.Named [] from List.forall_mem_nil _)]
      rfl
  | cons a additions ih =>
      have hrun : addAll (a :: additions) s = ((do
          let i ← named Directory.instruments a.instrument
          record i.ref (.count a.value) a.attributes : Op Unit) >>= fun _ => addAll additions) s :=
        rfl
      rw [hrun]
      cases hname : s.directory.instruments.get? a.instrument with
      | none =>
          have hstops : named Directory.instruments a.instrument s =
              .error (.unnamed a.instrument) s := named_of_none hname
          refine ⟨s, by simpa only [Store.added, hname] using .refl s, ?_⟩
          rw [if_neg (by simp [Store.Named, hname])]
          exact ⟨_, bind_of_error (bind_of_error hstops)⟩
      | some i =>
          have hfound : named Directory.instruments a.instrument s = .ok i s := named_of_some hname
          obtain ⟨s₁, hrecord, hfirst⟩ := passes_record hended i.ref (.count a.value) a.attributes
          obtain ⟨s₂, hrest, hanswer⟩ := ih (hfirst.ended hended)
          rw [Store.added_congr hfirst.instruments hfirst.directory] at hrest
          have hnamed : s.Named (a :: additions) ↔ s₁.Named additions := by
            simp [Store.Named, hname, hfirst.directory]
          refine ⟨s₂, ?_, ?_⟩
          · simp only [Store.added, hname]
            exact hfirst.trans hrest
          · rw [bind_of_ok ((bind_of_ok hfound).trans hrecord)]
            simpa only [hnamed] using hanswer

/-- A call of a callback that is shown is no use of an SDK. -/
theorem passes_called {c : CallbackRef} {s' : Store} (h : Called c s s') : Passes [] [c] s s' := by
  have hseen : s'.uses = s.uses ∧ s'.shownRequests = s.shownRequests := by
    rw [Store.uses, Store.shownRequests, h.trace]
    cases (s.callback c).label with
    | none => exact ⟨rfl, rfl⟩
    | some label =>
        simp [Store.uses, Store.shownRequests, Event.isUse, Event.isRequest]
  refine ⟨hseen.1.trans (List.append_nil _).symm, hseen.2, h.callbacks, ?_, ?_, ?_⟩ <;> rw [h.rest]

/-- A callback is called: it adds its samples, and then it answers or halts. -/
theorem passes_poll (hended : s.Ended) (c : CallbackRef) :
    ∃ s', Passes (s.added (s.callback c).additions) [c] s s' ∧
      match s.answer? c with
      | some batch => poll c s = .ok batch s'
      | none => ∃ halt, poll c s = .error halt s' := by
  obtain ⟨s₁, hcalled, hpoll⟩ := exists_called c s
  have hready := passes_called hcalled
  obtain ⟨s₂, hadded, hall⟩ := passes_addAll (hready.ended hended) (s.callback c).additions
  rw [Store.added_congr hready.instruments hready.directory] at hadded
  have hsame : s₁.Named (s.callback c).additions ↔ s.Named (s.callback c).additions := by
    simp only [Store.Named, hready.directory]
  simp only [hsame] at hall
  refine ⟨s₂, hready.trans hadded, ?_⟩
  rw [hpoll, Store.answer?]
  by_cases hnamed : s.Named (s.callback c).additions
  · rw [if_pos hnamed] at hall ⊢
    rw [bind_of_ok hall, Callback.ready?]
    cases (s.callback c).feed (s.callback c).asked with
    | batch b => rfl
    | absent => rfl
    | panics payload => exact ⟨_, rfl⟩
  · rw [if_neg hnamed] at hall ⊢
    obtain ⟨halt, hall⟩ := hall
    exact ⟨halt, bind_of_error hall⟩

/-- An SDK reads a batch. -/
theorem passes_read (kept : SdkCallback) (batch : Batch) : ∃ s',
    batch.forM (fun x => see (x.observed kept)) s = .ok () s' ∧
      Passes (batch.map (Measurement.observed kept)) [] s s' := by
  induction batch generalizing s with
  | nil => exact ⟨s, rfl, .refl s⟩
  | cons x batch ih =>
      obtain ⟨s', hrun, hrest⟩ := ih (s := s.see (x.observed kept))
      exact ⟨s', hrun, (Passes.see s rfl).trans hrest⟩

/-- What an SDK does with one of the callbacks that it keeps. -/
def readFrom (kept : SdkCallback) : Op Unit := do
  let batch ← poll kept.callback
  batch.forM fun x => see (x.observed kept)

theorem collect_of_sdk {p : ProviderRef} {q : SdkProvider} (hq : s.provider p = .sdk q) :
    collect p s = q.callbacks.forM readFrom s := by
  rw [collect, bind_of_ok (get_run s), hq]
  rfl

/-- An SDK collects from the callbacks in `kept`. -/
theorem passes_readFrom (hended : s.Ended) (kept : List SdkCallback) :
    ∃ s', Passes (s.collected kept) (s.polled kept) s s' ∧ (kept.forM readFrom).left s = s' ∧
      ((∀ x ∈ kept, s.Willing x.callback) → kept.forM readFrom s = .ok () s') := by
  induction kept generalizing s with
  | nil => exact ⟨s, .refl s, rfl, fun _ => rfl⟩
  | cons x kept ih =>
      obtain ⟨s₁, hpolled, hanswer⟩ := passes_poll hended x.callback
      have hrun : (x :: kept).forM readFrom s =
          (readFrom x >>= fun _ => kept.forM readFrom) s := rfl
      simp only [Store.collected, Store.polled]
      cases hready : s.answer? x.callback with
      | none =>
          rw [hready] at hanswer
          obtain ⟨halt, hanswer⟩ := hanswer
          -- the callback halts, and the collection with it
          have hstops : (x :: kept).forM readFrom s = .error halt s₁ :=
            hrun.trans (bind_of_error (bind_of_error hanswer))
          refine ⟨s₁, by simpa using hpolled, left_of_error hstops, fun hwilling => ?_⟩
          have hanswers := (hwilling x List.mem_cons_self).answer?
          rw [hready] at hanswers
          cases hanswers
      | some batch =>
          rw [hready] at hanswer
          obtain ⟨s₂, hread, hreading⟩ := passes_read (s := s₁) x batch
          have hfirst := hpolled.trans hreading
          obtain ⟨s₃, hrest, hleft, hall⟩ := ih (hfirst.ended hended)
          have hgoes : (x :: kept).forM readFrom s = kept.forM readFrom s₂ :=
            hrun.trans (bind_of_ok ((bind_of_ok hanswer).trans hread))
          obtain ⟨hcollected, hcalled⟩ := Store.collected_congr
            (s.updateCallback x.callback Callback.count) s₂ hfirst.instruments hfirst.directory
            hfirst.callbacks kept
          -- of the first callback only the count of its calls matters for the others
          rw [hcollected, hcalled] at hrest
          refine ⟨s₃, ?_, ?_, fun hwilling => hgoes.trans (hall fun y hy => ?_)⟩
          · simpa using hfirst.trans hrest
          · rw [← hleft, left, left, hgoes]
          · exact (hwilling y (List.mem_cons_of_mem _ hy)).passes hfirst

end Op

end DeferredMetrics
