import DeferredMetrics.Proofs.Issuing

set_option autoImplicit false

/-! # What recording providers keep

A recording provider has every meter on its list that it has issued since the store `start`, once,
and such a meter has on its own list what each of its instruments was asked for by. `Store.Books`
says so, and is kept by every request, since a new object goes to the end of the list of the one
that issues it. -/

namespace DeferredMetrics

namespace Provider

/-- The provider keeps its meters and they keep what they get. -/
def isRecording : Provider → Bool
  | .recording _ => true
  | _ => false

theorem isRecording_of_freshBody {p p' : Provider} (h : p'.freshBody = p.freshBody) :
    p'.isRecording = p.isRecording := by
  cases p <;> cases p' <;> first | rfl | simp [freshBody] at h

theorem isRecording_serve (p : Provider) (x : Exchange) : (p.serve x).isRecording = p.isRecording :=
  isRecording_of_freshBody (freshBody_serve p x)

theorem exists_of_isRecording {p : Provider} (h : p.isRecording = true) : ∃ q, p = .recording q := by
  cases p with
  | recording q => exact ⟨q, rfl⟩
  | _ => cases h

theorem isDeferred_of_isRecording {p : Provider} (h : p.isRecording = true) :
    p.isDeferred = false := by
  cases p <;> simp_all [isRecording, isDeferred]

theorem meters_probed (p : Provider) : p.probed.meters = p.meters := by
  cases p with
  | recording q => cases hq : q.probe <;> simp [probed, hq, countCall, meters]
  | _ => rfl

theorem meters_serve_meter {p : Provider} (h : p.isRecording = true) (scope : Scope)
    (t : MeterRef) : (p.serve (.meter scope (.ok t))).meters = p.meters ++ [t] := by
  show (p.probed.hold t).meters = _
  rw [← meters_probed p]
  cases p with
  | recording q => cases hq : q.probe <;> simp [probed, hq, countCall, hold, meters]
  | _ => cases h

theorem meters_serve_instrument (p : Provider) (request : Request)
    (answer : Except Payload InstrumentRef) :
    (p.serve (.instrument request answer)).meters = p.meters := by
  cases answer with
  | error payload => exact meters_probed p
  | ok j =>
      refine Eq.trans ?_ (meters_probed p)
      show (p.probed.keepRequest request j).meters = _
      unfold keepRequest
      split
      · cases p.probed <;> rfl
      · rfl

end Provider

namespace Meter

theorem created_keepRequest {m : Meter} (h : m.freshDestination = .log) (request : Request)
    (j : InstrumentRef) : (m.keepRequest request j).log.created =
      m.log.created ++ [(request.kind, request.descriptor)] := by
  cases hm : m.body <;> simp_all [freshDestination, keepRequest, noteCreated, log]

end Meter

/-- The list has what satisfies `P` on it, each once. -/
structure Lists {α : Type} (l : List α) (P : α → Prop) : Prop where
  nodup : l.Nodup
  mem : ∀ x, x ∈ l ↔ P x

namespace Lists

variable {α : Type} {l : List α} {P P' : α → Prop}

theorem empty (h : ∀ x, ¬ P x) : Lists [] P :=
  ⟨List.nodup_nil, fun x => ⟨fun hx => absurd hx List.not_mem_nil, fun hx => absurd hx (h x)⟩⟩

theorem congr (h : Lists l P) (hsame : ∀ x, P' x ↔ P x) : Lists l P' :=
  ⟨h.nodup, fun x => (h.mem x).trans (hsame x).symm⟩

/-- One satisfies it more, and goes to the end of the list. -/
theorem push (h : Lists l P) {y : α} (hy : ¬ P y) (hmore : ∀ x, P' x ↔ x = y ∨ P x) :
    Lists (l ++ [y]) P' where
  nodup := by
    refine List.nodup_append.2 ⟨h.nodup, List.nodup_singleton y, ?_⟩
    rintro x hx z hz rfl
    exact hy (List.mem_singleton.1 hz ▸ (h.mem x).1 hx)
  mem x := by
    rw [List.mem_append, List.mem_singleton, h.mem, hmore]
    exact Or.comm

end Lists

/-- What recording providers have kept since `start`: their meters, and what these were asked for
by. -/
structure Store.Books (start s : Store) : Prop where
  meters : ∀ b, (s.provider b).isRecording = true →
    ∃ new, (s.provider b).meters = (start.provider b).meters ++ new ∧ Lists new fun t =>
      s.meters.Has t ∧ ¬ start.meters.Has t ∧ (s.meter t).issuer = some b
  created : ∀ t, s.meters.Has t → ¬ start.meters.Has t → (s.meter t).freshDestination = .log →
    ∃ js : List InstrumentRef, Lists js (fun j => s.instruments.Has j ∧
        ¬ start.instruments.Has j ∧ (s.instrument j).issuer = t) ∧
      (s.meter t).log.created =
        js.map fun j => ((s.instrument j).request.kind, (s.instrument j).request.descriptor)
  issuers : ∀ j, s.instruments.Has j → ¬ start.instruments.Has j →
    s.meters.Has (s.instrument j).issuer

namespace Store.Books

variable {start s s' : Store}

theorem refl (s : Store) : s.Books s where
  meters _ _ := ⟨[], (List.append_nil _).symm, .empty fun _ ht => ht.2.1 ht.1⟩
  created _ ht hnew := absurd ht hnew
  issuers _ hj hnew := absurd hj hnew

/-- Nothing is new, and no list gets longer. -/
theorem congr (h : start.Books s)
    (hproviders : ∀ b, (s'.provider b).isRecording = (s.provider b).isRecording ∧
      ((s.provider b).isRecording = true → (s'.provider b).meters = (s.provider b).meters))
    (hhas : ∀ t, s'.meters.Has t ↔ s.meters.Has t)
    (hmeters : ∀ t, (s'.meter t).issuer = (s.meter t).issuer ∧
      (s'.meter t).freshDestination = (s.meter t).freshDestination ∧
      (s'.meter t).log.created = (s.meter t).log.created)
    (hinstruments : s'.instruments = s.instruments) : start.Books s' := by
  have hinstrument : ∀ j, s'.instrument j = s.instrument j :=
    fun j => congrArg (Table.get · j) hinstruments
  refine ⟨fun b hb => ?_, fun t ht hnew hlog => ?_, fun j hj hnew => ?_⟩
  · rw [(hproviders b).1] at hb
    obtain ⟨new, hlist, hnew⟩ := h.meters b hb
    refine ⟨new, ((hproviders b).2 hb).trans hlist, hnew.congr fun t => ?_⟩
    rw [hhas, (hmeters t).1]
  · rw [(hmeters t).2.1] at hlog
    obtain ⟨js, hjs, hcreated⟩ := h.created t ((hhas t).1 ht) hnew hlog
    refine ⟨js, hjs.congr fun j => ?_, ?_⟩
    · rw [hinstruments, hinstrument]
    · simp only [(hmeters t).2.2, hcreated, hinstrument]
  · rw [hinstruments] at hj
    rw [hinstrument]
    exact (hhas _).2 (h.issuers j hj hnew)

theorem alike (h : start.Books s) (ha : Alike s s') : start.Books s' := by
  refine h.congr (fun b => ?_) ha.meters.has (fun t => ?_) ha.instruments
  · rw [ha.provider]
    exact ⟨rfl, fun _ => rfl⟩
  · exact ⟨(ha.meter t).issuer, (ha.meter t).freshDestination, (ha.meter t).created⟩

/-- A provider has issued a meter. -/
theorem askMeter {q e : ProviderRef} {scope : Scope} {t : MeterRef} (h : start.Books s)
    (hlater : Later start s) (hknown : s.providers.Has e)
    (hanswer : s.meterAnswer e scope = .ok t) : start.Books (s.askMeter q e scope) := by
  have hprovider := provider_askMeter_of_ok (q := q) hknown hanswer
  have hmeter := meter_askMeter_ite (q := q) hanswer
  have hhas := has_askMeter (q := q) hanswer
  have hinstruments := instruments_askMeter s q e scope
  have hinstrument : ∀ j, (s.askMeter q e scope).instrument j = s.instrument j :=
    fun j => congrArg (Table.get · j) hinstruments
  have ht := meterAnswer_eq_next s hanswer
  have hfresh : ¬ s.meters.Has t := fun hold => Table.ne_next_of_has hold ht
  have hunknown : ¬ start.meters.Has t := fun hold => hfresh (hlater.meters t hold).1
  refine ⟨fun b hb => ?_, fun k hk hnew hlog => ?_, fun j hj hnew => ?_⟩
  · have hrecording : (s.provider b).isRecording = true := by
      rw [hprovider] at hb
      split at hb
      · rwa [Provider.isRecording_serve] at hb
      · exact hb
    obtain ⟨new, hlist, hlisted⟩ := h.meters b hrecording
    -- the new meter is one more of the provider that has issued it
    have hmore : ∀ k, ((s.askMeter q e scope).meters.Has k ∧ ¬ start.meters.Has k ∧
          ((s.askMeter q e scope).meter k).issuer = some b) ↔
        (k = t ∧ e = b) ∨
          (s.meters.Has k ∧ ¬ start.meters.Has k ∧ (s.meter k).issuer = some b) := by
      intro k
      rw [hhas, hmeter]
      by_cases hk : k = t
      · simp [hk, hfresh, hunknown]
      · simp [hk]
    have hnot : ¬ (s.meters.Has t ∧ ¬ start.meters.Has t ∧ (s.meter t).issuer = some b) :=
      fun ht => hfresh ht.1
    rw [hprovider]
    by_cases hbe : b = e
    · rw [if_pos hbe, Provider.meters_serve_meter hrecording, hlist, List.append_assoc]
      exact ⟨new ++ [t], rfl, hlisted.push hnot fun k => (hmore k).trans (by simp [hbe])⟩
    · rw [if_neg hbe]
      exact ⟨new, hlist, hlisted.congr fun k => (hmore k).trans (by simp [Ne.symm hbe])⟩
  · have hrow := hmeter k
    rcases (hhas k).1 hk with hold | rfl
    · rw [if_neg fun heq : k = t => hfresh (heq ▸ hold)] at hrow
      rw [hrow] at hlog
      obtain ⟨js, hjs, hcreated⟩ := h.created k hold hnew hlog
      refine ⟨js, hjs.congr fun j => ?_, ?_⟩
      · rw [hinstruments, hinstrument]
      · simp only [hrow, hcreated, hinstrument]
    · -- no instrument has the new meter as its issuer
      refine ⟨[], .empty ?_, ?_⟩
      · rintro j ⟨hj, hjnew, hissuer⟩
        rw [hinstruments] at hj
        rw [hinstrument] at hissuer
        exact hfresh (hissuer ▸ h.issuers j hj hjnew)
      · rw [hrow, if_pos rfl]
        cases s.provider e <;> rfl
  · rw [hinstruments] at hj
    rw [hinstrument]
    exact (hhas _).2 (.inl (h.issuers j hj hnew))

/-- A meter has issued an instrument. -/
theorem issued {t : MeterRef} {request : Request} {i? : Option InstrumentRef} (h : start.Books s)
    (hlater : Later start s) (hknown : s.meters.Has t) (hi : s.Issued s' t request i?) :
    start.Books s' := by
  have hfresh : ¬ s.instruments.Has s.instruments.next :=
    fun hhas => Table.ne_next_of_has hhas rfl
  have hunknown : ¬ start.instruments.Has s.instruments.next :=
    fun hold => hfresh (hlater.instruments _ hold).1
  have hnext := hi.instrument_next
  refine ⟨fun b hb => ?_, fun k hk hnew hlog => ?_, fun j hj hnew => ?_⟩
  · have hsame : (s'.provider b).isRecording = (s.provider b).isRecording ∧
        (s'.provider b).meters = (s.provider b).meters := by
      rcases hi.provider_eq b with heq | ⟨answer, heq⟩ <;> rw [heq]
      · exact ⟨rfl, rfl⟩
      · exact ⟨Provider.isRecording_serve _ _, Provider.meters_serve_instrument _ _ _⟩
    rw [hsame.1] at hb
    obtain ⟨new, hlist, hlisted⟩ := h.meters b hb
    refine ⟨new, hsame.2.trans hlist, hlisted.congr fun k => ?_⟩
    rw [hi.has_meter, (hi.like_meter k).issuer]
  · rw [hi.has_meter] at hk
    rw [hi.freshDestination_meter] at hlog
    obtain ⟨js, hjs, hcreated⟩ := h.created k hk hnew hlog
    -- the new instrument is one more of the meter that has issued it
    have hmore : ∀ j, (s'.instruments.Has j ∧ ¬ start.instruments.Has j ∧
          (s'.instrument j).issuer = k) ↔
        (j = s.instruments.next ∧ t = k) ∨
          (s.instruments.Has j ∧ ¬ start.instruments.Has j ∧ (s.instrument j).issuer = k) := by
      intro j
      rw [hi.has_instrument]
      by_cases hj : j = s.instruments.next
      · simp [hj, hnext, hfresh, hunknown]
      · by_cases hold : s.instruments.Has j
        · simp [hj, hold, (hi.instrument_kept hold).2]
        · simp [hj, hold]
    have hkept : (js.map fun j =>
          ((s'.instrument j).request.kind, (s'.instrument j).request.descriptor)) =
        js.map fun j => ((s.instrument j).request.kind, (s.instrument j).request.descriptor) := by
      refine List.map_congr_left fun j hj => ?_
      rw [(hi.instrument_kept ((hjs.mem j).1 hj).1).1]
    by_cases hkt : k = t
    · have hrow : s'.meter k = (s.meter k).keepRequest request s.instruments.next := by
        rw [Store.meter, hi.meters, hkt]
        exact Table.get_update_self _ _ hknown
      refine ⟨js ++ [s.instruments.next],
        hjs.push (fun hj => hfresh hj.1) fun j => (hmore j).trans (by simp [hkt]), ?_⟩
      rw [hrow, Meter.created_keepRequest hlog, hcreated, List.map_append, hkept]
      simp [hnext]
    · have hrow : s'.meter k = s.meter k :=
        (hi.meter_eq k).resolve_right fun hboth => hkt hboth.1
      refine ⟨js, hjs.congr fun j => (hmore j).trans (by simp [Ne.symm hkt]), ?_⟩
      rw [hrow, hcreated, hkept]
  · rcases (hi.has_instrument j).1 hj with hj | rfl
    · rw [(hi.instrument_kept hj).2]
      exact (hi.has_meter _).2 (h.issuers j hj hnew)
    · rw [hnext]
      exact (hi.has_meter t).2 hknown

end Store.Books

end DeferredMetrics
