import DeferredMetrics.Proofs.Aside
import DeferredMetrics.Proofs.Chains
import DeferredMetrics.Proofs.Later

set_option autoImplicit false

/-! # Sound stores

What holds of the objects of every run. A meter is of the kind that its issuer issues
(`MeterTree`); what stands on the list of a deferred node was issued by it, once, and is unbound as
long as the node is (`MeterTree`, `InstrumentTree`); a deferred meter is bound to what a call with
its own scope has returned, and was told so once (`Bindings`); every registration has a deferred
provider for itself (`Owners`); names mean something (`Names`). While the instruments of a meter
are being bound, the meter is *open*: they are bound one after the other, and it is not yet.
`SoundBut o` says that everything holds but what the open meter `o` is an exception to. -/

namespace DeferredMetrics

namespace Provider

/-- The meters that a deferred provider has issued itself. -/
def issued : Provider → List MeterRef
  | .deferred q => q.meters
  | _ => []

/-- The provider waits for a target or has one. -/
def isDeferred : Provider → Bool
  | .deferred _ => true
  | _ => false

end Provider

namespace MeterBody

/-- The meter waits for a target or has one. -/
def isDeferred : MeterBody → Bool
  | .deferred _ => true
  | _ => false

end MeterBody

namespace Destination

/-- The instrument waits for a target or has one. -/
def isDeferred : Destination → Bool
  | .deferred _ => true
  | _ => false

end Destination

/-- Meters stand where they were issued, and wait where their issuer waits. -/
structure MeterTree (providers : Table .provider Provider)
    (meters : Table .meter Meter) : Prop where
  fits : ∀ m e, (meters.get m).issuer = some e →
    providers.Has e ∧ (providers.get e).Fits (meters.get m).body
  alone : ∀ m, (meters.get m).issuer = none → (meters.get m).body.isDeferred = false
  nodup : ∀ p, (providers.get p).issued.Nodup
  issued : ∀ p, ∀ m ∈ (providers.get p).issued, meters.Has m ∧ (meters.get m).issuer = some p
  waiting : ∀ p, ∀ m ∈ (providers.get p).issued, (providers.get p).target? = none →
    (meters.get m).target? = none

/-- Instruments stand where they were issued, and wait where their issuer waits, unless that is the
open meter. -/
structure InstrumentTree (o : Option MeterRef) (meters : Table .meter Meter)
    (instruments : Table .instrument Instrument) : Prop where
  nodup : ∀ m, (meters.get m).instruments.Nodup
  issued : ∀ m, ∀ i ∈ (meters.get m).instruments, instruments.Has i ∧
    (instruments.get i).issuer = m ∧ (instruments.get i).destination.isDeferred = true
  waiting : ∀ m, ∀ i ∈ (meters.get m).instruments, (meters.get m).target? = none → o ≠ some m →
    (instruments.get i).target? = none

namespace Store

/-- The meter `m` was told once that `t` is its target, right after a provider `p`, the target of
the provider that issued `m`, had returned `t` from a call with the scope of `m`. The meter `t` was
issued by the end of the chain from `p`. -/
structure MadeFor (s : Store) (m t : MeterRef) : Prop where
  known : s.meters.Has t
  order : m.place < t.place
  scope : (s.meter t).scope = (s.meter m).scope
  history : ∃ d p e before later, (s.meter m).issuer = some d ∧
    (s.provider d).target? = some p ∧ (s.meter t).issuer = some e ∧ s.HandsOn p e ∧
    s.calls.toList = before ++ .meter p (s.meter m).scope :: .meterReturned t :: .bindMeter m t ::
      later ∧
    ∀ t', Call.bindMeter m t' ∉ before ∧ Call.bindMeter m t' ∉ later

end Store

/-- Every target is known, and the targets of meters have been made for them. -/
structure Bindings (o : Option (MeterRef × MeterRef)) (s : Store) : Prop where
  known : ∀ p t, (s.provider p).target? = some t → s.providers.Has t
  made : ∀ m t, (s.meter m).target? = some t ∨ o = some (m, t) → s.MadeFor m t
  told : ∀ m t, Call.bindMeter m t ∈ s.calls.toList →
    (s.meter m).target? = some t ∨ o = some (m, t)

/-- Every registration has a deferred provider for itself. -/
structure Owners (providers : Table .provider Provider)
    (registrations : Table .registration Registration) : Prop where
  known : ∀ r, registrations.Has r → providers.Has (registrations.get r).deferred
  deferred : ∀ r, registrations.Has r →
    (providers.get (registrations.get r).deferred).isDeferred = true
  distinct : ∀ r r', registrations.Has r → registrations.Has r' →
    (registrations.get r).deferred = (registrations.get r').deferred → r = r'
  slots : ∀ r p, (registrations.get r).provider = some p → providers.Has p

/-- The names of providers and registrations mean something. -/
structure Names (s : Store) : Prop where
  providers : ∀ name q, s.directory.providers.get? name = some q → s.providers.Has q.ref
  registrations : ∀ name r, s.directory.registrations.get? name = some r → s.registrations.Has r

/-- Everything holds that holds of the objects of every run, with the exception of what is open. -/
structure SoundBut (o : Option (MeterRef × MeterRef)) (s : Store) : Prop where
  tree : MeterTree s.providers s.meters
  instruments : InstrumentTree (o.map Prod.fst) s.meters s.instruments
  bindings : Bindings o s
  owners : Owners s.providers s.registrations
  names : Names s

/-- Everything holds that holds of the objects of every run. -/
abbrev Sound (s : Store) : Prop := SoundBut none s

/-! ## Changes that do not matter -/

namespace Table

variable {k : ObjectKind} {α : Type} [Inhabited α]

/-- The same objects are there, each related to what it was. -/
structure Like (R : α → α → Prop) (t t' : Table k α) : Prop where
  has : ∀ r, t'.Has r ↔ t.Has r
  rows : ∀ r, R (t.get r) (t'.get r)

namespace Like

variable {R : α → α → Prop} {t : Table k α}

theorem refl (hR : ∀ x, R x x) (t : Table k α) : Like R t t := ⟨fun _ => .rfl, fun _ => hR _⟩

theorem update (hR : ∀ x, R x x) {f : α → α} {r : Ref k} (h : R (t.get r) (f (t.get r))) :
    Like R t (t.update r f) := by
  refine ⟨fun r' => has_update t r r' f, fun r' => ?_⟩
  rw [get_update]
  split
  · rename_i heq
    rw [heq.1]
    exact h
  · exact hR _

end Like

end Table

/-- The provider `p'` differs from `p` in nothing that soundness speaks of. -/
structure Provider.Like (p p' : Provider) : Prop where
  freshBody : p'.freshBody = p.freshBody
  target : p'.target? = p.target?
  issued : p'.issued = p.issued

/-- The meter `m'` differs from `m` in nothing that soundness speaks of, but perhaps in its
instruments. -/
structure Meter.Like (m m' : Meter) : Prop where
  issuer : m'.issuer = m.issuer
  target : m'.target? = m.target?
  deferred : m'.body.isDeferred = m.body.isDeferred
  fits : ∀ p : Provider, p.Fits m.body → p.Fits m'.body

/-- The registration `o'` differs from `o` in nothing that soundness speaks of. -/
structure Registration.Like (o o' : Registration) : Prop where
  deferred : o'.deferred = o.deferred
  provider : o'.provider = o.provider

namespace Provider

theorem Like.refl (p : Provider) : p.Like p := ⟨rfl, rfl, rfl⟩

theorem fits_of_freshBody {p p' : Provider} {body : MeterBody} (h : p'.freshBody = p.freshBody)
    (hfits : p.Fits body) : p'.Fits body := by
  cases hfits <;> cases p' <;> first | constructor | simp [freshBody] at h

theorem isDeferred_of_freshBody {p p' : Provider} (h : p'.freshBody = p.freshBody) :
    p'.isDeferred = p.isDeferred := by
  cases p <;> cases p' <;> first | rfl | simp [freshBody] at h

theorem like_probed (p : Provider) : p.Like p.probed := by
  refine ⟨(grows_probed p).freshBody, target?_probed p, ?_⟩
  cases p with
  | recording q => cases hq : q.probe <;> simp [probed, hq, countCall, issued]
  | _ => rfl

theorem like_keepRequest (p : Provider) (request : Request) (j : InstrumentRef) :
    p.Like (p.keepRequest request j) := by
  refine ⟨(grows_keepRequest p request j).freshBody, target?_keepRequest p request j, ?_⟩
  unfold keepRequest
  cases request.callback with
  | none => rfl
  | some c => cases p <;> rfl

theorem issued_hold (p : Provider) (m : MeterRef) :
    (p.hold m).issued = p.issued ∨ (p.hold m).issued = p.issued ++ [m] := by
  cases p <;> simp [hold, issued]

theorem mem_issued_hold {p : Provider} {m k : MeterRef} (h : k ∈ (p.hold m).issued) :
    k ∈ p.issued ∨ k = m := by
  rcases issued_hold p m with heq | heq
  · exact .inl (heq ▸ h)
  · rwa [heq, List.mem_append, List.mem_singleton] at h

theorem nodup_issued_hold {p : Provider} {m : MeterRef} (h : p.issued.Nodup)
    (hnew : m ∉ p.issued) : (p.hold m).issued.Nodup := by
  rcases issued_hold p m with heq | heq
  · exact heq ▸ h
  · rw [heq, ← List.concat_eq_append]
    exact h.concat hnew

theorem isDeferred_of_fits {p : Provider} {body : MeterBody} (h : p.Fits body) :
    body.isDeferred = p.isDeferred := by
  cases h <;> rfl

end Provider

namespace Meter

theorem Like.refl (m : Meter) : m.Like m := ⟨rfl, rfl, rfl, fun _ h => h⟩

theorem isDeferred_of_fits {p : Provider} {m m' : Meter} (h : p.Fits m.body) (h' : p.Fits m'.body) :
    m'.body.isDeferred = m.body.isDeferred :=
  (Provider.isDeferred_of_fits h').trans (Provider.isDeferred_of_fits h).symm

/-- A meter that is not deferred has no target, and keeps no instruments that wait for one. -/
theorem alone_of_isDeferred {m : Meter} (h : m.body.isDeferred = false) :
    m.instruments = [] ∧ m.target? = none := by
  unfold instruments target?
  cases hm : m.body <;> simp_all [MeterBody.isDeferred]

/-- A meter has a kind, even if nobody has issued it. -/
theorem exists_fits (m : Meter) : ∃ p : Provider, p.Fits m.body := by
  cases m.body with
  | noop => exact ⟨_, .noop⟩
  | recording r => exact ⟨_, .recording ⟨none, 0, []⟩ r⟩
  | deferred d => exact ⟨_, .deferred ⟨none, []⟩ d⟩
  | sdk => exact ⟨_, .sdk ⟨"", fun _ => none, []⟩⟩

theorem like_keepRequest (m : Meter) (request : Request) (j : InstrumentRef) :
    m.Like (m.keepRequest request j) := by
  obtain ⟨p, hp⟩ := m.exists_fits
  refine ⟨issuer_keepRequest m request j, target?_keepRequest m request j, ?_,
    fun p hp => fits_keepRequest request j hp⟩
  exact isDeferred_of_fits hp (fits_keepRequest request j hp)

theorem like_take (m : Meter) (request : Request) (answer : Except Payload InstrumentRef) :
    m.Like (m.take request answer) := by
  cases answer with
  | ok j => exact like_keepRequest m request j
  | error payload => exact .refl m

theorem instruments_keepRequest (m : Meter) (request : Request) (j : InstrumentRef) :
    (m.keepRequest request j).instruments = m.instruments ∨
      m.body.isDeferred = true ∧
        (m.keepRequest request j).instruments = m.instruments ++ [j] := by
  cases hm : m.body <;>
    simp [keepRequest, hm, noteCreated, hold, instruments, MeterBody.isDeferred]

theorem mem_instruments_keepRequest {m : Meter} {request : Request} {i j : InstrumentRef}
    (h : i ∈ (m.keepRequest request j).instruments) :
    i ∈ m.instruments ∨ m.body.isDeferred = true ∧ i = j := by
  rcases instruments_keepRequest m request j with heq | ⟨hdeferred, heq⟩
  · exact .inl (heq ▸ h)
  · rw [heq, List.mem_append, List.mem_singleton] at h
    exact h.imp_right fun hi => ⟨hdeferred, hi⟩

theorem nodup_instruments_keepRequest {m : Meter} {j : InstrumentRef} (request : Request)
    (h : m.instruments.Nodup) (hnew : j ∉ m.instruments) :
    (m.keepRequest request j).instruments.Nodup := by
  rcases instruments_keepRequest m request j with heq | ⟨_, heq⟩
  · exact heq ▸ h
  · rw [heq, ← List.concat_eq_append]
    exact h.concat hnew

theorem fits_keep {p : Provider} {m : Meter} (events : List Recorded) (h : p.Fits m.body) :
    p.Fits (m.keep events).body := by
  unfold keep
  split
  · rename_i hm
    rw [hm] at h
    cases h
    constructor
  · exact h

theorem like_keep (m : Meter) (events : List Recorded) : m.Like (m.keep events) := by
  obtain ⟨p, hp⟩ := m.exists_fits
  refine ⟨(grows_keep m events).issuer, ?_, isDeferred_of_fits hp (fits_keep events hp),
    fun p hp => fits_keep events hp⟩
  unfold keep
  split
  · rename_i hm
    simp [target?, hm]
  · rfl

theorem instruments_keep (m : Meter) (events : List Recorded) :
    (m.keep events).instruments = m.instruments := by
  unfold keep
  split
  · rename_i hm
    simp [instruments, hm]
  · rfl

end Meter

theorem Registration.Like.refl (o : Registration) : o.Like o := ⟨rfl, rfl⟩

theorem Registration.likes (registrations : Table .registration Registration) :
    registrations.Like Registration.Like registrations := .refl Registration.Like.refl _

theorem MeterTree.like {providers providers' : Table .provider Provider}
    {meters meters' : Table .meter Meter} (h : MeterTree providers meters)
    (hp : providers.Like Provider.Like providers') (hm : meters.Like Meter.Like meters') :
    MeterTree providers' meters' := by
  constructor
  case fits =>
    intro m e he
    rw [(hm.rows m).issuer] at he
    obtain ⟨hhas, hfits⟩ := h.fits m e he
    exact ⟨(hp.has e).2 hhas,
      (hm.rows m).fits _ (Provider.fits_of_freshBody (hp.rows e).freshBody hfits)⟩
  case alone =>
    intro m hnone
    rw [(hm.rows m).issuer] at hnone
    rw [(hm.rows m).deferred]
    exact h.alone m hnone
  case nodup =>
    intro p
    rw [(hp.rows p).issued]
    exact h.nodup p
  case issued =>
    intro p m hmem
    rw [(hp.rows p).issued] at hmem
    rw [(hm.rows m).issuer, hm.has]
    exact h.issued p m hmem
  case waiting =>
    intro p m hmem hnone
    rw [(hp.rows p).issued] at hmem
    rw [(hp.rows p).target] at hnone
    rw [(hm.rows m).target]
    exact h.waiting p m hmem hnone

theorem InstrumentTree.like {o : Option MeterRef} {meters meters' : Table .meter Meter}
    {instruments : Table .instrument Instrument} (h : InstrumentTree o meters instruments)
    (hm : meters.Like Meter.Like meters')
    (hi : ∀ m, (meters'.get m).instruments = (meters.get m).instruments) :
    InstrumentTree o meters' instruments := by
  constructor
  case nodup =>
    intro m
    rw [hi]
    exact h.nodup m
  case issued =>
    intro m i hmem
    rw [hi] at hmem
    exact h.issued m i hmem
  case waiting =>
    intro m i hmem hnone
    rw [hi] at hmem
    rw [(hm.rows m).target] at hnone
    exact h.waiting m i hmem hnone

/-- Registrations keep their deferred providers while providers grow. -/
theorem Owners.later {providers providers' : Table .provider Provider}
    {registrations registrations' : Table .registration Registration}
    (h : Owners providers registrations) (hp : providers.Grows Provider.Grows providers')
    (hr : registrations.Like Registration.Like registrations') :
    Owners providers' registrations' := by
  constructor
  case known =>
    intro r hhas
    rw [(hr.rows r).deferred]
    exact (hp _ (h.known r ((hr.has r).1 hhas))).1
  case deferred =>
    intro r hhas
    have hgrows := (hp _ (h.known r ((hr.has r).1 hhas))).2
    rw [(hr.rows r).deferred, Provider.isDeferred_of_freshBody hgrows.freshBody]
    exact h.deferred r ((hr.has r).1 hhas)
  case distinct =>
    intro r r' hhas hhas' heq
    rw [(hr.rows r).deferred, (hr.rows r').deferred] at heq
    exact h.distinct r r' ((hr.has r).1 hhas) ((hr.has r').1 hhas') heq
  case slots =>
    intro r p hslot
    rw [(hr.rows r).provider] at hslot
    exact (hp _ (h.slots r p hslot)).1

end DeferredMetrics
