import DeferredMetrics.Proofs.Registering
import DeferredMetrics.Proofs.Waiting

set_option autoImplicit false

/-! # Families of registrations

A registration may take the deferred provider of another one, so that deferred providers stand in
chains. `Family.Runs` says what callers can do with registrations that are connected in this way,
in any order: offer each of them its provider, get meters from them and instruments from the meters,
record and observe. `Family.Keeps` holds of every store that they leave (`Family.keeps_of_runs`). -/

namespace DeferredMetrics

open Relation (ReflTransGen TransGen)

/-- Some registrations, and the provider that each of them is to take. -/
structure Family where
  members : RegistrationRef → Prop
  plan : RegistrationRef → ProviderRef

/-- The provider `b` records and refuses nothing. -/
structure Store.Records (s : Store) (b : ProviderRef) : Prop where
  known : s.providers.Has b
  recording : (s.provider b).isRecording = true
  willing : ∀ n ask, (s.provider b).refusal n ask = none

/-- What has been done with a family: which registrations have taken their provider, which providers
callers have seen in which registration, the meters that they hold with the registration and the
scope that they have asked, and the instruments with the meter and the request. -/
structure Account where
  made : RegistrationRef → Bool
  providers : ProviderRef → RegistrationRef → Prop
  meters : MeterRef → RegistrationRef → Scope → Prop
  instruments : InstrumentRef → MeterRef → Request → Prop

namespace Account

/-- The registration `r` has taken its provider. -/
def make (a : Account) (r : RegistrationRef) : Account :=
  { a with made := fun x => decide (x = r) || a.made x }

/-- A caller has seen the provider `q` in the registration `r`. -/
def addProvider (a : Account) (q : ProviderRef) (r : RegistrationRef) : Account :=
  { a with providers := fun x o => x = q ∧ o = r ∨ a.providers x o }

/-- A caller has got the meter `m` from the registration `r`. -/
def addMeter (a : Account) (m : MeterRef) (r : RegistrationRef) (scope : Scope) : Account :=
  { a with meters := fun x o y => (x = m ∧ o = r ∧ y = scope) ∨ a.meters x o y }

/-- A caller has got the instrument `i` from the meter `m`. -/
def addInstrument (a : Account) (i : InstrumentRef) (m : MeterRef) (request : Request) : Account :=
  { a with instruments := fun x o y => (x = i ∧ o = m ∧ y = request) ∨ a.instruments x o y }

/-- The handles that callers hold. -/
def kin (a : Account) : Kin where
  meters m := ∃ r scope, a.meters m r scope
  instruments i := ∃ m request, a.instruments i m request

theorem made_make (a : Account) (r x : RegistrationRef) :
    (a.make r).made x = if x = r then true else a.made x := by
  by_cases hx : x = r <;> simp [make, hx]

theorem kin_addMeter (a : Account) (m : MeterRef) (r : RegistrationRef) (scope : Scope) :
    (a.addMeter m r scope).kin = a.kin.addMeter m :=
  congrArg (Kin.mk · a.kin.instruments) (funext fun x => propext (Kin.exists_row_iff x))

theorem kin_addInstrument (a : Account) (i : InstrumentRef) (m : MeterRef) (request : Request) :
    (a.addInstrument i m request).kin = a.kin.addInstrument i :=
  congrArg (Kin.mk a.kin.meters) (funext fun x => propext (Kin.exists_row_iff x))

end Account

namespace Family

/-- The registration `r` is to take the deferred provider of the registration `r'`. -/
def Links (F : Family) (s : Store) (r r' : RegistrationRef) : Prop :=
  F.members r ∧ F.members r' ∧ F.plan r = (s.registration r').deferred

/-- The registrations of the family have no provider and find none. Each is to take the deferred
provider of another or a recording provider, and nothing is circular. -/
structure Waits (F : Family) (s : Store) : Prop where
  reachable : Reachable s
  known : ∀ r, F.members r → s.registrations.Has r
  waiting : ∀ r, F.members r → (s.provider (s.registration r).deferred).target? = none
  idle : ∀ r, F.members r → s.NamesNone r
  planned : ∀ r, F.members r → (∃ r', F.Links s r r') ∨ s.Records (F.plan r)
  acyclic : ∀ r, ¬ TransGen (F.Links s) r r

/-- Callers begin with what the deferred providers have issued. -/
def account (F : Family) (s : Store) : Account where
  made _ := false
  providers q r := F.members r ∧ q = (s.registration r).deferred
  meters m r scope := F.members r ∧ m ∈ (s.provider (s.registration r).deferred).meters ∧
    scope = (s.meter m).scope
  instruments i m request :=
    (∃ r, F.members r ∧ m ∈ (s.provider (s.registration r).deferred).meters) ∧
      i ∈ (s.meter m).instruments ∧ request = (s.instrument i).request

/-- What callers can do, in any order. -/
inductive Runs (F : Family) (start : Store) : Account → Store → Prop where
  | start : F.Runs start (F.account start) start
  /-- The registration is offered its provider. -/
  | setProvider {a : Account} {s s' : Store} {r : RegistrationRef} {installed : Bool}
      (h : F.Runs start a s) (hr : F.members r)
      (hrun : Op.setProvider r (F.plan r) s = .ok installed s') : F.Runs start (a.make r) s'
  /-- A caller looks for the provider in effect. -/
  | getProvider {a : Account} {s s' : Store} {r : RegistrationRef} {q : ProviderRef} (depth : Nat)
      (h : F.Runs start a s) (hr : F.members r)
      (hrun : Op.getProvider depth r s = .ok (.ok q) s') : F.Runs start (a.addProvider q r) s'
  /-- A provider that was seen is asked for a meter. -/
  | requestMeter {a : Account} {s s' : Store} {r : RegistrationRef} {q : ProviderRef}
      {m : MeterRef} (scope : Scope) (h : F.Runs start a s) (hq : a.providers q r)
      (hrun : Op.requestMeter q scope s = .ok m s') : F.Runs start (a.addMeter m r scope) s'
  /-- A meter is asked for an instrument. -/
  | requestInstrument {a : Account} {s s' : Store} {r : RegistrationRef} {scope : Scope}
      {m : MeterRef} {i : InstrumentRef} (request : Request) (h : F.Runs start a s)
      (hm : a.meters m r scope) (hrun : Op.requestInstrument m request s = .ok i s') :
      F.Runs start (a.addInstrument i m request) s'
  | record {a : Account} {s : Store} {m : MeterRef} {request : Request} {i : InstrumentRef}
      (sample : Sample) (attributes : AttributeSet) (h : F.Runs start a s)
      (hi : a.instruments i m request) : F.Runs start a ((Op.record i sample attributes).left s)
  | observe {a : Account} {s : Store} {m : MeterRef} {request : Request} {i : InstrumentRef}
      (h : F.Runs start a s) (hi : a.instruments i m request) :
      F.Runs start a ((Op.observe i).left s)

/-- To get a meter from a registration is to look for its provider and to ask that. -/
theorem Runs.getMeter {F : Family} {start s s' : Store} {a : Account} {r : RegistrationRef}
    {m : MeterRef} {scope : Scope} (depth : Nat) (h : F.Runs start a s) (hr : F.members r)
    (hrun : Op.getMeter depth r scope s = .ok (.ok m) s') :
    ∃ q, F.Runs start ((a.addProvider q r).addMeter m r scope) s' := by
  rw [Op.getMeter, Op.bind_run] at hrun
  cases hfound : Op.getProvider depth r s with
  | error halt s₁ =>
      rw [hfound] at hrun
      cases hrun
  | ok answer s₁ =>
      rw [hfound] at hrun
      cases answer with
      | error e => cases hrun
      | ok q =>
          simp only [Op.bind_run] at hrun
          cases hasked : Op.requestMeter q scope s₁ with
          | error halt s₂ =>
              rw [hasked] at hrun
              cases hrun
          | ok x s₂ =>
              rw [hasked] at hrun
              cases hrun
              have hseen := Runs.getProvider depth h hr hfound
              exact ⟨q, hseen.requestMeter scope (.inl ⟨rfl, rfl⟩) hasked⟩

/-! ## What holds of every run -/

/-- The providers of a family. -/
def Houses (F : Family) (s : Store) (q : ProviderRef) : Prop :=
  ∃ r, F.members r ∧ (q = (s.registration r).deferred ∨ q = F.plan r)

end Family

/-- What callers hold comes from where they have got it. -/
structure Account.Holds (F : Family) (start : Store) (a : Account) (s : Store) : Prop where
  providers : ∀ q r, a.providers q r →
    F.members r ∧ s.HandsOn (start.registration r).deferred q
  meters : ∀ m r scope, a.meters m r scope → F.members r ∧ (s.meter m).scope = scope ∧
    ∃ q, (s.meter m).issuer = some q ∧ s.HandsOn (start.registration r).deferred q
  instruments : ∀ i m request, a.instruments i m request → (∃ r scope, a.meters m r scope) ∧
    s.instruments.Has i ∧ (s.instrument i).request = request ∧
    Leads (fun x => (s.meter x).target?) m (s.instrument i).issuer

/-- What all that is done with a family keeps. -/
structure Family.Keeps (F : Family) (start : Store) (a : Account) (s : Store) : Prop where
  family : ∃ own, Lineage (F.Houses start) start a.kin own .nothing s
  holds : a.Holds F start s
  slots : ∀ r, F.members r →
    (s.registration r).provider = if a.made r then some (F.plan r) else none
  gates : ∀ r, F.members r → (s.gate r).fired = a.made r
  targets : ∀ r, F.members r → (s.provider (start.registration r).deferred).target? =
    if a.made r then some (F.plan r) else none
  idle : ∀ r, F.members r → s.NamesNone r

namespace Account.Holds

variable {F : Family} {start s s' : Store} {a : Account}

theorem later (h : a.Holds F start s) (hlater : Later s s') : a.Holds F start s' where
  providers q r hq := by
    obtain ⟨hr, hlead⟩ := h.providers q r hq
    exact ⟨hr, Store.handsOn_later hlead hlater⟩
  meters m r scope hm := by
    obtain ⟨hr, hscope, q, hq, hlead⟩ := h.meters m r scope hm
    have hgrows := hlater.meter (Store.has_of_meterIssuer hq)
    exact ⟨hr, hgrows.scope.trans hscope, q, hgrows.issuer.trans hq,
      Store.handsOn_later hlead hlater⟩
  instruments i m request hi := by
    obtain ⟨hm, hknown, hrequest, hlead⟩ := h.instruments i m request hi
    exact ⟨hm, Store.instrument_later hlater hknown hrequest hlead⟩

theorem make (h : a.Holds F start s) (r : RegistrationRef) : (a.make r).Holds F start s :=
  ⟨h.providers, h.meters, h.instruments⟩

theorem addProvider (h : a.Holds F start s) {q : ProviderRef} {r : RegistrationRef}
    (hr : F.members r) (hlead : s.HandsOn (start.registration r).deferred q) :
    (a.addProvider q r).Holds F start s where
  providers x o hx := by
    rcases hx with ⟨rfl, rfl⟩ | hx
    · exact ⟨hr, hlead⟩
    · exact h.providers x o hx
  meters := h.meters
  instruments := h.instruments

theorem addMeter (h : a.Holds F start s) {m : MeterRef} {r : RegistrationRef} {q : ProviderRef}
    (hr : F.members r) (hq : (s.meter m).issuer = some q)
    (hlead : s.HandsOn (start.registration r).deferred q) :
    (a.addMeter m r (s.meter m).scope).Holds F start s where
  providers := h.providers
  meters x o scope hx := by
    rcases hx with ⟨rfl, rfl, rfl⟩ | hx
    · exact ⟨hr, rfl, q, hq, hlead⟩
    · exact h.meters x o scope hx
  instruments i m request hi := by
    obtain ⟨⟨o, scope, hm⟩, hrest⟩ := h.instruments i m request hi
    exact ⟨⟨o, scope, .inr hm⟩, hrest⟩

theorem addInstrument (h : a.Holds F start s) {i : InstrumentRef} {m : MeterRef}
    (hm : ∃ r scope, a.meters m r scope) (hknown : s.instruments.Has i)
    (hlead : Leads (fun x => (s.meter x).target?) m (s.instrument i).issuer) :
    (a.addInstrument i m (s.instrument i).request).Holds F start s where
  providers := h.providers
  meters := h.meters
  instruments k o request hk := by
    rcases hk with ⟨rfl, rfl, rfl⟩ | hk
    · exact ⟨hm, hknown, rfl, hlead⟩
    · exact h.instruments k o request hk

end Account.Holds

namespace Family

variable {F : Family} {start s s' : Store} {a a' : Account}

theorem Waits.records (hstart : F.Waits start) {q : ProviderRef} (hq : F.Houses start q) :
    start.Records q ∨ ∃ r, F.members r ∧ q = (start.registration r).deferred := by
  obtain ⟨r, hr, rfl | rfl⟩ := hq
  · exact .inr ⟨r, hr, rfl⟩
  · rcases hstart.planned r hr with ⟨r', _, hr', hplan⟩ | hrecords
    · exact .inr ⟨r', hr', hplan⟩
    · exact .inl hrecords

/-- A provider that records hands nothing on and has issued nothing that waits. -/
theorem alone_of_records {b : ProviderRef} (h : start.Records b) (hlater : Later start s) :
    (s.provider b).isRecording = true ∧ (s.provider b).isDeferred = false ∧
      (s.provider b).target? = none := by
  have hrecording : (s.provider b).isRecording = true :=
    (Provider.isRecording_of_freshBody (hlater.provider h.known).freshBody).trans h.recording
  have hdeferred := Provider.isDeferred_of_isRecording hrecording
  exact ⟨hrecording, hdeferred, (Provider.alone_of_isDeferred hdeferred).1⟩

namespace Waits

/-- The deferred provider of a registration that waits. -/
theorem isDeferred (hstart : F.Waits start) {r : RegistrationRef} (hr : F.members r) :
    (start.provider (start.registration r).deferred).isDeferred = true :=
  (reachable_sound hstart.reachable).owners.deferred r (hstart.known r hr)

theorem agreesOn (hstart : F.Waits start) {r : RegistrationRef} (hr : F.members r) :
    start.AgreesOn r := by
  have hend := Store.providerEnd?_eq_some.2 (endsAt_self (hstart.waiting r hr))
  exact reachable_agreed hstart.reachable r (hstart.known r hr) (by rw [hend]; rfl)

/-- What callers hold in the beginning is what the deferred providers have issued. -/
theorem lineage (hstart : F.Waits start) :
    Lineage (F.Houses start) start (F.account start).kin (F.account start).kin .nothing start := by
  have hsound := reachable_sound hstart.reachable
  have hissued : ∀ r, F.members r → (start.provider (start.registration r).deferred).meters =
      (start.provider (start.registration r).deferred).issued :=
    fun r hr => SoundBut.meters_eq_issued (hstart.isDeferred hr)
  refine .initial hsound ?_ ?_ ?_ (fun m => ?_) fun i => ?_
  · intro q hq
    rcases hstart.records hq with hrecords | ⟨r, hr, rfl⟩
    · exact hrecords.known
    · exact hsound.owners.known r (hstart.known r hr)
  · intro q hq
    rcases hstart.records hq with hrecords | ⟨r, hr, rfl⟩
    · exact (alone_of_records hrecords (.refl start)).2.2
    · exact hstart.waiting r hr
  · intro q hq
    rcases hstart.records hq with hrecords | ⟨r, hr, rfl⟩
    · exact hrecords.willing
    · exact Provider.refusal_of_isDeferred (hstart.isDeferred hr)
  · constructor
    · rintro ⟨r, scope, hr, hm, _⟩
      exact ⟨_, ⟨r, hr, .inl rfl⟩, hissued r hr ▸ hm⟩
    · rintro ⟨q, hq, hm⟩
      rcases hstart.records hq with hrecords | ⟨r, hr, rfl⟩
      · have hnone := (alone_of_records hrecords (.refl start)).2.1
        rw [(Provider.alone_of_isDeferred hnone).2] at hm
        exact absurd hm List.not_mem_nil
      · exact ⟨r, _, hr, (hissued r hr).symm ▸ hm, rfl⟩
  · constructor
    · rintro ⟨m, request, ⟨r, hr, hm⟩, hi, _⟩
      exact ⟨m, ⟨r, _, hr, hm, rfl⟩, hi⟩
    · rintro ⟨m, ⟨r, _, hr, hm, _⟩, hi⟩
      exact ⟨m, _, ⟨r, hr, hm⟩, hi, rfl⟩

theorem holds (hstart : F.Waits start) : (F.account start).Holds F start start := by
  have hsound := reachable_sound hstart.reachable
  refine ⟨?_, ?_, ?_⟩
  · rintro q r ⟨hr, rfl⟩
    exact ⟨hr, .refl⟩
  · rintro m r scope ⟨hr, hm, rfl⟩
    exact ⟨hr, rfl, _, (hsound.issued_of_mem_meters (hstart.isDeferred hr) hm).2, .refl⟩
  · rintro i m request ⟨⟨r, hr, hm⟩, hi, rfl⟩
    obtain ⟨hknown, hissuer, _⟩ := hsound.instruments.issued m i hi
    refine ⟨⟨r, _, hr, hm, rfl⟩, hknown, rfl, ?_⟩
    rw [show (start.instrument i).issuer = m from hissuer]
    exact .refl

end Waits

namespace Keeps

theorem initial (hstart : F.Waits start) : F.Keeps start (F.account start) start := by
  have hslot : ∀ r, F.members r → (start.registration r).provider = none :=
    fun r hr => (hstart.agreesOn hr).target.symm.trans (hstart.waiting r hr)
  refine ⟨⟨_, hstart.lineage⟩, hstart.holds, hslot, fun r hr => ?_, hstart.waiting, hstart.idle⟩
  rw [(hstart.agreesOn hr).gate, hslot r hr]
  rfl

/-- What leaves registrations and targets alone. -/
theorem steady (h : F.Keeps start a s) (hsteady : Steady s s') (hmade : a'.made = a.made)
    (hfamily : ∃ own, Lineage (F.Houses start) start a'.kin own .nothing s')
    (hholds : a'.Holds F start s') : F.Keeps start a' s' where
  family := hfamily
  holds := hholds
  slots r hr := by
    rw [hsteady.registration, hmade]
    exact h.slots r hr
  gates r hr := by
    rw [Store.gate, hsteady.registration, hmade]
    exact h.gates r hr
  targets r hr := by
    rw [hsteady.targets, hmade]
    exact h.targets r hr
  idle r hr := by
    intro value hvalue
    rw [hsteady.registration, hsteady.environment] at hvalue
    exact h.idle r hr value hvalue

/-- The deferred provider of a registration is the one that it had. -/
theorem deferred_eq (hstart : F.Waits start) (h : F.Keeps start a s) {r : RegistrationRef}
    (hr : F.members r) : (s.registration r).deferred = (start.registration r).deferred := by
  obtain ⟨_, hfamily⟩ := h.family
  exact (hfamily.later.registration (hstart.known r hr)).deferred

theorem has_registration (hstart : F.Waits start) (h : F.Keeps start a s) {r : RegistrationRef}
    (hr : F.members r) : s.registrations.Has r := by
  obtain ⟨_, hfamily⟩ := h.family
  exact (hfamily.later.registrations r (hstart.known r hr)).1

/-- A registration that has its provider hands on to it. -/
theorem handsOn_plan (h : F.Keeps start a s) {r : RegistrationRef} (hr : F.members r)
    (hmade : a.made r = true) : s.HandsOn (start.registration r).deferred (F.plan r) :=
  .single ((h.targets r hr).trans (if_pos hmade))

/-- What the provider of a registration hands on to belongs to one of the registrations that it is
linked to, or records. -/
theorem links_of_leads (hstart : F.Waits start) (h : F.Keeps start a s) {r : RegistrationRef}
    (hr : F.members r) {q : ProviderRef} (hlead : s.HandsOn (F.plan r) q) :
    (∃ r', TransGen (F.Links start) r r' ∧ q = (start.registration r').deferred) ∨
      start.Records q := by
  obtain ⟨_, hfamily⟩ := h.family
  induction hlead with
  | refl => exact (hstart.planned r hr).imp_left fun ⟨r', hlink⟩ => ⟨r', .single hlink, hlink.2.2⟩
  | @tail b c _ hnext ih =>
      have hnext : (s.provider b).target? = some c := hnext
      rcases ih with ⟨r', hlinks, rfl⟩ | hrecords
      · obtain ⟨_, _, _, hr', _⟩ := TransGen.tail'_iff.1 hlinks
        have htarget := h.targets r' hr'
        rw [hnext] at htarget
        split at htarget
        · rcases hstart.planned r' hr' with ⟨r'', hlink⟩ | hrecords
          · refine .inl ⟨r'', hlinks.tail hlink, ?_⟩
            exact (Option.some.inj htarget).trans hlink.2.2
          · exact .inr (Option.some.inj htarget ▸ hrecords)
        · cases htarget
      · rw [(alone_of_records hrecords hfamily.later).2.2] at hnext
        cases hnext

/-- No provider hands on to the deferred provider of the registration that is to take it. -/
theorem plan_ends_elsewhere (hstart : F.Waits start) (h : F.Keeps start a s) {r : RegistrationRef}
    (hr : F.members r) : s.providerEnd? (F.plan r) ≠ some (start.registration r).deferred := by
  intro hend
  have hsound := reachable_sound hstart.reachable
  rcases h.links_of_leads hstart hr (Store.providerEnd?_eq_some.1 hend).1 with
    ⟨r', hlinks, hsame⟩ | hrecords
  · obtain ⟨_, _, _, hr', _⟩ := TransGen.tail'_iff.1 hlinks
    obtain rfl : r = r' :=
      hsound.owners.distinct r r' (hstart.known r hr) (hstart.known r' hr') hsame
    exact hstart.acyclic r hlinks
  · have hdeferred := hstart.isDeferred hr
    rw [(alone_of_records hrecords (.refl start)).2.1] at hdeferred
    cases hdeferred

/-- A registration takes its provider. -/
theorem takes (hstart : F.Waits start) (h : F.Keeps start a s) {r : RegistrationRef}
    (hr : F.members r) (htakes : Takes r (F.plan r) s s')
    (hfamily : ∃ own, Lineage (F.Houses start) start a.kin own .nothing s') :
    F.Keeps start (a.make r) s' where
  family := hfamily
  holds := (h.holds.make r).later htakes.later
  slots x hx := by
    rw [htakes.registration, a.made_make]
    by_cases heq : x = r
    · rw [if_pos heq, if_pos heq, heq]
      rfl
    · rw [if_neg heq, if_neg heq]
      exact h.slots x hx
  gates x hx := by
    rw [Store.gate, htakes.registration, a.made_make]
    by_cases heq : x = r
    · rw [if_pos heq, if_pos heq]
      rfl
    · rw [if_neg heq, if_neg heq]
      exact h.gates x hx
  targets x hx := by
    rw [htakes.targets, a.made_make, h.deferred_eq hstart hr]
    by_cases heq : x = r
    · rw [if_pos (by rw [heq]), if_pos heq, heq]
      rfl
    · have hother : (start.registration x).deferred ≠ (start.registration r).deferred :=
        fun hsame => heq ((reachable_sound hstart.reachable).owners.distinct x r
          (hstart.known x hx) (hstart.known r hr) hsame)
      rw [if_neg hother, if_neg heq]
      exact h.targets x hx
  idle x hx value hvalue := by
    refine h.idle x hx value ?_
    rw [htakes.environment, htakes.registration] at hvalue
    by_cases heq : x = r
    · rw [if_pos heq] at hvalue
      rw [heq]
      exact hvalue
    · rwa [if_neg heq] at hvalue

/-! ## One call -/

theorem setProvider (hstart : F.Waits start) (h : F.Keeps start a s) {r : RegistrationRef}
    (hr : F.members r) :
    ∃ s', Op.setProvider r (F.plan r) s = .ok (!a.made r) s' ∧ F.Keeps start (a.make r) s' := by
  obtain ⟨own, hfamily⟩ := h.family
  have hgate := h.gates r hr
  cases hmade : a.made r with
  | true =>
      -- the gate has fired, and the provider is refused
      have hsame : (a.make r).made = a.made := by
        funext x
        rw [a.made_make]
        by_cases hx : x = r
        · rw [if_pos hx, hx, hmade]
        · rw [if_neg hx]
      exact ⟨_, Op.setProvider_of_fired _ (hgate.trans hmade), h.steady (.log s _) hsame
        ⟨own, hfamily.alike (.log _)⟩ ((h.holds.make r).later (.log s _))⟩
  | false =>
      have hd := h.deferred_eq hstart hr
      obtain ⟨own', s', hrun, htakes, hnext⟩ := hfamily.setProvider_run
        (h.has_registration hstart hr) (hd ▸ ⟨r, hr, .inl rfl⟩) ⟨r, hr, .inr rfl⟩
        (hgate.trans hmade) (by rw [hd, h.targets r hr, hmade]; rfl)
        (by rw [hd]; exact h.plan_ends_elsewhere hstart hr)
      exact ⟨s', hrun, h.takes hstart hr htakes ⟨own', hnext⟩⟩

theorem getProvider (hstart : F.Waits start) (h : F.Keeps start a s) {r : RegistrationRef}
    (hr : F.members r) (depth : Nat) :
    ∃ q s', Op.getProvider depth r s = .ok (.ok q) s' ∧
      F.Keeps start (a.addProvider q r) s' := by
  obtain ⟨own, hfamily⟩ := h.family
  have hslot := h.slots r hr
  cases hmade : a.made r with
  | true =>
      rw [hmade] at hslot
      exact ⟨F.plan r, s, Op.getProvider_of_some depth hslot, h.steady (.refl s) rfl ⟨own, hfamily⟩
        (h.holds.addProvider hr (h.handsOn_plan hr hmade))⟩
  | false =>
      rw [hmade] at hslot
      have hrun := Op.getProvider_of_namesNone depth hslot (h.idle r hr)
      rw [h.deferred_eq hstart hr] at hrun
      have halike : Alike s { s with trace := s.lookedUp r } :=
        .of_eq (fun _ h => h.of_eq rfl rfl rfl rfl rfl rfl) (.of_eq rfl rfl rfl rfl rfl) rfl rfl rfl
      exact ⟨_, _, hrun, h.steady (.of_alike halike rfl rfl) rfl ⟨own, hfamily.alike halike⟩
        ((h.holds.addProvider hr .refl).later halike.later)⟩

theorem requestMeter (h : F.Keeps start a s) {r : RegistrationRef} {q : ProviderRef}
    (hq : a.providers q r) (scope : Scope) :
    ∃ m s', Op.requestMeter q scope s = .ok m s' ∧ F.Keeps start (a.addMeter m r scope) s' := by
  obtain ⟨own, hfamily⟩ := h.family
  obtain ⟨hr, hlead⟩ := h.holds.providers q r hq
  have hhouse := hfamily.providers.leads ⟨r, hr, .inl rfl⟩ hlead
  obtain ⟨e, s', he, hshown, hrun, hsteady, hnext⟩ := hfamily.requestMeter_run hhouse scope
  have hrow := hfamily.meter_requested hhouse he hshown
  have hholds := (h.holds.later hsteady.later).addMeter (m := s.meters.next) hr
    (congrArg Meter.issuer hrow)
    (Store.handsOn_later (hlead.trans (Store.providerEnd?_eq_some.1 he).1) hsteady.later)
  rw [hrow] at hholds
  refine ⟨s.meters.next, s', hrun,
    h.steady hsteady rfl ⟨own.addMeter s.meters.next, ?_⟩ hholds⟩
  rw [Account.kin_addMeter]
  exact hnext

theorem requestInstrument (h : F.Keeps start a s) {m : MeterRef} {r : RegistrationRef}
    {scope : Scope} (hm : a.meters m r scope) (request : Request) :
    ∃ i s', Op.requestInstrument m request s = .ok i s' ∧
      F.Keeps start (a.addInstrument i m request) s' := by
  obtain ⟨own, hfamily⟩ := h.family
  have hown := hfamily.meters.lines.own_of_held m ⟨r, scope, hm⟩
  obtain ⟨t, s', ht, hshown, hrun, hsteady, hnext⟩ := hfamily.requestInstrument_run hown request
  obtain ⟨hknown, hrow, hlead⟩ := hfamily.instrument_requested hown ht hshown hsteady.later
  have hholds := (h.holds.later hsteady.later).addInstrument (m := m) ⟨r, scope, hm⟩ hknown
    (by rw [hrow]; exact hlead)
  rw [hrow] at hholds
  refine ⟨s.instruments.next, s', hrun,
    h.steady hsteady rfl ⟨own.addInstrument s.instruments.next, ?_⟩ hholds⟩
  rw [Account.kin_addInstrument, ← Pending.nothing_meet t]
  exact hnext

/-- Giving samples and observing change nothing that matters. -/
theorem of_goes (h : F.Keeps start a s) {α : Type} {op : Op α}
    (hgoes : Op.Goes Gives op s Op.Anything) : F.Keeps start a (op.left s) := by
  obtain ⟨own, hfamily⟩ := h.family
  obtain ⟨hsteady, hnext⟩ := hfamily.of_goes hgoes
  exact h.steady hsteady rfl ⟨own, hnext⟩ (h.holds.later hsteady.later)

end Keeps

/-- Whatever the order of the calls. -/
theorem keeps_of_runs (hstart : F.Waits start) (h : F.Runs start a s) : F.Keeps start a s := by
  induction h with
  | start => exact .initial hstart
  | setProvider _ hr hrun ih =>
      obtain ⟨s', hrun', hnext⟩ := ih.setProvider hstart hr
      cases hrun.symm.trans hrun'
      exact hnext
  | getProvider depth _ hr hrun ih =>
      obtain ⟨q, s', hrun', hnext⟩ := ih.getProvider hstart hr depth
      cases hrun.symm.trans hrun'
      exact hnext
  | requestMeter scope _ hq hrun ih =>
      obtain ⟨m, s', hrun', hnext⟩ := ih.requestMeter hq scope
      cases hrun.symm.trans hrun'
      exact hnext
  | requestInstrument request _ hm hrun ih =>
      obtain ⟨i, s', hrun', hnext⟩ := ih.requestInstrument hm request
      cases hrun.symm.trans hrun'
      exact hnext
  | record sample attributes _ _ ih => exact ih.of_goes (Op.gives_record _ sample attributes)
  | observe _ _ ih => exact ih.of_goes (Op.gives_observe _)

end Family

end DeferredMetrics
