import DeferredMetrics.Proofs.Beside

set_option autoImplicit false

/-! # Handles after an installation

Nothing blocks the installing thread, so it is through after some steps of its own, whatever other
threads have done (`Beside.finishes`). When it is, every handle that any thread holds leads to an
object of the backend, and the backend has issued one object for every handle
(`connected_of_comes`). -/

namespace DeferredMetrics

open Installation

namespace Installation.Machine

variable {r : RegistrationRef} {p : ProviderRef}

theorem finish_succ (m : Machine) (n : Nat) :
    m.finish r p (n + 1) = (m.step r p .advance).2.finish r p n := rfl

/-- After some steps of the installing thread alone the provider has taken effect. -/
def Finishes (r : RegistrationRef) (p : ProviderRef) (m : Machine) : Prop :=
  ∃ n, (m.finish r p n).phase = .ended true

theorem finishes_of_advance {phase phase' : Phase} {s s' : Store}
    (hrun : Op.advance r p phase s = .ok phase' s') (h : Finishes r p ⟨phase', s'⟩) :
    Finishes r p ⟨phase, s⟩ := by
  obtain ⟨n, hn⟩ := h
  have hmove : Op.move r p phase .advance s = .ok (phase', .advanced) s' := by
    rw [Op.move, Op.bind_of_ok hrun]
    rfl
  refine ⟨n + 1, ?_⟩
  rw [finish_succ, Beside.step_of_ok hmove]
  exact hn

theorem finishes_of_bound (s : Store) : Finishes r p ⟨.bound, s⟩ := ⟨1, rfl⟩

end Installation.Machine

namespace Beside

open Machine (Finishes finishes_of_advance finishes_of_bound)

variable {start s : Store} {r : RegistrationRef} {p : ProviderRef} {a : Handles}

/-- One by one the instruments of the locked meter are bound, then the meter is. -/
theorem finishes_instruments (hstart : start.Offered r p) {k t : MeterRef} {inner : Tally}
    {is : List InstrumentRef} {tally : Tally} {left : List MeterRef}
    (hleft : ∀ {s tally}, Beside start r p a ⟨.meters tally left, s⟩ →
      Finishes r p ⟨.meters tally left, s⟩)
    (h : Beside start r p a ⟨.instruments k t inner is tally left, s⟩) :
    Finishes r p ⟨.instruments k t inner is tally left, s⟩ := by
  induction is generalizing s inner with
  | nil =>
      obtain ⟨s', hrun, hnext⟩ := advance_instruments_nil h
      obtain ⟨s'', hrun', hnext'⟩ := advance_closing hnext
      exact finishes_of_advance hrun (finishes_of_advance hrun' (hleft hnext'))
  | cons i is ih =>
      obtain ⟨inner', s', hrun, hnext⟩ := advance_instruments hstart h
      exact finishes_of_advance hrun (ih hnext)

/-- One by one the meters are bound. -/
theorem finishes_meters (hstart : start.Offered r p) {tally : Tally} {left : List MeterRef}
    (h : Beside start r p a ⟨.meters tally left, s⟩) :
    Finishes r p ⟨.meters tally left, s⟩ := by
  induction left generalizing s tally with
  | nil => exact finishes_of_advance rfl (finishes_of_bound _)
  | cons k left ih =>
      obtain ⟨t, s', hrun, hnext⟩ := advance_meters hstart h
      obtain ⟨hrun', hnext'⟩ := advance_asked hnext
      exact finishes_of_advance hrun
        (finishes_of_advance hrun' (finishes_instruments hstart ih hnext'))

theorem finishes_written (hstart : start.Offered r p) (h : Beside start r p a ⟨.written, s⟩) :
    Finishes r p ⟨.written, s⟩ := by
  obtain ⟨tally, left, s', hrun, hnext⟩ := advance_written hstart h
  exact finishes_of_advance hrun (finishes_meters hstart hnext)

/-- Whatever threads have done, the installing thread gets through when it goes on. -/
theorem finishes (hstart : start.Offered r p) {m : Machine} (h : Beside start r p a m) :
    Finishes r p m := by
  obtain ⟨phase, s⟩ := m
  have hmeters : ∀ {s tally left}, Beside start r p a ⟨.meters tally left, s⟩ →
      Finishes r p ⟨.meters tally left, s⟩ := fun h => finishes_meters hstart h
  cases phase with
  | before =>
      obtain ⟨s', hrun, hnext⟩ := advance_before hstart h
      exact finishes_of_advance hrun (finishes_written hstart hnext)
  | written => exact finishes_written hstart h
  | meters tally left => exact hmeters h
  | asked k t tally left =>
      obtain ⟨hrun, hnext⟩ := advance_asked h
      exact finishes_of_advance hrun (finishes_instruments hstart hmeters hnext)
  | instruments k t inner is tally left => exact finishes_instruments hstart hmeters h
  | closing k inner tally left =>
      obtain ⟨s', hrun, hnext⟩ := advance_closing h
      exact finishes_of_advance hrun (hmeters hnext)
  | bound => exact finishes_of_bound s
  | ended installed =>
      cases installed with
      | true => exact ⟨0, rfl⟩
      | false => exact absurd rfl h.installed

end Beside

/-! ## When the installation is over -/

/-- Every meter and every instrument in `held` leads to a new one of the provider `p`, of the same
scope and request, where samples go; and `p` has issued no other. -/
structure Store.Connected (start s : Store) (p : ProviderRef) (held : Kin) : Prop where
  meter : ∀ m, held.meters m → ∃ t, s.meterEnd? m = some t ∧ start.NewMeter s p t ∧
    (s.meter t).scope = (s.meter m).scope
  instrument : ∀ i, held.instruments i → ∃ j, start.Arrives s p i j ∧
    s.meterEnd? (s.instrument i).issuer = some (s.instrument j).issuer
  oneForEach : start.OneForEach s p held

namespace Beside

variable {start : Store} {r : RegistrationRef} {p : ProviderRef} {a : Handles} {m : Machine}

/-- When everything is bound, every handle is connected to the backend. -/
theorem connected (hstart : start.Offered r p) (h : Beside start r p a m)
    (hpending : m.phase.pending m.store = .nothing)
    (htarget : (m.store.provider (start.registration r).deferred).target? = some p) :
    start.Connected m.store p a.kin := by
  obtain ⟨own, hfamily⟩ := h.family
  rw [hpending] at hfamily
  have hsound := reachable_sound hstart.reachable
  have hreal := backend hstart hfamily.later
  have hend := providerEnd?_backend hstart hfamily.later
  have hmeter : ∀ k, own.meters k → ∃ t, m.store.meterEnd? k = some t ∧
      start.NewMeter m.store p t ∧ (m.store.meter t).scope = (m.store.meter k).scope := by
    intro k hk
    obtain ⟨t, q, e, ht, htown, hscope, hq, hkq, hqe, hte⟩ := hfamily.meter_end hk
    -- both providers of the family lead to the backend
    have hep : e = p := by
      rcases hq with rfl | rfl
      · have hlead : m.store.HandsOn (start.registration r).deferred p := .single htarget
        have hchain := Store.providerEnd?_eq_some.2
          ⟨hlead, (Store.providerEnd?_eq_some.1 hend).2⟩
        exact Option.some.inj (hqe.symm.trans hchain)
      · exact Option.some.inj (hqe.symm.trans hend)
    rw [hep] at hte
    exact ⟨t, ht, ⟨hfamily.has_meter htown, hfamily.new_meter hsound htown hte hreal, hte⟩, hscope⟩
  refine ⟨fun k hk => hmeter k (hfamily.meters.lines.own_of_held k hk), fun i hi => ?_,
    hfamily.oneForEach hreal⟩
  have hown := hfamily.instruments.lines.own_of_held i hi
  obtain ⟨j, hj, hjown, hrequest, hissuer, _⟩ := hfamily.instrument_end hown
  obtain ⟨t, ht, hnew, _⟩ := hmeter _ (hfamily.instruments.known i hown).2.1
  obtain rfl : (m.store.instrument j).issuer = t := Option.some.inj (hissuer.symm.trans ht)
  exact ⟨j, hfamily.arrives hsound hj hjown hrequest hnew.issuer hreal, hissuer⟩

end Beside

/-- Once the installation of a backend that refuses nothing has answered that it took effect, no
handle is lost or doubled, whenever and from whom it was got, in whatever order the threads have
taken their steps. -/
theorem connected_of_comes {start : Store} {r : RegistrationRef} {p : ProviderRef} {a : Handles}
    {m : Machine} (hstart : start.Offered r p) (h : Comes r p start a m)
    (hended : m.phase = .ended true) : start.Connected m.store p a.kin := by
  have hbeside := Beside.of_comes hstart h
  refine hbeside.connected hstart (by rw [hended]; rfl) ?_
  rw [hbeside.target, hended]
  rfl

/-- A registration with a meter and an instrument, and a recording provider. -/
def Store.offered : Store :=
  Scenario.after 1 none (.initial .empty)
    [.registration "r" none (.settings []) none,
      .provider "p" .recording,
      .getMeter "r" "m" (.named "kept"),
      .create "m" "i" .counter (.named "hits") none]

theorem offered_offered : Store.offered.Offered ⟨0⟩ ⟨1⟩ where
  reachable := .after _ _ (.initial _) (by decide)
  registered := by decide +kernel
  waiting := by decide +kernel
  known := by decide +kernel
  backend := by decide +kernel
  willing n ask := by
    have hp : Store.offered.provider ⟨1⟩ = .freshRecording none := rfl
    rw [hp]
    cases ask <;> rfl

/-- An instrument and a meter are asked for while the meter that is there is being bound. -/
theorem connected_of_comes_offered :
    ∃ a m, Comes ⟨0⟩ ⟨1⟩ .offered a m ∧ m.phase = .ended true ∧
      Store.offered.Connected m.store ⟨1⟩ a.kin := by
  have hasked : (Handles.early Store.offered (Store.offered.registration ⟨0⟩).deferred).Allows
      (.requestInstrument ⟨0⟩ ⟨.counter, .named "late", none⟩) := by
    show (⟨0⟩ : MeterRef) ∈ _
    decide +kernel
  have hcomes := Comes.step (r := ⟨0⟩) (p := ⟨1⟩) _ .start hasked
  have hlook := hcomes |>.step .advance trivial |>.step .advance trivial |>.step .look trivial
  have hbound := hlook |>.step .advance trivial |>.step .advance trivial |>.step .advance trivial
    |>.step .advance trivial |>.step .advance trivial |>.step .advance trivial
    |>.step .advance trivial |>.step (.requestMeter (.named "later")) trivial
  have hended := hbound.step .advance trivial
  exact ⟨_, _, hended, by decide +kernel,
    connected_of_comes offered_offered hended (by decide +kernel)⟩

end DeferredMetrics
