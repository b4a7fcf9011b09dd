import DeferredMetrics.Proofs.Issuing

set_option autoImplicit false

/-! # Requests hold the mutexes of the nodes that they pass

A deferred node has a mutex. Whoever requests something of it holds the mutex until the request is
over, and as long as the node hands the request on, so does its target: the backend at the end of
the chain works under the mutexes of all nodes that lead to it. A mutex is given back when the work
under it is over, by an answer or by a panic alike; it does not remember panics. A thread that takes
one that it holds waits for itself. The main statements are `Op.holdingMeter_run` and
`Op.holdingInstrument_run`: where the chain has an end, a request with mutexes comes to what it
comes to without them, and holds none afterwards. -/

namespace DeferredMetrics

/-- A thread: the store, and the nodes whose mutexes the thread holds. -/
structure Holding (ν : Type) where
  store : Store
  held : List ν

/-- What a thread does that may hold mutexes. -/
abbrev HoldingOp (ν α : Type) := EStateM Halt (Holding ν) α

namespace Op

variable {ν α : Type}

/-- The result of a thread that holds these mutexes. -/
def holding (held : List ν) :
    EStateM.Result Halt Store α → EStateM.Result Halt (Holding ν) α
  | .ok a s => .ok a ⟨s, held⟩
  | .error halt s => .error halt ⟨s, held⟩

/-- Do something and take no mutex. -/
def freely (op : Op α) : HoldingOp ν α := fun t => holding t.held (op t.store)

/-- Do something under the mutex of the node `x`, and give it back. A thread that waits for ever
keeps it. -/
def underMutex [DecidableEq ν] (x : ν) (op : HoldingOp ν α) : HoldingOp ν α := fun t =>
  if x ∈ t.held then .error .waiting t
  else
    match op { t with held := x :: t.held } with
    | .ok a t' => .ok a { t' with held := t'.held.erase x }
    | .error .waiting t' => .error .waiting t'
    | .error halt t' => .error halt { t' with held := t'.held.erase x }

/-- Do `op` at the end of the chain from `x`, under the mutexes of all nodes on the way. A node that
is `guarded` reads its target `next` when it has its mutex. The chain is followed for at most `fuel`
nodes. -/
def handOn [DecidableEq ν] (guarded : Store → ν → Bool) (next : Store → ν → Option ν)
    (op : ν → Op α) : Nat → ν → HoldingOp ν α
  | 0, _ => throw .waiting
  | fuel + 1, x => fun t =>
      if guarded t.store x then
        underMutex x (fun t' => match next t'.store x with
          | some y => handOn guarded next op fuel y t'
          | none => freely (op x) t') t
      else freely (op x) t

/-- Ask a provider for a meter. -/
def holdingMeter (p : ProviderRef) (scope : Scope) : HoldingOp ProviderRef MeterRef := do
  freely (note (.meter p scope))
  let fuel := (← get).store.providers.size + 1
  let m ← handOn (fun s x => (s.provider x).isDeferred) (fun s x => (s.provider x).target?)
    (fun e => issueMeter e scope) fuel p
  freely (note (.meterReturned m))
  return m

/-- Ask a meter for an instrument. -/
def holdingInstrument (m : MeterRef) (request : Request) : HoldingOp MeterRef InstrumentRef := do
  freely (note (.instrument m request))
  let fuel := (← get).store.meters.size + 1
  let i ← handOn (fun s x => (s.meter x).body.isDeferred) (fun s x => (s.meter x).target?)
    (fun e => issueInstrument e request) fuel m
  freely (note (.instrumentReturned i))
  return i

/-! ## What they come to -/

theorem bind_run_holding {β : Type} {op : HoldingOp ν α} {f : α → HoldingOp ν β} {t : Holding ν} :
    (op >>= f) t = match op t with
      | .ok a t' => f a t'
      | .error halt t' => .error halt t' := by
  show EStateM.bind op f t = _
  unfold EStateM.bind
  cases op t <;> rfl

/-- The result is not that the thread waits for ever. -/
def Moves (result : EStateM.Result Halt Store α) : Prop := ∀ s, result ≠ .error .waiting s

variable [DecidableEq ν] {s : Store} {held : List ν} {x e : ν}
  {result : EStateM.Result Halt Store α}

/-- A mutex that was free is free again after the work under it. -/
theorem underMutex_of_holding {op : HoldingOp ν α} (hfree : x ∉ held)
    (hop : op ⟨s, x :: held⟩ = holding (x :: held) result) (hmoves : Moves result) :
    underMutex x op ⟨s, held⟩ = holding held result := by
  unfold underMutex
  rw [if_neg hfree]
  simp only [hop]
  cases result with
  | ok a s' => simp [holding]
  | error halt s' =>
      cases halt with
      | waiting => exact absurd rfl (hmoves s')
      | _ => simp [holding]

/-- Along a chain that has an end and whose mutexes are free, something is done at the end, and no
mutex is kept. -/
theorem handOn_run (guarded : Store → ν → Bool) (next : Store → ν → Option ν) (op : ν → Op α)
    (hguarded : ∀ y z, next s y = some z → guarded s y = true) {fuel : Nat}
    (hend : chase (next s) fuel x = some e) (hfree : ∀ y, Leads (next s) x y → y ∉ held)
    (hmoves : Moves (op e s)) :
    handOn guarded next op fuel x ⟨s, held⟩ = holding held (op e s) := by
  induction fuel generalizing x held with
  | zero => cases hend
  | succ fuel ih =>
      unfold handOn
      simp only
      cases hnext : next s x with
      | none =>
          rw [chase_of_none fuel hnext] at hend
          cases hend
          split
          · refine underMutex_of_holding (hfree _ .refl) ?_ hmoves
            simp only [hnext]
            rfl
          · rfl
      | some y =>
          have hback : ¬ Leads (next s) y x := not_leads_back hnext hend
          rw [chase_of_some fuel hnext] at hend
          rw [if_pos (hguarded x y hnext)]
          refine underMutex_of_holding (hfree x .refl) ?_ hmoves
          simp only [hnext]
          refine ih hend fun z hz hmem => ?_
          -- below `x` the thread holds what it held before, and the mutex of `x`
          rcases List.mem_cons.1 hmem with heq | hmem
          · exact hback (heq ▸ hz)
          · exact hfree z (.head hnext hz) hmem

theorem moves_answering (answer : Except Payload α) (s : Store) : Moves (answering answer s) := by
  cases answer <;> exact fun _ h => nomatch h

/-- A request for a meter with mutexes is a request for a meter, after which none is held. -/
theorem holdingMeter_run {p e : ProviderRef} (scope : Scope) (he : s.providerEnd? p = some e) :
    holdingMeter p scope ⟨s, []⟩ = holding [] (requestMeter p scope s) := by
  let s₁ := s.note (.meter p scope)
  have hend : s₁.providerEnd? p = some e := he
  obtain ⟨s', _, hissue⟩ := issueMeter_run e scope s₁
  have hmoves : Moves (issueMeter e scope s₁) := hissue ▸ moves_answering _ _
  have hrun := handOn_run (fun s x => (s.provider x).isDeferred)
    (fun s x => (s.provider x).target?) (fun e => issueMeter e scope)
    (fun _ _ h => Provider.isDeferred_of_target h) hend (fun _ _ => List.not_mem_nil) hmoves
  show (handOn _ _ _ (s₁.providers.size + 1) p >>= _) ⟨s₁, []⟩ = _
  rw [bind_run_holding, hrun, requestMeter, bind_of_ok (note_run _ s),
    bind_of_ok (providerEnd_of_some hend), bind_run]
  cases issueMeter e scope s₁ <;> rfl

/-- A request for an instrument with mutexes is a request for an instrument, after which none is
held. -/
theorem holdingInstrument_run {m e : MeterRef} (request : Request) (he : s.meterEnd? m = some e)
    (hfits : s.MeterFits e) :
    holdingInstrument m request ⟨s, []⟩ = holding [] (requestInstrument m request s) := by
  let s₁ := s.note (.instrument m request)
  have hend : s₁.meterEnd? m = some e := he
  obtain ⟨s', _, hissue⟩ := issueInstrument_run (s := s₁) request e hfits
  have hmoves : Moves (issueInstrument e request s₁) := hissue ▸ moves_answering _ _
  have hrun := handOn_run (fun s x => (s.meter x).body.isDeferred)
    (fun s x => (s.meter x).target?) (fun e => issueInstrument e request)
    (fun _ _ h => Meter.isDeferred_of_target h) hend (fun _ _ => List.not_mem_nil) hmoves
  show (handOn _ _ _ (s₁.meters.size + 1) m >>= _) ⟨s₁, []⟩ = _
  rw [bind_run_holding, hrun, requestInstrument, bind_of_ok (note_run _ s),
    bind_of_ok (meterEnd_of_some hend), bind_run]
  cases issueInstrument e request s₁ <;> rfl

end Op

end DeferredMetrics
