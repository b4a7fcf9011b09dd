import DeferredMetrics.Proofs.Chains
import DeferredMetrics.Store.Calls

set_option autoImplicit false

/-! # What a node is asked for

The calls tell which deferred nodes were told a target, and what was asked of which node. From them
alone follows what every node has to give itself (`askedOf`): a request goes to the end of the chain
of targets as they are when it is made. The first target that a node is told is its target for good,
so a node that has one is asked for nothing itself (`askedOf_of_bound`). Providers and meters are
nodes of two kinds, with meters and instruments as what they are asked for. What nodes have given
between two states is a `Balance` if it is what the notices in between say; balances go on where
other ones end (`Balance.trans`). -/

namespace DeferredMetrics

/-- What a call is to the nodes of one kind. -/
inductive Notice (ν χ : Type) where
  /-- A node is told a target. -/
  | told (node target : ν)
  /-- A node is asked for a child. -/
  | asked (node : ν) (child : χ)
  /-- A node was made. -/
  | made (node : ν)

namespace Call

/-- What a call is to providers. -/
def toProviders : Call → Option (Notice ProviderRef Scope)
  | .bindProvider p t => some (.told p t)
  | .meter p scope => some (.asked p scope)
  | _ => none

/-- What a call is to meters. -/
def toMeters : Call → Option (Notice MeterRef Request)
  | .bindMeter m t => some (.told m t)
  | .instrument m request => some (.asked m request)
  | .meterReturned m => some (.made m)
  | _ => none

end Call

section Asked

variable {ν χ : Type} [DecidableEq ν]

namespace Notice

/-- The targets after a notice: a node that is told a target has it, unless it has one. -/
def after (next : ν → Option ν) : Notice ν χ → ν → Option ν
  | .told x t => fun y => if y = x then (next y).or (some t) else next y
  | _ => next

/-- The notice tells that the node was made. -/
def makes (d : ν) : Notice ν χ → Bool
  | .made x => decide (x = d)
  | _ => false

/-- What the node `d` has to give for the notice, if its chain is the one that the request goes
along. -/
def owed (looks : Nat) (d : ν) (next : ν → Option ν) : Notice ν χ → List χ
  | .asked x c => if chase next looks x = some d then [c] else []
  | _ => []

theorem after_of_some {next : ν → Option ν} {d t : ν} (h : next d = some t) (w : Notice ν χ) :
    w.after next d = some t := by
  cases w with
  | told x u =>
      simp only [after]
      split <;> simp [h]
  | _ => exact h

theorem owed_of_bound {next : ν → Option ν} {d : ν} (h : next d ≠ none) (looks : Nat)
    (w : Notice ν χ) : w.owed looks d next = [] := by
  cases w with
  | asked x c =>
      simp only [owed]
      rw [if_neg fun hchase => h (next_of_chase hchase)]
  | _ => rfl

end Notice

/-- What the node `d` has to give itself, in order: whatever is asked of a node whose chain of
targets ends at `d` at that time, from the time on at which `d` is there. -/
def askedOf (looks : Nat) (d : ν) : Bool → (ν → Option ν) → List (Notice ν χ) → List χ
  | _, _, [] => []
  | there, next, w :: ws =>
      (if there then w.owed looks d next else []) ++
        askedOf looks d (there || w.makes d) (w.after next) ws

/-- The targets after some notices. -/
def targetsAfter (next : ν → Option ν) (ws : List (Notice ν χ)) : ν → Option ν :=
  ws.foldl (fun next w => w.after next) next

@[simp] theorem targetsAfter_append (next : ν → Option ν) (ws ws' : List (Notice ν χ)) :
    targetsAfter next (ws ++ ws') = targetsAfter (targetsAfter next ws) ws' :=
  List.foldl_append

theorem askedOf_append (looks : Nat) (d : ν) (there : Bool) (next : ν → Option ν)
    (ws ws' : List (Notice ν χ)) :
    askedOf looks d there next (ws ++ ws') = askedOf looks d there next ws ++
      askedOf looks d (there || ws.any (Notice.makes d)) (targetsAfter next ws) ws' := by
  induction ws generalizing there next with
  | nil => simp [askedOf, targetsAfter]
  | cons w ws ih =>
      simp only [List.cons_append, askedOf, ih, List.append_assoc, List.any_cons, Bool.or_assoc]
      rfl

/-- A node that has a target has nothing to give itself. -/
theorem askedOf_of_bound {next : ν → Option ν} {d : ν} (h : next d ≠ none) (looks : Nat)
    (there : Bool) (ws : List (Notice ν χ)) : askedOf looks d there next ws = [] := by
  induction ws generalizing next there with
  | nil => rfl
  | cons w ws ih =>
      obtain ⟨t, ht⟩ := Option.ne_none_iff_exists'.1 h
      have hafter : w.after next d ≠ none := by
        rw [Notice.after_of_some ht]
        simp
      have hrest := ih hafter (there || w.makes d)
      rw [askedOf, hrest, Notice.owed_of_bound h]
      simp

/-- As long as only one node is asked, and that answers for itself, the other targets do not
matter. -/
theorem askedOf_congr {next next' : ν → Option ν} {t : ν} (ht : next t = none)
    (ht' : next' t = none) (looks : Nat) (d : ν) (there : Bool) {ws : List (Notice ν χ)}
    (hws : ∀ w ∈ ws, ∃ c, w = .asked t c) :
    askedOf looks d there next ws = askedOf looks d there next' ws := by
  induction ws with
  | nil => rfl
  | cons w ws ih =>
      obtain ⟨c, rfl⟩ := hws w List.mem_cons_self
      -- the chain of `t` ends at once, whatever the other targets are
      have hhead : (Notice.asked t c).owed looks d next =
          (Notice.asked t c).owed looks d next' := by
        cases looks with
        | zero => rfl
        | succ looks => simp only [Notice.owed, chase_of_none looks ht, chase_of_none looks ht']
      have hrest := ih fun w hw => hws w (List.mem_cons_of_mem _ hw)
      simp only [askedOf, Notice.makes, Notice.after, Bool.or_false, hhead, hrest]

/-- Where nothing is told, no target changes. -/
theorem targetsAfter_of_asked {next : ν → Option ν} {ws : List (Notice ν χ)}
    (hws : ∀ w ∈ ws, ∃ x c, w = .asked x c) : targetsAfter next ws = next := by
  induction ws with
  | nil => rfl
  | cons w ws ih =>
      obtain ⟨x, c, rfl⟩ := hws w List.mem_cons_self
      exact ih fun w hw => hws w (List.mem_cons_of_mem _ hw)

end Asked

/-! ## Tallies -/

/-- The nodes of one kind in one state. -/
structure Nodes (ν χ : Type) where
  /-- The node is deferred, or nothing is at its place yet. -/
  waits : ν → Prop
  /-- The node is there to be asked. -/
  there : ν → Bool
  target : ν → Option ν
  /-- What the node has given itself. -/
  given : ν → List χ
  /-- How many nodes there are. -/
  size : Nat

/-- From the nodes `N` to the nodes `N'` everything is as the notices say. -/
structure Balance {ν χ : Type} [DecidableEq ν] (ws : List (Notice ν χ)) (N N' : Nodes ν χ) :
    Prop where
  waits : ∀ d, N'.waits d → N.waits d
  there : ∀ d, N'.waits d → N'.there d = (N.there d || ws.any (Notice.makes d))
  target : N'.target = targetsAfter N.target ws
  given : ∀ looks, N'.size < looks → ∀ d, N'.waits d →
    N'.given d = N.given d ++ askedOf looks d (N.there d) N.target ws
  size : N.size ≤ N'.size

namespace Balance

variable {ν χ : Type} [DecidableEq ν] {ws ws' : List (Notice ν χ)} {N N' N'' : Nodes ν χ}

/-- Nothing is noticed, and nothing changes for the nodes that wait. -/
theorem of_unnoticed (hwaits : ∀ d, N'.waits d → N.waits d)
    (hthere : ∀ d, N'.waits d → N'.there d = N.there d) (htarget : N'.target = N.target)
    (hgiven : ∀ d, N'.waits d → N'.given d = N.given d) (hsize : N.size ≤ N'.size) :
    Balance [] N N' where
  waits := hwaits
  there d hd := by simp [hthere d hd]
  target := htarget
  given looks _ d hd := by simp [hgiven d hd, askedOf]
  size := hsize

theorem refl (N : Nodes ν χ) : Balance [] N N :=
  of_unnoticed (fun _ h => h) (fun _ _ => rfl) rfl (fun _ _ => rfl) (Nat.le_refl _)

theorem trans (h : Balance ws N N') (h' : Balance ws' N' N'') : Balance (ws ++ ws') N N'' where
  waits d hd := h.waits d (h'.waits d hd)
  there d hd := by
    rw [h'.there d hd, h.there d (h'.waits d hd), List.any_append, Bool.or_assoc]
  target := by rw [h'.target, h.target, targetsAfter_append]
  given looks hlooks d hd := by
    have hd' := h'.waits d hd
    calc N''.given d
      _ = N'.given d ++ askedOf looks d (N'.there d) N'.target ws' := h'.given looks hlooks d hd
      _ = N.given d ++ askedOf looks d (N.there d) N.target ws ++
            askedOf looks d (N'.there d) N'.target ws' := by
          rw [h.given looks (Nat.lt_of_le_of_lt h'.size hlooks) d hd']
      _ = N.given d ++ askedOf looks d (N.there d) N.target (ws ++ ws') := by
          rw [askedOf_append, h.there d hd', h.target, List.append_assoc]
  size := Nat.le_trans h.size h'.size

/-- A node may be told its target at first and have it at last, if nothing but the target is asked
in between. -/
theorem toldFirst {x t : ν} (h : Balance ws N N') (hws : ∀ w ∈ ws, ∃ c, w = .asked t c)
    (ht : N.target t = none) (hne : x ≠ t) :
    Balance (.told x t :: ws) N
      { N' with target := Notice.after N'.target (.told x t : Notice ν χ) } where
  waits := h.waits
  there d hd := h.there d hd
  target := by
    have hasked : ∀ w ∈ ws, ∃ y c, w = .asked y c := fun w hw => ⟨t, hws w hw⟩
    show Notice.after N'.target (.told x t : Notice ν χ) =
      targetsAfter (Notice.after N.target (.told x t : Notice ν χ)) ws
    rw [h.target, targetsAfter_of_asked hasked, targetsAfter_of_asked hasked]
  given looks hlooks d hd := by
    have hself : Notice.after N.target (.told x t : Notice ν χ) t = none := by
      simp [Notice.after, hne.symm, ht]
    rw [show Nodes.given _ d = N'.given d from rfl, h.given looks hlooks d hd, askedOf,
      askedOf_congr ht hself looks d (N.there d) hws]
    simp [Notice.owed, Notice.makes]
  size := h.size

end Balance

end DeferredMetrics
