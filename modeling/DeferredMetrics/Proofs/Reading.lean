import DeferredMetrics.Proofs.Discovering
import DeferredMetrics.Proofs.Traits

set_option autoImplicit false

/-! # How often a configuration is read

Operations read no configuration (`Trait.unread`), factories neither, except that a registration
without a provider reads its own when it is asked for one: once, whatever comes of it
(`Op.lookUps_getProvider`). -/

namespace DeferredMetrics

/-- The keys that are seen to be asked for when the source is asked for `key`: settings show that
they are asked, the environment does not. -/
def Source.shownKeys (source : Source) (key : String) : List String :=
  match source with
  | .settings _ => [key]
  | .environment => []

/-- Operations read no configuration. -/
def Trait.unread : Trait :=
  .keeping (fun s s' => s'.lookUps = s.lookUps) (fun _ => rfl) (fun h h' => h'.trans h)
    fun h => h.lookUps

namespace Op

variable {α β : Type} {s : Store}

theorem unread_coversRegistries : CoversRegistries .unread where
  see he := fun s => by simp [left, see, modify_run, Store.lookUps, Store.see, he]
  update _ _ := fun _ => rfl

/-- Factories read no configuration. -/
theorem unread_instantiate (depth : Nat) : (instantiate depth).Has .unread :=
  has_instantiate unread_coversRegistries depth

/-- What is done next reads no configuration. -/
theorem lookUps_bind {op : Op α} {f : α → Op β} {keys : List String}
    (h : (op.left s).lookUps = keys) (hf : ∀ a, Trait.unread.Has (f a)) :
    ((op >>= f).left s).lookUps = keys := by
  cases hrun : op s with
  | error halt s' =>
      rw [left_of_error hrun] at h
      rwa [left_bind_of_error hrun]
  | ok a s' =>
      rw [left_of_ok hrun] at h
      rw [left_bind_of_ok hrun]
      exact (hf a s').trans h

theorem lookUps_lookUp (source : Source) (key : String) :
    ((lookUp source key).left s).lookUps = s.lookUps ++ source.shownKeys key := by
  cases source with
  | settings values =>
      simp [lookUp, left, bind_run, see_run, pure_run, Store.lookUps, Store.see, Source.shownKeys,
        Event.lookedUp?]
  | environment => exact (List.append_nil _).symm

theorem lookUps_resolve (depth : Nat) (r : RegistrationRef) :
    ((resolve depth r).left s).lookUps = s.lookUps ++
      (s.registration r).discovery.source.shownKeys (s.registration r).discovery.key := by
  show ((lookUp _ _ >>= _).left s).lookUps = _
  -- the key is shown first; what is done with the value shows none
  refine lookUps_bind (lookUps_lookUp _ _) fun value => ?_
  cases value with
  | none => exact Trait.unread.pure _
  | some value =>
      simp only
      split
      · exact Trait.unread.pure _
      · exact (unread_instantiate depth _ _ _).bind fun _ => Trait.unread.pure _

/-- A registration that is asked for its provider and has none reads its configuration once. -/
theorem lookUps_getProvider (depth : Nat) {r : RegistrationRef}
    (hslot : (s.registration r).provider = none) :
    ((getProvider depth r).left s).lookUps = s.lookUps ++
      (s.registration r).discovery.source.shownKeys (s.registration r).discovery.key := by
  rw [getProvider, left_bind_of_ok (registered_run hslot)]
  exact lookUps_bind (lookUps_resolve depth r) fun found => has_adoptFound r found

end Op

end DeferredMetrics
