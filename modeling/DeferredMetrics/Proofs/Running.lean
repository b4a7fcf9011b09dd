import DeferredMetrics.Store.Chain

set_option autoImplicit false

/-! # Running an operation

An operation on the store runs one part after the other: `bind_run` and its companions say what
each way of putting parts together does to a store, so that proofs about an operation read its
parts off in order. `left` is the store that is left, whether there is an answer or not. -/

namespace DeferredMetrics

namespace Op

variable {α β : Type}

theorem bind_run (op : Op α) (f : α → Op β) (s : Store) :
    (op >>= f) s = match op s with
      | .ok a s' => f a s'
      | .error h s' => .error h s' := by
  show EStateM.bind op f s = _
  unfold EStateM.bind
  cases op s <;> rfl

theorem bind_of_ok {op : Op α} {f : α → Op β} {s s' : Store} {a : α} (h : op s = .ok a s') :
    (op >>= f) s = f a s' := by
  rw [bind_run, h]

theorem bind_of_error {op : Op α} {f : α → Op β} {s s' : Store} {e : Halt}
    (h : op s = .error e s') : (op >>= f) s = .error e s' := by
  rw [bind_run, h]

@[simp] theorem pure_run (a : α) (s : Store) : (pure a : Op α) s = .ok a s := rfl

theorem map_run (f : α → β) (op : Op α) (s : Store) :
    (f <$> op) s = match op s with
      | .ok a s' => .ok (f a) s'
      | .error h s' => .error h s' := by
  show EStateM.map f op s = _
  unfold EStateM.map
  cases op s <;> rfl

@[simp] theorem get_run (s : Store) : (get : Op Store) s = .ok s s := rfl

@[simp] theorem modify_run (f : Store → Store) (s : Store) :
    (modify f : Op Unit) s = .ok () (f s) := rfl

@[simp] theorem see_run (e : Event) (s : Store) : see e s = .ok () (s.see e) := rfl

@[simp] theorem note_run (c : Call) (s : Store) : note c s = .ok () (s.note c) := rfl

theorem providerEnd_of_some {r e : ProviderRef} {s : Store} (h : s.providerEnd? r = some e) :
    providerEnd r s = .ok e s := by
  rw [providerEnd, bind_of_ok (get_run s), h]
  rfl

theorem providerEnd_of_none {r : ProviderRef} {s : Store} (h : s.providerEnd? r = none) :
    providerEnd r s = .error .waiting s := by
  rw [providerEnd, bind_of_ok (get_run s), h]
  rfl

theorem meterEnd_of_some {r e : MeterRef} {s : Store} (h : s.meterEnd? r = some e) :
    meterEnd r s = .ok e s := by
  rw [meterEnd, bind_of_ok (get_run s), h]
  rfl

theorem meterEnd_of_none {r : MeterRef} {s : Store} (h : s.meterEnd? r = none) :
    meterEnd r s = .error .waiting s := by
  rw [meterEnd, bind_of_ok (get_run s), h]
  rfl

theorem instrumentEnd_of_some {r e : InstrumentRef} {s : Store} (h : s.instrumentEnd? r = some e) :
    instrumentEnd r s = .ok e s := by
  rw [instrumentEnd, bind_of_ok (get_run s), h]
  rfl

theorem instrumentEnd_of_none {r : InstrumentRef} {s : Store} (h : s.instrumentEnd? r = none) :
    instrumentEnd r s = .error .waiting s := by
  rw [instrumentEnd, bind_of_ok (get_run s), h]
  rfl

theorem named_of_some {roster : Directory → Roster α} {name : String} {s : Store} {x : α}
    (h : (roster s.directory).get? name = some x) : named roster name s = .ok x s := by
  rw [named, bind_of_ok (get_run s), h]
  rfl

theorem named_of_none {roster : Directory → Roster α} {name : String} {s : Store}
    (h : (roster s.directory).get? name = none) :
    named roster name s = .error (.unnamed name) s := by
  rw [named, bind_of_ok (get_run s), h]
  rfl

/-- The store that an operation leaves. -/
def left (op : Op α) (s : Store) : Store :=
  match op s with
  | .ok _ s' => s'
  | .error _ s' => s'

theorem left_of_eq {op op' : Op α} {s s' : Store} (h : op s = op' s') :
    op.left s = op'.left s' := by
  rw [left, h, ← left]

theorem left_of_ok {op : Op α} {s s' : Store} {a : α} (h : op s = .ok a s') : op.left s = s' := by
  simp [left, h]

theorem left_of_error {op : Op α} {s s' : Store} {e : Halt} (h : op s = .error e s') :
    op.left s = s' := by
  simp [left, h]

theorem left_bind_of_ok {op : Op α} {f : α → Op β} {s s' : Store} {a : α} (h : op s = .ok a s') :
    (op >>= f).left s = (f a).left s' := by
  rw [left, left, bind_of_ok h]

theorem left_bind_of_error {op : Op α} {f : α → Op β} {s s' : Store} {e : Halt}
    (h : op s = .error e s') : (op >>= f).left s = s' := left_of_error (bind_of_error h)

/-- What is made of an answer leaves nothing else. -/
theorem left_bind_pure (op : Op α) (f : α → β) (s : Store) :
    (op >>= fun a => pure (f a)).left s = op.left s := by
  rw [left, left, bind_run]
  cases op s <;> rfl

end Op

end DeferredMetrics
