import DeferredMetrics.Scenario.Run

set_option autoImplicit false

/-! # The API that does nothing

What a program sees of an API that discards everything can be told from the program alone: a meter
is given its scope and an instrument its descriptor, samples vanish, and every batch is empty
(`Inert`). A program is a list of steps that ask for meters, at a registration or a provider, and
for instruments, and use them (`Step.uses`). -/

namespace DeferredMetrics

/-! ## Programs -/

namespace Step

/-- The step uses the API through the registration or directly through the provider. -/
def uses (registration provider : String) : Step → Bool
  | .getMeter name _ _ => decide (name = registration)
  | .meter name _ _ => decide (name = provider)
  | .scope _ => true
  | .create .. => true
  | .add .. => true
  | .increment .. => true
  | .record .. => true
  | .observe _ => true
  | .descriptor _ => true
  | .polls _ => true
  | _ => false

/-- The step offers the provider to the registration, has the registration discover one, or
configures none or a discarding one. -/
def installs (registration provider : String) : Step → Bool
  | .setProvider name offered => decide (name = registration) && decide (offered = provider)
  | .getProvider name => decide (name = registration)
  | .configure name _ value => decide (name = registration) &&
      value.all fun v => (trim v).isEmpty || decide (trim v = Registry.noopName)
  | _ => false

/-- The step with the provider in the place of the registration. -/
def direct (provider : String) : Step → Step
  | .getMeter _ id asked => .meter provider id asked
  | x => x

end Step

namespace Reply

/-- The reply without saying whether the object was issued by a deferred one. -/
def unissued : Reply → Reply
  | .meter x _ => .meter x false
  | .instrument x _ => .instrument x false
  | x => x

/-- Nothing has panicked, and what was observed is empty. -/
def harmless : Reply → Bool
  | .halted (.unnamed _) => true
  | .halted _ => false
  | .batch b => b.isEmpty
  | _ => true

end Reply

/-! ## What a program sees -/

/-- What an API that discards everything has to remember of a program: its callbacks, the scopes of
its meters, and what its instruments were created for. -/
structure Inert where
  callbacks : Table .callback Callback
  callbackNames : Roster CallbackRef
  meters : Roster Scope
  instruments : Roster Request

namespace Inert

/-- A program that has asked for nothing yet. -/
def blank (s : Store) : Inert := ⟨s.callbacks, s.directory.callbacks, .empty, .empty⟩

/-- What is under a name, if anything is. -/
def named {α : Type} (known : Roster α) (name : String) : Except Halt α :=
  match known.get? name with
  | some x => .ok x
  | none => .error (.unnamed name)

/-- The callback that an instrument of a kind is created with. -/
def callbackFor (a : Inert) (id : String) (kind : Kind) (callback : Option String) :
    Except Halt (Option CallbackRef) :=
  match kind.isObservable, callback with
  | true, some name => do return some (← named a.callbackNames name)
  | true, none => .error (.unnamed id)
  | false, _ => return none

/-- Only counters take integers. -/
def takesInteger (name : String) : Kind → Except Halt Unit
  | .counter => return ()
  | .upDownCounter => return ()
  | _ => .error (.unnamed name)

/-- Give an integer to an instrument. -/
def add (a : Inert) (instrument : String) : Except Halt Unit := do
  let request ← named a.instruments instrument
  takesInteger instrument request.kind

/-- Give out a meter. -/
def addMeter (a : Inert) (id : String) (scope : Scope) : Reply × Inert :=
  (.meter scope false, { a with meters := a.meters.insert id scope })

/-- Do a step of a program. -/
def perform (a : Inert) : Step → Except Halt (Reply × Inert)
  | .getMeter _ id scope => return a.addMeter id scope
  | .meter _ id scope => return a.addMeter id scope
  | .scope meter => do return (.scope (← named a.meters meter), a)
  | .create meter id kind descriptor callback => do
      let _ ← named a.meters meter
      let c ← a.callbackFor id kind callback
      return (.instrument descriptor false,
        { a with instruments := a.instruments.insert id ⟨kind, descriptor, c⟩ })
  | .add instrument _ _ => do
      a.add instrument
      return (.nothing, a)
  | .increment instrument _ => do
      a.add instrument
      return (.nothing, a)
  | .record instrument _ _ => do
      let _ ← named a.instruments instrument
      return (.nothing, a)
  | .observe instrument => do
      let _ ← named a.instruments instrument
      return (.batch [], a)
  | .descriptor instrument => do
      let request ← named a.instruments instrument
      return (.descriptor request.descriptor, a)
  | .polls callback => do
      let c ← named a.callbackNames callback
      return (.count (a.callbacks.get c).shownCalls, a)
  | _ => return (.nothing, a)

/-- The reply to a step, and what is remembered then. -/
def step (a : Inert) (x : Step) : Reply × Inert :=
  match a.perform x with
  | .ok result => result
  | .error halt => (.halted halt, a)

/-- The replies to steps. -/
def replies : Inert → List Step → List Reply
  | _, [] => []
  | a, x :: xs => (a.step x).1 :: replies (a.step x).2 xs

/-- It is harmless what comes of a step, and callbacks are as they were. -/
def Tame (a : Inert) : Except Halt (Reply × Inert) → Prop
  | .ok (reply, a') => reply.harmless = true ∧ a'.callbacks = a.callbacks
  | .error halt => (Reply.halted halt).harmless = true

theorem tame_named_bind {α : Type} (a : Inert) {known : Roster α} {name : String}
    {f : α → Except Halt (Reply × Inert)} (hf : ∀ x, a.Tame (f x)) :
    a.Tame (named known name >>= f) := by
  unfold named
  cases known.get? name with
  | none => rfl
  | some x => exact hf x

theorem tame_callbackFor_bind (a : Inert) (id : String) (kind : Kind) (callback : Option String)
    {f : Option CallbackRef → Except Halt (Reply × Inert)} (hf : ∀ c, a.Tame (f c)) :
    a.Tame (a.callbackFor id kind callback >>= f) := by
  unfold callbackFor
  cases kind.isObservable with
  | false => exact hf none
  | true =>
      cases callback with
      | none => rfl
      | some name =>
          simp only
          rw [bind_assoc]
          exact a.tame_named_bind fun c => hf (some c)

theorem tame_add (a : Inert) (instrument : String) :
    a.Tame (a.add instrument >>= fun _ => pure (.nothing, a)) := by
  rw [add, bind_assoc]
  refine a.tame_named_bind fun request => ?_
  cases request.kind <;> first | exact ⟨rfl, rfl⟩ | rfl

theorem tame_perform (a : Inert) (x : Step) : a.Tame (a.perform x) := by
  cases x with
  | scope meter => exact a.tame_named_bind fun _ => ⟨rfl, rfl⟩
  | create meter id kind descriptor callback =>
      exact a.tame_named_bind fun _ => a.tame_callbackFor_bind id kind callback fun _ => ⟨rfl, rfl⟩
  | add instrument value attributes => exact a.tame_add instrument
  | increment instrument attributes => exact a.tame_add instrument
  | record instrument value attributes => exact a.tame_named_bind fun _ => ⟨rfl, rfl⟩
  | observe instrument => exact a.tame_named_bind fun _ => ⟨rfl, rfl⟩
  | descriptor instrument => exact a.tame_named_bind fun _ => ⟨rfl, rfl⟩
  | polls callback => exact a.tame_named_bind fun _ => ⟨rfl, rfl⟩
  | _ => exact ⟨rfl, rfl⟩

theorem tame_step (a : Inert) (x : Step) :
    (a.step x).1.harmless = true ∧ (a.step x).2.callbacks = a.callbacks := by
  have htame := a.tame_perform x
  unfold step
  cases hx : a.perform x with
  | ok result =>
      rw [hx] at htame
      exact htame
  | error halt =>
      rw [hx] at htame
      exact ⟨htame, rfl⟩

theorem harmless_replies (a : Inert) {steps : List Step} {reply : Reply}
    (hreply : reply ∈ a.replies steps) : reply.harmless = true := by
  induction steps generalizing a with
  | nil => cases hreply
  | cons x steps ih =>
      rcases List.mem_cons.1 hreply with rfl | hreply
      · exact (a.tame_step x).1
      · exact ih _ hreply

/-- The API does not tell where a meter was asked for. -/
theorem replies_direct (a : Inert) (provider : String) (steps : List Step) :
    a.replies (steps.map (Step.direct provider)) = a.replies steps := by
  have hstep : ∀ (a : Inert) (x : Step), a.step (x.direct provider) = a.step x := by
    intro a x
    cases x <;> rfl
  induction steps generalizing a with
  | nil => rfl
  | cons x steps ih => rw [List.map_cons, replies, replies, hstep, ih]

end Inert

end DeferredMetrics
