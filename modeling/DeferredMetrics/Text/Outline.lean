import DeferredMetrics.Text.Quoted

set_option autoImplicit false

/-! # Outlines

An outline shows the parts of an object on one line, for people who look for faults: texts in
quotes, lists in brackets, and objects by their name and their fields in braces. An object may hide
fields, and then two dots stand where they would be. -/

namespace DeferredMetrics

/-- The parts of an object as they are shown. -/
inductive Outline where
  | text (t : String)
  | flag (b : Bool)
  | count (n : Nat)
  | absent
  | present (o : Outline)
  | list (os : List Outline)
  | object (name : String) (fields : List (String × Outline)) (complete : Bool)

namespace Outline

/-- A text that may be absent. -/
def optional (t : Option String) : Outline :=
  match t with
  | some t => .present (.text t)
  | none => .absent

/-- The texts with a comma between them. -/
def separated (parts : List String) : String := ", ".intercalate parts

/-- An object whose shown fields are written already. -/
def renderObject (name : String) (fields : List String) (complete : Bool) : String :=
  let parts := if complete then fields else fields ++ [".."]
  if parts.isEmpty then name else name ++ " \x7b " ++ separated parts ++ " \x7d"

mutual

/-- The outline on one line. -/
def render : Outline → String
  | .text t => quote t
  | .flag b => if b then "true" else "false"
  | .count n => toString n
  | .absent => "None"
  | .present o => "Some(" ++ render o ++ ")"
  | .list os => "[" ++ separated (renderList os) ++ "]"
  | .object name fields complete => renderObject name (renderFields fields) complete

/-- The outlines of a list, each on its own. -/
def renderList : List Outline → List String
  | [] => []
  | o :: os => render o :: renderList os

/-- The fields of an object, each with its name. -/
def renderFields : List (String × Outline) → List String
  | [] => []
  | (name, o) :: fields => (name ++ ": " ++ render o) :: renderFields fields

end

end Outline

end DeferredMetrics
