import StateMachine.Validation

/-!
# Diagrams

A definition may be drawn if it has a state and no arrow of it leads to a state that is not
configured. Here is what keeps one from being drawn; the drawings are in `Diagram.Uml` and
`Diagram.Dot`.

* `RenderError`: why no diagram was made.
* `Definition.refusal?`: the reason to refuse a definition.
* `Definition.drawable`: the initial state of a definition that may be drawn.
-/

namespace StateMachine

/-- Why no diagram was made. -/
inductive RenderError
  | compileErrors (count : Nat)
  | noStates
  | io (failure : Failure)
deriving DecidableEq

namespace RenderError

/-- What the error says. -/
def message : RenderError → String
  | compileErrors count => s!"critical errors exist in definition ({count} compile errors)"
  | noStates => "definition has no states"
  | io f => s!"failed to write diagram: {f.text}"

/-- The code of the error, for reports. -/
def code : RenderError → String
  | compileErrors _ => "COMPILE_ERRORS"
  | noStates => "NO_STATES"
  | io _ => "IO_ERROR"

/-- The messages of the errors behind this one. -/
def sources : RenderError → List String
  | io f => f.texts
  | _ => []

end RenderError

namespace Definition

variable {π ν : Type}

/-- The reason not to draw a definition, if there is one. -/
def refusal? (d : Definition π ν) : Option RenderError :=
  if d.hasErrors then some (.compileErrors d.errors.length)
  else if d.nodes.isEmpty then some .noStates
  else none

/-- The initial state of a definition that may be drawn. -/
def drawable (d : Definition π ν) : Except RenderError State :=
  match d.refusal? with
  | some reason => .error reason
  | none =>
    match d.initial? with
    | some state => .ok state
    | none => .error .noStates

end Definition

end StateMachine
