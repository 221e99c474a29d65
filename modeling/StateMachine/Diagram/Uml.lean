import StateMachine.Diagram

/-!
# State diagrams

The text of a state diagram: a first line that names the initial state, then one line for each
arrow, in the order of `Definition.arrows`.
-/

namespace StateMachine

/-- The line of an arrow. -/
def Arrow.uml (a : Arrow) : String :=
  s!"{a.source.name} --> {a.destination.name} : {a.trigger.name}\n"

namespace Definition

variable {π ν : Type}

/-- The state diagram of a definition. -/
def uml (d : Definition π ν) : Except RenderError String :=
  match d.drawable with
  | .error reason => .error reason
  | .ok initial =>
    .ok (s!"@startuml\n[*] -> {initial.name} \n" ++ String.join (d.arrows.map Arrow.uml) ++
      "@enduml")

end Definition

end StateMachine
