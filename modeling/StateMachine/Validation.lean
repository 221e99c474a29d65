import StateMachine.Definition

/-!
# Validation

A definition should lead nowhere that is not configured, and it is worth knowing which of its
states cannot be left.

* `Definition.diagnostics`: an error for each arrow to a state that is not configured, in the order
  of the graph, followed by a warning for each state without edges, in the order of configuration.
* `Definition.errors`: the errors among them; `Definition.hasErrors`.
* `Definition.validationEvents`, `Definition.compilationEvents`: what is reported meanwhile.
-/

namespace StateMachine

variable {π ν : Type}

/-- The error of an arrow that leads to a state which is not configured. -/
def Arrow.undefined (arrow : Arrow) : Diagnostic where
  severity := .error
  message :=
    s!"State '{arrow.destination.name}' undefined: Trigger '{arrow.trigger.name}'" ++
      " declares a transition to this undefined state."

/-- The warning of a state without edges. -/
def State.deadEnd (state : State) : Diagnostic where
  severity := .warning
  message := s!"State '{state.name}' is a state without any triggers (deadend state)."

namespace Definition

/-- The arrows that lead to a state which is not configured, in the order of the graph. -/
def danglingArrows (d : Definition π ν) : List Arrow :=
  d.graph.arrows.filter fun a => !d.contains a.destination

/-- The states without edges, in the order of configuration. -/
def deadEnds (d : Definition π ν) : List State :=
  (d.nodes.filter fun n => n.edges.isEmpty).map Node.state

/-- All findings, the errors first. -/
def diagnostics (d : Definition π ν) : List Diagnostic :=
  d.danglingArrows.map Arrow.undefined ++ d.deadEnds.map State.deadEnd

/-- The errors among the findings. -/
def errors (d : Definition π ν) : List Diagnostic := d.diagnostics.filter Diagnostic.isError

/-- The warnings among the findings. -/
def warnings (d : Definition π ν) : List Diagnostic :=
  d.diagnostics.filter fun f => f.severity = .warning

/-- Whether there is an error among the findings. -/
def hasErrors (d : Definition π ν) : Bool := d.diagnostics.any Diagnostic.isError

/-- What is reported when a definition is validated. -/
def validationEvents (d : Definition π ν) : List Event := d.diagnostics.map Event.found

/-- What is reported when a definition is compiled. -/
def compilationEvents (d : Definition π ν) : List Event :=
  d.validationEvents ++
    [.compiled d.length d.graph.arrows.length d.diagnostics.length]

theorem errors_eq (d : Definition π ν) : d.errors = d.danglingArrows.map Arrow.undefined := by
  rw [errors, diagnostics, List.filter_append, List.filter_eq_self.2, List.filter_eq_nil_iff.2,
    List.append_nil] <;>
  simp [Diagnostic.isError, Arrow.undefined, State.deadEnd]

theorem warnings_eq (d : Definition π ν) : d.warnings = d.deadEnds.map State.deadEnd := by
  rw [warnings, diagnostics, List.filter_append, List.filter_eq_nil_iff.2, List.filter_eq_self.2,
    List.nil_append] <;>
  simp [Arrow.undefined, State.deadEnd]

end Definition

end StateMachine
