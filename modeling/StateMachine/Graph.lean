import StateMachine.Ident

/-!
# Graphs

The plain graph of a definition, as it was declared: its states in the order in which they were
configured, and its arrows in the order in which they were permitted.
-/

namespace StateMachine

/-- An arrow: in its source state, its trigger leads to its destination. -/
structure Arrow where
  source : State
  trigger : Trigger
  destination : State
deriving DecidableEq

/-- States and arrows in the order of their declaration. -/
structure Graph where
  states : List State
  arrows : List Arrow
deriving DecidableEq

/-- The graph without states. -/
def Graph.empty : Graph := ⟨[], []⟩

/-- How a state is shown: its display name and description, where it has them. -/
structure Caption where
  name : Option String
  description : Option String
deriving DecidableEq

/-- The caption of a state that is shown by its own name. -/
def Caption.plain : Caption := ⟨none, none⟩

end StateMachine
