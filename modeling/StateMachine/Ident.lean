/-!
# States and triggers

States and triggers are names chosen by the user; nothing about a name matters but whether it
equals another one. Lists of names are ordered by their characters, which is also the order of
their UTF-8 bytes.

* `State`, `Trigger`: the two kinds of names.
* `State.sort`, `Trigger.sort`: names in ascending order.
* `State.compare`: the order of two names; `State.steps` compares each state with the next one.
* `State.distinct`: how many different names a list holds.
-/

namespace StateMachine

/-- A state, known by its name. -/
structure State where
  name : String
deriving DecidableEq, Inhabited

/-- A trigger, known by its name. -/
structure Trigger where
  name : String
deriving DecidableEq, Inhabited

namespace State

/-- How two states are ordered: by the characters of their names. -/
def compare (s t : State) : Ordering := compareOfLessAndEq s.name t.name

/-- The states in ascending order of their names. -/
def sort (states : List State) : List State := states.mergeSort fun s t => s.name ≤ t.name

/-- The number of different states in a list. -/
def distinct (states : List State) : Nat := states.eraseDups.length

/-- The order of each state against the next one in the list. -/
def steps : List State → List Ordering
  | s :: t :: rest => s.compare t :: steps (t :: rest)
  | _ => []

end State

namespace Trigger

/-- The triggers in ascending order of their names. -/
def sort (triggers : List Trigger) : List Trigger :=
  triggers.mergeSort fun s t => s.name ≤ t.name

end Trigger

end StateMachine
