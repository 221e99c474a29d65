import StateMachine.Definition

/-!
# Declarations

A definition grows by declarations: a state is configured or reopened, with clauses that add
callbacks and edges to it, or a side effect is registered. A state may be configured once, and in
one state a trigger may be permitted once; a refused declaration changes nothing, but the clauses
before it stay.

* `Clause`: what may be declared for a state; `Node.extend` adds one to a node.
* `Declaration`: what may be declared for a definition; `Definition.declare` adds one.
* `Declared`: what a declaration is answered.
* `Definition.build`: the definition that a list of declarations leaves.

A callback without a label gets one that tells its state, its list and its position there.
-/

namespace StateMachine

variable {π ν : Type}

/-- A clause of the declaration of a state. -/
inductive Clause (π ν : Type) where
  /-- Adds an entry step, for every trigger or for one. -/
  | onEntry (trigger : Option Trigger) (label : Option String)
      (operation : π → Context → Code π ν)
  /-- Adds an exit step, for every trigger or for one. -/
  | onExit (trigger : Option Trigger) (label : Option String)
      (operation : π → Context → Code π ν)
  /-- Adds an error handler. -/
  | onError (label : Option String) (operation : π → Context → ChainError → Code π ν)
  /-- Permits a trigger, perhaps under a guard. -/
  | permit (trigger : Trigger) (destination : State) (guard : Option (Guard π ν))
  /-- Permits a trigger under a condition, which gets a label of its own. -/
  | permitIf (trigger : Trigger) (destination : State) (code : π → Context → Code π ν)

/-- The arrow that a clause adds to the graph, if it is one that permits. -/
def Clause.arrow? (source : State) : Clause π ν → Option Arrow
  | permit trigger destination _ => some ⟨source, trigger, destination⟩
  | permitIf trigger destination _ => some ⟨source, trigger, destination⟩
  | _ => none

namespace Node

/-- The label of a callback that was given none. -/
def defaultLabel (node : Node π ν) (kind : String) (position : Nat) : String :=
  s!"{node.state.name}.{kind}#{position}"

/-- The kind of a step in a default label; a step for one trigger tells it. -/
def stepKind (kind : String) : Option Trigger → String
  | none => kind
  | some t => s!"{kind}[{t.name}]"

/-- The step that a clause adds after the given number of others. -/
def step (node : Node π ν) (kind : String) (position : Nat) (trigger : Option Trigger)
    (label : Option String) (operation : π → Context → Code π ν) : Step π ν where
  guard := trigger.map Guard.triggerIs
  label := label.getD (node.defaultLabel (stepKind kind trigger) position)
  operation := operation

/-- Adds an edge, unless its trigger is already permitted. -/
def permit (node : Node π ν) (edge : Edge π ν) : Except ConfigurationError (Node π ν) :=
  if node.index.contains edge.trigger then
    .error (.duplicateTrigger node.state edge.trigger)
  else
    .ok { node with
      edges := node.edges ++ [edge]
      index := node.index.insert edge.trigger node.edges.length }

/-- Adds what a clause declares. -/
def extend (node : Node π ν) : Clause π ν → Except ConfigurationError (Node π ν)
  | .onEntry trigger label operation =>
    .ok { node with
      entry := node.entry.push
        (node.step "on_entry" node.entry.length trigger label operation) }
  | .onExit trigger label operation =>
    .ok { node with
      exit := node.exit.push (node.step "on_exit" node.exit.length trigger label operation) }
  | .onError label operation =>
    .ok { node with
      recovery := node.recovery.push
        ⟨label.getD (node.defaultLabel "on_error" node.recovery.length), operation⟩ }
  | .permit trigger destination guard => node.permit ⟨trigger, destination, guard⟩
  | .permitIf trigger destination code =>
    node.permit
      ⟨trigger, destination,
        some (.predicate s!"{node.state.name}.{trigger.name}.guard" code)⟩

end Node

/-- A declaration. -/
inductive Declaration (π ν : Type) where
  | configure (state : State) (caption : Caption) (clauses : List (Clause π ν))
  | reopen (state : State) (clauses : List (Clause π ν))
  | effect (filter : Filter) (label : Option String)
      (callback : Phase → π → Context → Nat → Code π ν)

/-- The answer to a declaration. -/
inductive Declared
  /-- All clauses were added to the state, which has the given position. -/
  | state (position : Nat) (state : State) (clauses : Nat)
  /-- The state could not be configured. -/
  | refused (error : ConfigurationError)
  /-- A clause was refused, after so many were added. -/
  | stopped (error : ConfigurationError) (clauses : Nat)
  /-- There is no such state to reopen. -/
  | missing
  /-- The side effect was registered; there are so many now. -/
  | effect (registered : Nat)
deriving DecidableEq

namespace Definition

/-- Adds one clause to the node at a position. -/
def addClause (d : Definition π ν) (position : Nat) (node : Node π ν) (clause : Clause π ν) :
    Except ConfigurationError (Definition π ν) :=
  match node.extend clause with
  | .error e => .error e
  | .ok extended =>
    .ok { d.replace position extended with
      graph := { d.graph with
        arrows := d.graph.arrows ++ (clause.arrow? node.state).toList } }

/-- Adds clauses to the state at a position until one is refused, and counts those that were
added. -/
def addClauses (state : State) (position : Nat) (added : Nat) :
    Definition π ν → List (Clause π ν) → Definition π ν × Declared
  | d, [] => (d, .state position state added)
  | d, clause :: rest =>
    match d.nodes[position]? with
    | none => (d, .missing)
    | some node =>
      match d.addClause position node clause with
      | .error e => (d, .stopped e added)
      | .ok d' => addClauses state position (added + 1) d' rest

/-- Adds a state with nothing declared for it. -/
def addState (d : Definition π ν) (state : State) (caption : Caption) : Definition π ν :=
  { d with
    nodes := d.nodes ++ [.bare state caption]
    index := d.index.insert state d.nodes.length
    graph := { d.graph with states := d.graph.states ++ [state] } }

/-- Registers a side effect. -/
def addEffect (d : Definition π ν) (effect : Effect π ν) : Definition π ν :=
  { d with effects := d.effects.push effect }

/-- Adds a declaration, and answers it. -/
def declare (d : Definition π ν) : Declaration π ν → Definition π ν × Declared
  | .configure state caption clauses =>
    if d.contains state then (d, .refused (.duplicateState state))
    else addClauses state d.length 0 (d.addState state caption) clauses
  | .reopen state clauses =>
    match d.position? state with
    | none => (d, .missing)
    | some position => addClauses state position 0 d clauses
  | .effect filter label callback =>
    let label := label.getD s!"side_effect#{d.effects.length}"
    let d' := d.addEffect ⟨filter, label, callback⟩
    (d', .effect d'.effects.length)

/-- The definition that a list of declarations leaves. -/
def build (declarations : List (Declaration π ν)) : Definition π ν :=
  declarations.foldl (fun d declaration => (d.declare declaration).1) empty

end Definition

end StateMachine
