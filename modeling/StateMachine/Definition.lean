import StateMachine.Chain
import StateMachine.Effect
import StateMachine.Graph
import StateMachine.Index
import StateMachine.Recovery

/-!
# Definitions

A definition owns everything that is declared: the configured states, each with its edges and
callbacks, the side effects, and the plain graph. States and edges stand in lists, in the order of
their declaration. What is looked up by name is found through an index beside its list.

* `Edge`, `Node`: a configured state and the edges that leave it; `Node.edge?` goes through the
  index of the state.
* `Definition`, with `Definition.node?`, `Definition.position?` and `Definition.contains`, which go
  through the index of the definition.
* `Definition.arrows`: all edges, states in the order of their configuration and the edges of one
  state in the order of their registration.
* `Node.Sound`, `Definition.Sound`: whether lists, indexes and graph agree. Then every position that
  an index finds lies inside its list, and what stands there bears the name.
-/

namespace StateMachine

variable {π ν : Type}

/-- An edge that leaves a state. -/
structure Edge (π ν : Type) where
  trigger : Trigger
  destination : State
  guard : Option (Guard π ν)

/-- A configured state. The index tells where the edge of a trigger stands. -/
structure Node (π ν : Type) where
  state : State
  caption : Caption
  edges : List (Edge π ν)
  index : Index Trigger
  entry : Chain π ν
  exit : Chain π ν
  recovery : Recovery π ν

namespace Node

/-- A state on its own, with nothing declared for it. -/
def bare (state : State) (caption : Caption) : Node π ν :=
  ⟨state, caption, [], .empty, .empty, .empty, .empty⟩

/-- The name a state is shown by. -/
def displayName (node : Node π ν) : String := node.caption.name.getD node.state.name

/-- The edge that a trigger takes. -/
def edge? (node : Node π ν) (trigger : Trigger) : Option (Edge π ν) :=
  (node.index.find? trigger).bind fun position => node.edges[position]?

/-- The triggers of a state, in the order of their registration. -/
def triggers (node : Node π ν) : List Trigger := node.edges.map Edge.trigger

/-- The edges of a state as arrows. -/
def arrows (node : Node π ν) : List Arrow :=
  node.edges.map fun e => ⟨node.state, e.trigger, e.destination⟩

/-- Whether the index of a state finds exactly its triggers. -/
def Sound (node : Node π ν) : Prop := node.index.Locates node.triggers

theorem mem_of_edge? {node : Node π ν} {trigger : Trigger} {e : Edge π ν}
    (h : node.edge? trigger = some e) : e ∈ node.edges := by
  obtain ⟨_, -, stands⟩ := Option.bind_eq_some_iff.1 h
  exact List.mem_of_getElem? stands

theorem sound_bare (state : State) (caption : Caption) : (bare state caption : Node π ν).Sound :=
  Index.locates_empty

namespace Sound

variable {node : Node π ν} {trigger : Trigger} {e : Edge π ν}

/-- Each trigger takes the edge that was registered for it. -/
theorem edge?_eq_some_iff (h : node.Sound) :
    node.edge? trigger = some e ↔ e ∈ node.edges ∧ e.trigger = trigger := by
  have stands {position : Nat} : node.index.find? trigger = some position ↔
      ∃ e, node.edges[position]? = some e ∧ e.trigger = trigger := by
    rw [h trigger position, triggers, List.getElem?_map, Option.map_eq_some_iff]
  rw [edge?, Option.bind_eq_some_iff]
  constructor
  · rintro ⟨position, found, he⟩
    obtain ⟨e', he', rfl⟩ := stands.1 found
    obtain rfl := Option.some.inj (he.symm.trans he')
    exact ⟨List.mem_of_getElem? he, rfl⟩
  · rintro ⟨mem, same⟩
    obtain ⟨position, he⟩ := List.mem_iff_getElem?.1 mem
    exact ⟨position, stands.2 ⟨e, he, same⟩, he⟩

theorem edge?_eq_none_iff (h : node.Sound) :
    node.edge? trigger = none ↔ trigger ∉ node.triggers := by
  simp [Option.eq_none_iff_forall_ne_some, h.edge?_eq_some_iff, triggers]

theorem trigger_of_edge? (h : node.Sound) (he : node.edge? trigger = some e) :
    e.trigger = trigger :=
  (h.edge?_eq_some_iff.1 he).2

end Sound

end Node

/-- Everything that is declared. The index tells where the node of a state stands. -/
structure Definition (π ν : Type) where
  nodes : List (Node π ν)
  index : Index State
  graph : Graph
  effects : Bus π ν

namespace Definition

/-- The definition without states. -/
def empty : Definition π ν := ⟨[], .empty, .empty, .empty⟩

/-- The position of a state in the order of configuration. -/
def position? (d : Definition π ν) (state : State) : Option Nat := d.index.find? state

/-- The configured state of a name. -/
def node? (d : Definition π ν) (state : State) : Option (Node π ν) :=
  (d.position? state).bind fun position => d.nodes[position]?

/-- Whether a state is configured. -/
def contains (d : Definition π ν) (state : State) : Bool := d.index.contains state

/-- The number of configured states. -/
def length (d : Definition π ν) : Nat := d.nodes.length

/-- The first configured state. -/
def initial? (d : Definition π ν) : Option State := d.graph.states.head?

/-- All edges, state by state. -/
def arrows (d : Definition π ν) : List Arrow := d.nodes.flatMap Node.arrows

/-- The configured states, in the order of configuration. -/
def states (d : Definition π ν) : List State := d.nodes.map Node.state

/-- Replaces the node at a position. -/
def replace (d : Definition π ν) (position : Nat) (node : Node π ν) : Definition π ν :=
  { d with nodes := d.nodes.set position node }

theorem mem_of_node? {d : Definition π ν} {state : State} {node : Node π ν}
    (h : d.node? state = some node) : node ∈ d.nodes := by
  obtain ⟨_, -, stands⟩ := Option.bind_eq_some_iff.1 h
  exact List.mem_of_getElem? stands

/-- Whether the parts of a definition agree. -/
structure Sound (d : Definition π ν) : Prop where
  /-- The index finds exactly the configured states, each where its node stands. -/
  index : d.index.Locates d.states
  /-- The index of each state finds exactly its triggers, each where its edge stands. -/
  nodes : ∀ node ∈ d.nodes, node.Sound
  /-- The graph has the configured states, in the order of configuration. -/
  states : d.graph.states = d.states
  /-- The arrows that leave a state in the graph are its edges, in the same order. -/
  arrows : ∀ node ∈ d.nodes, d.graph.arrows.filter (fun a => a.source = node.state) = node.arrows
  /-- Every arrow of the graph leaves a configured state. -/
  sources : ∀ a ∈ d.graph.arrows, a.source ∈ d.states

namespace Sound

variable {d : Definition π ν} {state : State} {node : Node π ν}

theorem contains_iff (h : d.Sound) : d.contains state = true ↔ ∃ n ∈ d.nodes, n.state = state := by
  rw [contains, h.index.contains_iff, Definition.states, List.mem_map]

/-- Each name finds the node that bears it. -/
theorem node?_eq_some_iff (h : d.Sound) :
    d.node? state = some node ↔ node ∈ d.nodes ∧ node.state = state := by
  have stands {position : Nat} : d.position? state = some position ↔
      ∃ n, d.nodes[position]? = some n ∧ n.state = state := by
    rw [position?, h.index state position, Definition.states, List.getElem?_map,
      Option.map_eq_some_iff]
  rw [node?, Option.bind_eq_some_iff]
  constructor
  · rintro ⟨position, found, hn⟩
    obtain ⟨n, hn', rfl⟩ := stands.1 found
    obtain rfl := Option.some.inj (hn.symm.trans hn')
    exact ⟨List.mem_of_getElem? hn, rfl⟩
  · rintro ⟨mem, same⟩
    obtain ⟨position, hn⟩ := List.mem_iff_getElem?.1 mem
    exact ⟨position, stands.2 ⟨node, hn, same⟩, hn⟩

theorem node?_eq_none_iff (h : d.Sound) : d.node? state = none ↔ d.contains state = false := by
  rw [← Bool.not_eq_true, h.contains_iff, Option.eq_none_iff_forall_ne_some]
  simp [h.node?_eq_some_iff]

theorem state_of_node? (h : d.Sound) (hn : d.node? state = some node) : node.state = state :=
  (h.node?_eq_some_iff.1 hn).2

theorem exists_node? (h : d.Sound) (configured : d.contains state = true) :
    ∃ node, d.node? state = some node := by
  obtain ⟨node, hnode⟩ := h.contains_iff.1 configured
  exact ⟨node, h.node?_eq_some_iff.2 hnode⟩

end Sound

end Definition

end StateMachine
