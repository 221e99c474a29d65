import StateMachine.Declaration

/-!
# Soundness

Lists, indexes and graph of a definition are kept by separate statements of each declaration. They
agree all the same, whatever is declared and whatever is refused.

* `Node.state_extend`, `Node.arrows_extend`, `Node.Sound.extend`: what a clause does to a state.
* `Definition.addClause_eq_ok`: what a clause does to a definition.
* `Definition.Sound.addClause`, `Definition.Sound.addState`, `Definition.Sound.declare`: one step.
* `Definition.sound_build`: every list of declarations leaves a sound definition.
-/

namespace StateMachine

variable {π ν : Type}

/-! ## Clauses -/

theorem Clause.source_of_arrow? {clause : Clause π ν} {state : State} {a : Arrow}
    (h : clause.arrow? state = some a) : a.source = state := by
  cases clause <;> cases h <;> rfl

namespace Node

variable {node extended : Node π ν} {edge : Edge π ν} {clause : Clause π ν}

/-- An edge that is permitted is added at the end, and so is its place in the index. -/
theorem permit_eq_ok (h : node.permit edge = .ok extended) :
    node.index.contains edge.trigger = false ∧
      extended = { node with
        edges := node.edges ++ [edge]
        index := node.index.insert edge.trigger node.edges.length } := by
  unfold permit at h
  split at h
  · exact nomatch h
  · next new => exact ⟨Bool.eq_false_iff.2 new, (Except.ok.inj h).symm⟩

/-- A clause either permits an edge, or leaves the edges and their index alone. -/
theorem extend_eq_ok (h : node.extend clause = .ok extended) :
    extended.state = node.state ∧
      ((∃ edge, node.permit edge = .ok extended ∧
          clause.arrow? node.state = some ⟨node.state, edge.trigger, edge.destination⟩) ∨
        clause.arrow? node.state = none ∧ extended.edges = node.edges ∧
          extended.index = node.index) := by
  cases clause with
  | permit trigger destination guard =>
    have permitted : node.permit ⟨trigger, destination, guard⟩ = .ok extended := h
    obtain ⟨-, rfl⟩ := permit_eq_ok permitted
    exact ⟨rfl, .inl ⟨_, permitted, rfl⟩⟩
  | permitIf trigger destination code =>
    have permitted : node.permit ⟨trigger, destination, some (.predicate _ code)⟩ =
        .ok extended := h
    obtain ⟨-, rfl⟩ := permit_eq_ok permitted
    exact ⟨rfl, .inl ⟨_, permitted, rfl⟩⟩
  | _ =>
    obtain rfl := Except.ok.inj h
    exact ⟨rfl, .inr ⟨rfl, rfl, rfl⟩⟩

theorem state_extend (h : node.extend clause = .ok extended) : extended.state = node.state :=
  (extend_eq_ok h).1

/-- A clause adds to a state the edge that it permits, and nothing else changes the edges. -/
theorem arrows_extend (h : node.extend clause = .ok extended) :
    extended.arrows = node.arrows ++ (clause.arrow? node.state).toList := by
  obtain ⟨same, ⟨edge, permitted, arrow⟩ | ⟨arrow, edges, -⟩⟩ := extend_eq_ok h
  · obtain ⟨-, rfl⟩ := permit_eq_ok permitted
    simp [arrows, arrow]
  · simp [arrows, same, edges, arrow]

/-- A clause leaves the index in agreement with the edges. -/
theorem Sound.extend (sound : node.Sound) (h : node.extend clause = .ok extended) :
    extended.Sound := by
  obtain ⟨-, ⟨edge, permitted, -⟩ | ⟨-, edges, index⟩⟩ := extend_eq_ok h
  · obtain ⟨new, rfl⟩ := permit_eq_ok permitted
    have located := Index.Locates.insert sound new
    rwa [triggers, List.length_map, ← List.map_singleton (f := Edge.trigger),
      ← List.map_append] at located
  · rw [Sound, index, triggers, edges]
    exact sound

end Node

/-! ## Declarations -/

namespace Definition

variable {d d' : Definition π ν}

theorem sound_empty : (empty : Definition π ν).Sound where
  index := Index.locates_empty
  nodes _ h := nomatch h
  states := rfl
  arrows _ h := nomatch h
  sources _ h := nomatch h

/-- A node that takes another's place under the same name leaves the states as they are. -/
theorem states_replace {position : Nat} {node node' : Node π ν}
    (stands : d.nodes[position]? = some node) (same : node'.state = node.state) :
    (d.replace position node').states = d.states := by
  obtain ⟨inside, rfl⟩ := List.getElem?_eq_some_iff.1 stands
  rw [states, replace, List.map_set, same, ← List.getElem_map Node.state]
  · exact List.set_getElem_self _
  · simpa using inside

/-- A node of the definition afterwards is the new one, or one that stands at another position and
bears another name. -/
theorem mem_replace (sound : d.Sound) {position : Nat} {node node' n : Node π ν}
    (stands : d.nodes[position]? = some node) (mem : n ∈ (d.replace position node').nodes) :
    n = node' ∨ n ∈ d.nodes ∧ n.state ≠ node.state := by
  obtain ⟨i, hi⟩ := List.mem_iff_getElem?.1 mem
  rw [replace, List.getElem?_set] at hi
  split at hi
  · split at hi
    · exact .inl (Option.some.inj hi).symm
    · exact nomatch hi
  · next other =>
    refine .inr ⟨List.mem_of_getElem? hi, fun same => other ?_⟩
    have first : d.index.find? node.state = some position :=
      (sound.index _ _).2 (by rw [states, List.getElem?_map, stands, Option.map_some])
    have second : d.index.find? node.state = some i :=
      (sound.index _ _).2 (by rw [states, List.getElem?_map, hi, Option.map_some, same])
    exact Option.some.inj (first.symm.trans second)

/-- A clause changes the node at its position, and adds the arrow that it permits to the graph. -/
theorem addClause_eq_ok {position : Nat} {node : Node π ν} {clause : Clause π ν}
    (h : d.addClause position node clause = .ok d') :
    ∃ extended, node.extend clause = .ok extended ∧
      d' = { d.replace position extended with
        graph := { d.graph with
          arrows := d.graph.arrows ++ (clause.arrow? node.state).toList } } := by
  unfold addClause at h
  split at h
  · exact nomatch h
  · next extended hext => exact ⟨extended, hext, (Except.ok.inj h).symm⟩

namespace Sound

theorem addClause (sound : d.Sound) {position : Nat} {node : Node π ν} {clause : Clause π ν}
    (stands : d.nodes[position]? = some node) (hd : d.addClause position node clause = .ok d') :
    d'.Sound := by
  have mem : node ∈ d.nodes := List.mem_of_getElem? stands
  obtain ⟨extended, hext, rfl⟩ := addClause_eq_ok hd
  have states : (d.replace position extended).states = d.states :=
    states_replace stands (Node.state_extend hext)
  refine ⟨?_, fun n hn => ?_, ?_, fun n hn => ?_, fun a ha => ?_⟩
  · exact states ▸ sound.index
  · rcases mem_replace sound stands hn with rfl | ⟨hn, -⟩
    · exact (sound.nodes node mem).extend hext
    · exact sound.nodes n hn
  · exact sound.states.trans states.symm
  · rw [List.filter_append]
    rcases mem_replace sound stands hn with rfl | ⟨hn, other⟩
    · rw [Node.arrows_extend hext, Node.state_extend hext, sound.arrows node mem]
      congr 1
      refine List.filter_eq_self.2 fun a ha => ?_
      simpa using Clause.source_of_arrow? (Option.mem_toList.1 ha)
    · rw [sound.arrows n hn, List.filter_eq_nil_iff.2, List.append_nil]
      intro a ha
      have := Clause.source_of_arrow? (Option.mem_toList.1 ha)
      simpa [this] using other.symm
  · rcases List.mem_append.1 ha with ha | ha
    · exact states ▸ sound.sources a ha
    · rw [Clause.source_of_arrow? (Option.mem_toList.1 ha)]
      exact states ▸ List.mem_map_of_mem mem

theorem addClauses (sound : d.Sound) (state : State) (position added : Nat)
    (clauses : List (Clause π ν)) : (addClauses state position added d clauses).1.Sound := by
  induction clauses generalizing d added with
  | nil => exact sound
  | cons clause rest ih =>
    rw [Definition.addClauses]
    split
    · exact sound
    · next node stands =>
      split
      · exact sound
      · next d' hd => exact ih (sound.addClause stands hd) _

theorem addState (sound : d.Sound) {state : State} (new : d.contains state = false)
    (caption : Caption) : (d.addState state caption).Sound := by
  have states : (d.addState state caption).states = d.states ++ [state] := by
    simp [Definition.states, Definition.addState, Node.bare]
  have absent : state ∉ d.states := fun mem =>
    Bool.false_ne_true (new ▸ sound.index.contains_iff.2 mem)
  refine ⟨?_, fun n hn => ?_, ?_, fun n hn => ?_, fun a ha => ?_⟩
  · have located := sound.index.insert new
    rw [Definition.states, List.length_map] at located
    exact states ▸ located
  · rcases List.mem_append.1 hn with hn | hn
    · exact sound.nodes n hn
    · obtain rfl := List.mem_singleton.1 hn
      exact Node.sound_bare state caption
  · rw [states, ← sound.states]
    rfl
  · rcases List.mem_append.1 hn with hn | hn
    · exact sound.arrows n hn
    · obtain rfl := List.mem_singleton.1 hn
      refine List.filter_eq_nil_iff.2 fun a ha same => absent ?_
      exact (of_decide_eq_true same : a.source = state) ▸ sound.sources a ha
  · rw [states]
    exact List.mem_append_left _ (sound.sources a ha)

/-- Every declaration keeps a definition sound, whether it is refused or not. -/
theorem declare (sound : d.Sound) (declaration : Declaration π ν) :
    (d.declare declaration).1.Sound := by
  cases declaration with
  | configure state caption clauses =>
    rw [Definition.declare]
    split
    · exact sound
    · next new => exact (sound.addState (Bool.eq_false_iff.2 new) caption).addClauses _ _ _ _
  | reopen state clauses =>
    rw [Definition.declare]
    split
    · exact sound
    · exact sound.addClauses _ _ _ _
  | effect => exact ⟨sound.index, sound.nodes, sound.states, sound.arrows, sound.sources⟩

end Sound

/-- Whatever is declared leaves a sound definition. -/
theorem sound_build (declarations : List (Declaration π ν)) : (build declarations).Sound := by
  suffices ∀ d : Definition π ν, d.Sound →
      (declarations.foldl (fun d declaration => (d.declare declaration).1) d).Sound from
    this empty sound_empty
  induction declarations with
  | nil => exact fun d h => h
  | cons declaration rest ih => exact fun d h => ih _ (h.declare declaration)

end Definition

end StateMachine
