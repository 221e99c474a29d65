import StateMachine.Proofs.Refusal
import StateMachine.Proofs.Representation
import StateMachine.Validation

/-!
# Dead spots

Validation reads the graph and the list of nodes; a fire goes through the indexes. They find the
same: the errors of validation are the triggers by which a fire misses its destination, and the
warnings are the states in which every trigger is missing.

* `Definition.Sound.mem_arrows_iff`: the arrows of the graph are what the indexes find.
* `Definition.Sound.nodup_ways`: a state has one arrow for each trigger.
* `Definition.registered`: what declarations add to the graph; `Definition.graph_build` says that
  the graph is just that, in the same order. What is counted as added is what repeats no trigger
  (`Definition.lt_added_iff`, `Definition.added_eq_length`).
* `Machine.contains_destination`: without errors, every edge leads to a configured state.
* `Machine.Diagnosed`: what the findings of validation say about a machine.
* `Machine.diagnosed_build`: they say so after any list of declarations.
-/

namespace StateMachine

variable {π ν : Type}

namespace Definition

variable {d d' : Definition π ν}

/-! ## The graph and the indexes -/

namespace Sound

theorem mem_arrows_iff (sound : d.Sound) {a : Arrow} :
    a ∈ d.graph.arrows ↔ ∃ node edge, d.node? a.source = some node ∧
      node.edge? a.trigger = some edge ∧ edge.destination = a.destination := by
  constructor
  · intro ha
    obtain ⟨node, mem, same⟩ := List.mem_map.1 (sound.sources a ha)
    have shown : a ∈ node.arrows := by
      rw [← sound.arrows node mem]
      exact List.mem_filter.2 ⟨ha, by simp [same]⟩
    obtain ⟨edge, he, rfl⟩ := List.mem_map.1 shown
    exact ⟨node, edge, sound.node?_eq_some_iff.2 ⟨mem, rfl⟩,
      (sound.nodes node mem).edge?_eq_some_iff.2 ⟨he, rfl⟩, rfl⟩
  · rintro ⟨node, edge, hnode, hedge, hdest⟩
    obtain ⟨mem, source⟩ := sound.node?_eq_some_iff.1 hnode
    obtain ⟨he, trigger⟩ := (sound.nodes node mem).edge?_eq_some_iff.1 hedge
    have shown : a ∈ node.arrows := List.mem_map.2 ⟨edge, he, by simp [source, trigger, hdest]⟩
    rw [← sound.arrows node mem] at shown
    exact (List.mem_filter.1 shown).1

theorem nodup_ways (sound : d.Sound) :
    (d.graph.arrows.map fun a => (a.source, a.trigger)).Nodup := by
  rw [List.Nodup, List.pairwise_map, List.pairwise_iff_forall_sublist]
  intro a b pair same
  obtain ⟨source, trigger⟩ := Prod.mk.inj same
  obtain ⟨node, mem, hnode⟩ := List.mem_map.1 (sound.sources a (pair.subset List.mem_cons_self))
  -- both arrows are shown by the node that they leave, where triggers differ
  have shown : [a, b].Sublist node.arrows := by
    rw [← sound.arrows node mem]
    have both := pair.filter fun a => a.source = node.state
    rwa [List.filter_eq_self.2 (by simp [hnode, source])] at both
  have nodup := ((Node.map_trigger_arrows node) ▸ (sound.nodes node mem).nodup).sublist
    (shown.map Arrow.trigger)
  simp [trigger] at nodup

theorem mem_deadEnds_iff (sound : d.Sound) {s : State} :
    s ∈ d.deadEnds ↔ ∃ node, d.node? s = some node ∧ node.edges = [] := by
  simp only [deadEnds, List.mem_map, List.mem_filter, List.isEmpty_iff, sound.node?_eq_some_iff]
  exact exists_congr fun node => ⟨fun ⟨⟨h, h'⟩, h''⟩ => ⟨⟨h, h''⟩, h'⟩,
    fun ⟨⟨h, h''⟩, h'⟩ => ⟨⟨h, h'⟩, h''⟩⟩

theorem deadEnds_sublist (sound : d.Sound) : d.deadEnds.Sublist d.graph.states := by
  rw [sound.states]
  exact List.filter_sublist.map Node.state

end Sound

theorem hasErrors_eq_false_iff : d.hasErrors = false ↔ d.danglingArrows = [] := by
  have errors : d.hasErrors = false ↔ d.errors = [] := by
    rw [errors, hasErrors, List.filter_eq_nil_iff, List.any_eq_false]
  rw [errors, errors_eq, List.map_eq_nil_iff]

end Definition

/-! ## The order of declarations -/

/-- One graph after another. -/
def Graph.append (g g' : Graph) : Graph := ⟨g.states ++ g'.states, g.arrows ++ g'.arrows⟩

@[simp] theorem Graph.append_empty (g : Graph) : g.append .empty = g := by
  simp [append, empty]

@[simp] theorem Graph.empty_append (g : Graph) : Graph.empty.append g = g := by
  simp [append, empty]

theorem Graph.append_assoc (g g' g'' : Graph) :
    (g.append g').append g'' = g.append (g'.append g'') := by
  simp [append]

/-- How many clauses were added, by the answer to a declaration that was not refused as a whole. -/
def Declared.added? : Declared → Option Nat
  | state _ _ clauses => some clauses
  | stopped _ clauses => some clauses
  | _ => none

/-- What a declaration of so many clauses adds to the graph: the state that it configures, and the
arrows that its clauses permit, one after the other. -/
def Declaration.graph (added : Nat) : Declaration π ν → Graph
  | configure state _ clauses => ⟨[state], (clauses.take added).filterMap (Clause.arrow? state)⟩
  | reopen state clauses => ⟨[], (clauses.take added).filterMap (Clause.arrow? state)⟩
  | effect .. => .empty

namespace Definition

variable {d d' : Definition π ν}

/-- What is added to the graph by declarations, one after the other, as far as they are accepted. -/
def registered : Definition π ν → List (Declaration π ν) → Graph
  | _, [] => .empty
  | d, declaration :: rest =>
    ((d.declare declaration).2.added?.elim .empty declaration.graph).append
      ((d.declare declaration).1.registered rest)

/-- A declaration that is not refused and does not stop has had all its clauses added. -/
theorem added_eq_length (sound : d.Sound) {x : Declaration π ν} {state : State}
    {position added : Nat} (h : (d.declare x).2 = .state position state added) :
    added = x.clauses.length := by
  cases x with
  | configure s caption clauses =>
    cases held : d.contains s with
    | true => simp [declare, held] at h
    | false =>
      rcases declare_configure_reply held caption clauses with all | ⟨_, _, stopped⟩
      · exact (Declared.state.inj (h.symm.trans all)).2.2
      · cases h.symm.trans stopped
  | reopen s clauses =>
    cases found : d.position? s with
    | none => simp [declare, found] at h
    | some place =>
      rw [declare_reopen_eq clauses found] at h
      rcases addClauses_reply ((bounded sound).nodes _ _ found) s 0 clauses with
        all | ⟨_, _, stopped⟩
      · rw [Nat.zero_add] at all
        exact (Declared.state.inj (h.symm.trans all)).2.2
      · cases h.symm.trans stopped
  | effect filter label callback => cases h

/-- Of clauses for a configured state, one that is reached is added exactly if the trigger that it
permits is new in the state, where the clauses before it count. A clause that permits none is always
added. -/
theorem lt_added_iff (sound : d.Sound) {node : Node π ν} (mem : node ∈ d.nodes)
    {clauses : List (Clause π ν)} {added i : Nat} {clause : Clause π ν}
    (answer : (d.declare (.reopen node.state clauses)).2.added? = some added) (reached : i ≤ added)
    (here : clauses[i]? = some clause) :
    i < added ↔ ∀ trigger, clause.trigger? = some trigger →
      trigger ∉ node.triggersWith (clauses.take i) := by
  cases reply : (d.declare (.reopen node.state clauses)).2 with
  | state position state count =>
    obtain ⟨nodup, -, -, rfl⟩ := (declare_reopen_eq_state_iff sound mem).1 reply
    rw [reply] at answer
    obtain rfl : clauses.length = added := Option.some.inj answer
    constructor
    · intro _ trigger permits
      exact Node.not_mem_triggersWith_take nodup here permits
    · exact fun _ => (List.getElem?_eq_some_iff.1 here).1
  | stopped e k =>
    obtain ⟨before, last, after, trigger, rfl, rfl, nodup, permits, held, -⟩ :=
      (declare_reopen_eq_stopped_iff sound mem).1 reply
    rw [reply] at answer
    obtain rfl : before.length = added := Option.some.inj answer
    rw [List.take_append_of_le_length reached]
    constructor
    · intro inside trigger permits
      rw [List.getElem?_append_left inside] at here
      exact Node.not_mem_triggersWith_take nodup here permits
    · intro fresh
      refine Nat.lt_of_le_of_ne reached ?_
      rintro rfl
      obtain rfl : last = clause := by simpa using here
      exact fresh trigger permits (by simpa using held)
  | _ =>
    rw [reply] at answer
    cases answer

/-- A state that is new has no triggers but those of the clauses before. -/
theorem lt_added_iff_of_new (sound : d.Sound) {state : State} (new : d.contains state = false)
    {caption : Caption} {clauses : List (Clause π ν)} {added i : Nat} {clause : Clause π ν}
    (answer : (d.declare (.configure state caption clauses)).2.added? = some added)
    (reached : i ≤ added) (here : clauses[i]? = some clause) :
    i < added ↔ ∀ trigger, clause.trigger? = some trigger →
      trigger ∉ (clauses.take i).filterMap Clause.trigger? := by
  have mem : Node.bare state caption ∈ (d.addState state caption).nodes := by simp [addState]
  rw [(replies sound).configured state caption clauses new] at answer
  exact lt_added_iff (sound.addState new caption) mem answer reached here

theorem graph_addClause {position : Nat} {node : Node π ν} {clause : Clause π ν}
    (stands : d.nodes[position]? = some node) (h : d.addClause position node clause = .ok d') :
    d'.states = d.states ∧
      d'.graph = d.graph.append ⟨[], (clause.arrow? node.state).toList⟩ := by
  obtain ⟨extended, hext, rfl⟩ := addClause_eq_ok h
  exact ⟨states_replace stands (Node.state_extend hext), by simp [Graph.append]⟩

theorem graph_addClauses {state : State} {position : Nat}
    (stands : d.states[position]? = some state) (added : Nat) (clauses : List (Clause π ν)) :
    ∃ k, (addClauses state position added d clauses).2.added? = some (added + k) ∧
      (addClauses state position added d clauses).1.graph =
        d.graph.append ⟨[], (clauses.take k).filterMap (Clause.arrow? state)⟩ := by
  induction clauses generalizing d added with
  | nil => exact ⟨0, rfl, d.graph.append_empty.symm⟩
  | cons clause rest ih =>
    obtain ⟨node, hnode, rfl⟩ := Option.map_eq_some_iff.1 (List.getElem?_map ▸ stands)
    rw [addClauses, hnode]
    cases hd : d.addClause position node clause with
    | error e =>
      simp only [hd]
      exact ⟨0, rfl, d.graph.append_empty.symm⟩
    | ok d' =>
      simp only [hd]
      obtain ⟨states, graph⟩ := graph_addClause hnode hd
      obtain ⟨k, hk, more⟩ := ih (states ▸ stands) (added + 1)
      refine ⟨k + 1, hk.trans (by rw [Nat.add_assoc, Nat.add_comm 1]), ?_⟩
      rw [more, graph]
      cases arrow : clause.arrow? node.state <;> simp [Graph.append, arrow]

/-- The graph stays as it was, and what a declaration adds comes last. -/
theorem graph_declare (sound : d.Sound) (declaration : Declaration π ν) :
    (d.declare declaration).1.graph =
      d.graph.append ((d.declare declaration).2.added?.elim .empty declaration.graph) := by
  cases declaration with
  | configure state caption clauses =>
    rw [declare]
    split
    · exact d.graph.append_empty.symm
    · next new =>
      have stands : (d.addState state caption).states[d.length]? = some state := by
        simp [states, addState, length, Node.bare]
      obtain ⟨k, hk, graph⟩ := graph_addClauses stands 0 clauses
      rw [graph, hk]
      simp [addState, Graph.append, Declaration.graph]
  | reopen state clauses =>
    rw [declare]
    split
    · exact d.graph.append_empty.symm
    · next position found =>
      obtain ⟨k, hk, graph⟩ := graph_addClauses ((sound.index _ _).1 found) 0 clauses
      rw [graph, hk, Nat.zero_add]
      rfl
  | effect => exact d.graph.append_empty.symm

/-- The graph of a definition is what was registered, in the order of registration. -/
theorem graph_build (declarations : List (Declaration π ν)) :
    (build declarations).graph = registered empty declarations := by
  suffices ∀ d : Definition π ν, d.Sound →
      (declarations.foldl (fun d declaration => (d.declare declaration).1) d).graph =
        d.graph.append (d.registered declarations) from
    (this empty sound_empty).trans (Graph.empty_append _)
  induction declarations with
  | nil => exact fun d _ => d.graph.append_empty.symm
  | cons declaration rest ih =>
    intro d sound
    rw [List.foldl_cons, ih _ (sound.declare declaration), graph_declare sound, registered,
      Graph.append_assoc]

end Definition

/-! ## Findings and fires -/

namespace Machine

variable [Payload π]

/-- What the findings of validation say about a machine: `lost` are the arrows that lead nowhere,
and `dead` the states that cannot be left. -/
structure Diagnosed (m : Machine π ν) (lost : List Arrow) (dead : List State) : Prop where
  /-- There is an error for each lost arrow, then a warning for each dead state, and nothing
  else. -/
  findings : m.definition.diagnostics = lost.map Arrow.undefined ++ dead.map State.deadEnd
  /-- The errors are those of the lost arrows. -/
  errors : m.definition.errors = lost.map Arrow.undefined
  /-- The warnings are those of the dead states. -/
  warnings : m.definition.warnings = dead.map State.deadEnd
  /-- Lost arrows stand in the order of their registration. -/
  lost_order : lost.Sublist m.definition.graph.arrows
  /-- A state and a trigger have at most one lost arrow. -/
  lost_once : (lost.map fun a => (a.source, a.trigger)).Nodup
  /-- Lost arrows leave configured states. -/
  lost_source : ∀ a ∈ lost, m.definition.contains a.source = true
  /-- From a configured state, the triggers of the lost arrows are those by which a fire misses a
  state. It is the destination of the arrow, and nothing happens. -/
  lost_iff : ∀ payload trigger x depth n,
    m.definition.contains (Payload.state payload) = true →
      ((⟨Payload.state payload, trigger, x⟩ : Arrow) ∈ lost ↔
        m.fire depth payload trigger n =
          some ⟨(payload, .answered (.error (.stateNotFound x))), n, []⟩)
  /-- From a configured state, a fire cannot miss a state in another way. -/
  lost_only : ∀ payload trigger x depth n ran,
    m.definition.contains (Payload.state payload) = true →
      m.fire depth payload trigger n = some ran →
        ran.value.2 = .answered (.error (.stateNotFound x)) →
          ran = ⟨(payload, .answered (.error (.stateNotFound x))), n, []⟩
  /-- Dead states stand in the order of their configuration. -/
  dead_order : dead.Sublist m.definition.graph.states
  /-- A state is dead once. -/
  dead_once : dead.Nodup
  /-- The dead states are those in which there are no triggers. -/
  dead_iff : ∀ payload,
    m.definition.contains (Payload.state payload) = true →
      (Payload.state payload ∈ dead ↔ m.triggers payload = .ok [])
  /-- From a configured state, the dead states are those from which every trigger is missing. -/
  dead_iff_fire : ∀ payload depth n,
    m.definition.contains (Payload.state payload) = true →
      (Payload.state payload ∈ dead ↔ ∀ trigger, m.fire depth payload trigger n =
        some ⟨(payload, .answered (.error (.triggerNotFound (Payload.state payload) trigger))),
          n, []⟩)
  /-- Without errors, no fire from a configured state misses a state. -/
  clean : m.definition.hasErrors = false → ∀ payload trigger x depth n ran,
    m.definition.contains (Payload.state payload) = true →
      m.fire depth payload trigger n = some ran →
        ran.value.2 ≠ .answered (.error (.stateNotFound x))
  /-- Where there is a payload for every configured state, this is the only way to be without
  errors. -/
  clean_iff : (∀ s, m.definition.contains s = true → ∃ payload : π, Payload.state payload = s) →
    (m.definition.hasErrors = false ↔ ∀ payload trigger x depth n ran,
      m.definition.contains (Payload.state payload) = true →
        m.fire depth payload trigger n = some ran →
          ran.value.2 ≠ .answered (.error (.stateNotFound x)))

variable {m : Machine π ν} {payload : π} {trigger : Trigger} {x : State}

theorem mem_danglingArrows_iff :
    (⟨Payload.state payload, trigger, x⟩ : Arrow) ∈ m.definition.danglingArrows ↔
      ∃ node edge, m.resolve payload trigger = .ok (node, edge) ∧
        m.definition.node? edge.destination = none ∧ edge.destination = x := by
  simp only [Definition.danglingArrows, List.mem_filter, m.sound.mem_arrows_iff,
    resolve_eq_ok_iff, m.sound.node?_eq_none_iff, Bool.not_eq_true']
  constructor
  · rintro ⟨⟨node, edge, hnode, hedge, rfl⟩, new⟩
    exact ⟨node, edge, ⟨hnode, hedge⟩, new, rfl⟩
  · rintro ⟨node, edge, ⟨hnode, hedge⟩, new, rfl⟩
    exact ⟨⟨node, edge, hnode, hedge, rfl⟩, new⟩

theorem mem_danglingArrows_of_fire {depth n : Nat} {ran : Ran (Entry π ν) (π × Outcome)}
    (configured : m.definition.contains (Payload.state payload) = true)
    (h : m.fire depth payload trigger n = some ran)
    (missing : ran.value.2 = .answered (.error (.stateNotFound x))) :
    (⟨Payload.state payload, trigger, x⟩ : Arrow) ∈ m.definition.danglingArrows := by
  rcases stateNotFound_of_fire h missing with lost | found
  · exact absurd rfl (ne_stateNotFound_of_lost configured lost)
  · exact mem_danglingArrows_iff.2 found

theorem fire_of_mem_danglingArrows
    (lost : (⟨Payload.state payload, trigger, x⟩ : Arrow) ∈ m.definition.danglingArrows)
    (depth n : Nat) :
    m.fire depth payload trigger n =
      some ⟨(payload, .answered (.error (.stateNotFound x))), n, []⟩ := by
  obtain ⟨node, edge, found, none, rfl⟩ := mem_danglingArrows_iff.1 lost
  exact fire_of_nowhere found none depth n

theorem mem_deadEnds_iff_triggers
    (configured : m.definition.contains (Payload.state payload) = true) :
    Payload.state payload ∈ m.definition.deadEnds ↔ m.triggers payload = .ok [] := by
  obtain ⟨node, found⟩ := m.sound.exists_node? configured
  rw [m.sound.mem_deadEnds_iff, triggers, Machine.node, found]
  simp [Except.map, Node.triggers]

/-- A configured state is dead if every trigger is missing there. -/
theorem mem_deadEnds_iff_fire
    (configured : m.definition.contains (Payload.state payload) = true) (depth n : Nat) :
    Payload.state payload ∈ m.definition.deadEnds ↔ ∀ trigger, m.fire depth payload trigger n =
      some ⟨(payload, .answered (.error (.triggerNotFound (Payload.state payload) trigger))),
        n, []⟩ := by
  obtain ⟨node, found⟩ := m.sound.exists_node? configured
  obtain ⟨mem, same⟩ := m.sound.node?_eq_some_iff.1 found
  have sound : node.Sound := m.sound.nodes node mem
  rw [m.sound.mem_deadEnds_iff]
  constructor
  · rintro ⟨node', found', dead⟩ trigger
    obtain rfl := Option.some.inj (found.symm.trans found')
    have none : node.edge? trigger = none :=
      sound.edge?_eq_none_iff.2 (by simp [Node.triggers, dead])
    refine fire_of_lost ?_ depth n
    rw [resolve, Machine.node, found]
    simp only [none, same]
  · intro missing
    refine ⟨node, found, List.eq_nil_iff_forall_not_mem.2 fun edge he => ?_⟩
    have lost := triggerNotFound_of_fire (missing edge.trigger) rfl
    have taken : m.resolve payload edge.trigger = .ok (node, edge) :=
      resolve_eq_ok_iff.2 ⟨found, sound.edge?_eq_some_iff.2 ⟨he, rfl⟩⟩
    cases lost.symm.trans taken

/-- Without errors, no fire from a configured state misses a state. -/
theorem never_misses (free : m.definition.hasErrors = false) {depth n : Nat}
    {ran : Ran (Entry π ν) (π × Outcome)}
    (configured : m.definition.contains (Payload.state payload) = true)
    (h : m.fire depth payload trigger n = some ran) :
    ran.value.2 ≠ .answered (.error (.stateNotFound x)) := by
  intro missing
  have lost := mem_danglingArrows_of_fire configured h missing
  rw [Definition.hasErrors_eq_false_iff.1 free] at lost
  exact nomatch lost

theorem contains_destination (free : m.definition.hasErrors = false) {node : Node π ν}
    {edge : Edge π ν} (found : m.resolve payload trigger = .ok (node, edge)) :
    m.definition.contains edge.destination = true := by
  rw [← Bool.not_eq_false, ← m.sound.node?_eq_none_iff]
  intro none
  have lost := mem_danglingArrows_iff.2 ⟨node, edge, found, none, rfl⟩
  rw [Definition.hasErrors_eq_false_iff.1 free] at lost
  exact nomatch lost

theorem diagnosed (m : Machine π ν) :
    m.Diagnosed m.definition.danglingArrows m.definition.deadEnds where
  findings := rfl
  errors := m.definition.errors_eq
  warnings := m.definition.warnings_eq
  lost_order := List.filter_sublist
  lost_once := m.sound.nodup_ways.sublist (List.filter_sublist.map _)
  lost_source a ha := m.sound.index.contains_iff.2 (m.sound.sources a (List.mem_filter.1 ha).1)
  lost_iff payload trigger x depth n configured :=
    ⟨fun lost => fire_of_mem_danglingArrows lost depth n,
      fun h => mem_danglingArrows_of_fire configured h rfl⟩
  lost_only payload trigger x depth n ran configured h missing := by
    have lost := mem_danglingArrows_of_fire configured h missing
    rw [fire_of_mem_danglingArrows lost] at h
    exact (Option.some.inj h).symm
  dead_order := m.sound.deadEnds_sublist
  dead_once := by
    refine List.Nodup.sublist m.sound.deadEnds_sublist ?_
    rw [m.sound.states]
    exact m.sound.index.nodup
  dead_iff _ := mem_deadEnds_iff_triggers
  dead_iff_fire _ depth n configured := mem_deadEnds_iff_fire configured depth n
  clean free _ _ _ _ _ _ := never_misses free
  clean_iff inhabited := by
    refine ⟨fun free _ _ _ _ _ _ => never_misses free, fun never => ?_⟩
    refine Definition.hasErrors_eq_false_iff.2 (List.eq_nil_iff_forall_not_mem.2 fun a ha => ?_)
    obtain ⟨source, t, x⟩ := a
    have configured : m.definition.contains source = true :=
      m.sound.index.contains_iff.2 (m.sound.sources _ (List.mem_filter.1 ha).1)
    obtain ⟨payload, rfl⟩ := inhabited source configured
    exact never payload t x 0 0 _ configured (fire_of_mem_danglingArrows ha 0 0) rfl

/-- The findings of validation are the dead spots of the machine, whatever was declared, and in the
order in which it was registered. -/
theorem diagnosed_build (declarations : List (Declaration π ν)) (stopwatch : Nat → Phase → Nat) :
    (Definition.build declarations).graph = Definition.empty.registered declarations ∧
      ∃ lost dead, (Machine.mk (.build declarations) stopwatch
        (Definition.sound_build declarations)).Diagnosed lost dead :=
  ⟨Definition.graph_build declarations, _, _, diagnosed _⟩

/-- Arrows with the same trigger and the same destination are reported one by one, and a clause that
was refused is not reported. -/
example :
    (Definition.build [
      .configure ⟨"idle"⟩ .plain
        [.permit ⟨"go"⟩ ⟨"away"⟩ none, .permit ⟨"go"⟩ ⟨"beyond"⟩ none],
      .configure ⟨"busy"⟩ .plain [.permit ⟨"go"⟩ ⟨"away"⟩ none],
      .configure ⟨"done"⟩ .plain []] : Definition Subject Remark).diagnostics =
    [Arrow.undefined ⟨⟨"idle"⟩, ⟨"go"⟩, ⟨"away"⟩⟩, Arrow.undefined ⟨⟨"busy"⟩, ⟨"go"⟩, ⟨"away"⟩⟩,
      State.deadEnd ⟨"done"⟩] := by
  decide +kernel

end Machine

end StateMachine
