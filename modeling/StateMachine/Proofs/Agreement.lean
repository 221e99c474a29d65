import StateMachine.Proofs.Address
import StateMachine.Proofs.DeadSpots

/-!
# Machines that agree

What a machine answers depends on what its definition holds for each state and on the side effects.
A transition reads even less: one edge, the exit steps and handlers of the source, the entry steps
and handlers of the destination, and the side effects.

* `Machine.transit_congr`, `Machine.fireOn_congr`, `Machine.canFireOn_congr`: what is read.
* `Machine.Agree`: definitions that hold the same for all addresses, and the same stopwatch.
* `Machine.Agree.host_eq`: such machines are the same to callbacks and to users.
* `Machine.Agree.errors_perm`, `Machine.Agree.warnings_perm`: validation finds the same in another
  order.
-/

namespace StateMachine

variable {π ν : Type}

namespace Machine

variable {m m' : Machine π ν} {source source' destination destination' : Node π ν}

/-! ## What a transition reads -/

/-- Two pairs of states that a transition cannot tell apart, in machines with the same side effects
and the same stopwatch. -/
structure SameWay (m m' : Machine π ν) (source source' destination destination' : Node π ν) :
    Prop where
  effects : m.definition.effects = m'.definition.effects
  stopwatch : m.stopwatch = m'.stopwatch
  exit : source.exit = source'.exit
  source_recovery : source.recovery = source'.recovery
  entry : destination.entry = destination'.entry
  destination_recovery : destination.recovery = destination'.recovery

theorem tell_congr (effects : m.definition.effects = m'.definition.effects)
    (stopwatch : m.stopwatch = m'.stopwatch) (host : Host π ν) (phase : Phase) (payload : π)
    (ctx : Context) : m.tell host phase payload ctx = m'.tell host phase payload ctx := by
  rw [tell, tell, effects, stopwatch]

theorem transit_congr (same : SameWay m m' source source' destination destination')
    (host : Host π ν) (ctx : Context) (payload : π) :
    m.transit host source destination ctx payload =
      m'.transit host source' destination' ctx payload := by
  have tell := tell_congr same.effects same.stopwatch host
  simp only [transit, abandon, arrive, Node.recover, tell, same.exit, same.source_recovery,
    same.entry, same.destination_recovery]

variable [Payload π] {payload : π} {trigger : Trigger} {edge : Edge π ν}

/-- A fire that finds the same edge in two machines, between states that a transition cannot tell
apart, is the same fire. -/
theorem fireOn_congr (leads : m.Leads payload trigger source edge destination)
    (leads' : m'.Leads payload trigger source' edge destination')
    (same : SameWay m m' source source' destination destination') (host : Host π ν) :
    m.fireOn host payload trigger = m'.fireOn host payload trigger := by
  have sources : source.state = source'.state :=
    (m.sound.state_of_node? leads.source_eq).trans (m'.sound.state_of_node? leads'.source_eq).symm
  have destinations : destination.state = destination'.state :=
    (m.sound.state_of_node? leads.destination_eq).trans
      (m'.sound.state_of_node? leads'.destination_eq).symm
  simp only [fireOn, leads.resolve_eq, leads'.resolve_eq, leads.destination_eq,
    leads'.destination_eq, sources, destinations, transit_congr same]

theorem canFireOn_congr (found : m.resolve payload trigger = .ok (source, edge))
    (found' : m'.resolve payload trigger = .ok (source', edge)) (host : Host π ν) :
    m.canFireOn host payload trigger = m'.canFireOn host payload trigger := by
  have sources : source.state = source'.state :=
    (m.sound.state_of_node? (resolve_eq_ok_iff.1 found).1).trans
      (m'.sound.state_of_node? (resolve_eq_ok_iff.1 found').1).symm
  simp only [canFireOn, found, found', sources]

/-! ## Definitions that agree -/

omit [Payload π] in
/-- Whether two machines have the same stopwatch, and definitions that hold the same for every state
and for the side effects. -/
structure Agree (m m' : Machine π ν) : Prop where
  stopwatch : m.stopwatch = m'.stopwatch
  definition : ∀ address, m.definition.AgreeAt m'.definition address

namespace Agree

omit [Payload π] in
theorem symm (agree : m.Agree m') : m'.Agree m :=
  ⟨agree.stopwatch.symm, fun address => (agree.definition address).symm⟩

omit [Payload π] in
/-- A state that is found in one definition is found in the other, perhaps with another caption. -/
theorem exists_node (agree : m.Agree m') {state : State} {node : Node π ν}
    (found : m.definition.node? state = some node) :
    ∃ node', m'.definition.node? state = some node' ∧ node.uncaptioned = node'.uncaptioned := by
  have same : (m.definition.node? state).map Node.uncaptioned = (m'.definition.node? state).map _ :=
    agree.definition (some state)
  rw [found, Option.map_some, eq_comm, Option.map_eq_some_iff] at same
  obtain ⟨node', found', alike⟩ := same
  exact ⟨node', found', alike.symm⟩

omit [Payload π] in
theorem node?_eq_none (agree : m.Agree m') {state : State}
    (missing : m.definition.node? state = none) : m'.definition.node? state = none := by
  cases found' : m'.definition.node? state with
  | none => rfl
  | some node' =>
    obtain ⟨node, found, -⟩ := agree.symm.exists_node found'
    exact nomatch missing.symm.trans found

end Agree

end Machine

theorem Node.edge?_eq_of_uncaptioned {node node' : Node π ν}
    (alike : node.uncaptioned = node'.uncaptioned) (trigger : Trigger) :
    node.edge? trigger = node'.edge? trigger := by
  obtain ⟨-, edges, index, -⟩ := Node.uncaptioned_inj.1 alike
  rw [edge?, edge?, index, edges]

namespace Machine.Agree

variable [Payload π] {m m' : Machine π ν}

/-- A trigger is resolved alike: it is missing in both machines, or it takes the same edge. -/
theorem resolve_agree (agree : m.Agree m') (payload : π) (trigger : Trigger) :
    (∃ e, m.resolve payload trigger = .error e ∧ m'.resolve payload trigger = .error e) ∨
    ∃ source source' edge, m.resolve payload trigger = .ok (source, edge) ∧
      m'.resolve payload trigger = .ok (source', edge) ∧
      source.uncaptioned = source'.uncaptioned := by
  cases found : m.definition.node? (Payload.state payload) with
  | none =>
    have missing' := agree.node?_eq_none found
    simp only [resolve, Machine.node, found, missing']
    exact .inl ⟨_, rfl, rfl⟩
  | some source =>
    obtain ⟨source', found', alike⟩ := agree.exists_node found
    have same := Node.edge?_eq_of_uncaptioned alike trigger
    have state := (Node.uncaptioned_inj.1 alike).1
    simp only [resolve, Machine.node, found, found', same, state]
    cases source'.edge? trigger with
    | none => exact .inl ⟨_, rfl, rfl⟩
    | some edge => exact .inr ⟨source, source', edge, rfl, rfl, alike⟩

theorem triggers_eq (agree : m.Agree m') : m.triggers = m'.triggers := by
  funext payload
  cases found : m.definition.node? (Payload.state payload) with
  | none => simp only [triggers, Machine.node, found, agree.node?_eq_none found]
  | some node =>
    obtain ⟨node', found', alike⟩ := agree.exists_node found
    obtain ⟨-, edges, -⟩ := Node.uncaptioned_inj.1 alike
    simp only [triggers, Machine.node, found, found', Except.map, Node.triggers, edges]

theorem canFireOn_eq (agree : m.Agree m') (host : Host π ν) (payload : π) (trigger : Trigger) :
    m.canFireOn host payload trigger = m'.canFireOn host payload trigger := by
  obtain ⟨e, lost, lost'⟩ | ⟨source, source', edge, found, found', -⟩ :=
    agree.resolve_agree payload trigger
  · rw [canFireOn, canFireOn, lost, lost']
  · exact canFireOn_congr found found' host

theorem fireOn_eq (agree : m.Agree m') (host : Host π ν) (payload : π) (trigger : Trigger) :
    m.fireOn host payload trigger = m'.fireOn host payload trigger := by
  obtain ⟨e, lost, lost'⟩ | ⟨source, source', edge, found, found', sources⟩ :=
    agree.resolve_agree payload trigger
  · rw [fireOn, fireOn, lost, lost']
  · cases goal : m.definition.node? edge.destination with
    | none =>
      have missing' := agree.node?_eq_none goal
      simp only [fireOn, found, found', goal, missing']
    | some destination =>
      obtain ⟨destination', goal', destinations⟩ := agree.exists_node goal
      obtain ⟨hs, he⟩ := resolve_eq_ok_iff.1 found
      obtain ⟨hs', he'⟩ := resolve_eq_ok_iff.1 found'
      obtain ⟨-, -, -, -, exit, recovery⟩ := Node.uncaptioned_inj.1 sources
      obtain ⟨-, -, -, entry, -, recovery'⟩ := Node.uncaptioned_inj.1 destinations
      have same : SameWay m m' source source' destination destination' :=
        ⟨agree.definition none, agree.stopwatch, exit, recovery, entry, recovery'⟩
      exact fireOn_congr ⟨hs, he, goal⟩ ⟨hs', he', goal'⟩ same host

/-- Machines that agree are the same to their callbacks, however deep these may call. -/
theorem host_eq (agree : m.Agree m') (depth : Nat) : m.host depth = m'.host depth := by
  induction depth with
  | zero => rw [host, host, agree.triggers_eq]
  | succ depth ih =>
    have canFire := fun payload trigger => agree.canFireOn_eq (m'.host depth) payload trigger
    have fire := fun payload trigger => agree.fireOn_eq (m'.host depth) payload trigger
    simp only [host, agree.triggers_eq, ih, canFire, fire]

theorem canFire_eq (agree : m.Agree m') (depth : Nat) : m.canFire depth = m'.canFire depth := by
  funext payload trigger
  rw [canFire, canFire, agree.host_eq, agree.canFireOn_eq]

theorem fire_eq (agree : m.Agree m') (depth : Nat) : m.fire depth = m'.fire depth := by
  funext payload trigger
  rw [fire, fire, agree.host_eq, agree.fireOn_eq]

/-! ## Findings -/

omit [Payload π] in
theorem contains_of_contains (agree : m.Agree m') {state : State}
    (held : m.definition.contains state = true) : m'.definition.contains state = true := by
  obtain ⟨node, found⟩ := m.sound.exists_node? held
  obtain ⟨node', found', -⟩ := agree.exists_node found
  obtain ⟨mem, same⟩ := m'.sound.node?_eq_some_iff.1 found'
  exact m'.sound.contains_iff.2 ⟨node', mem, same⟩

omit [Payload π] in
theorem danglingArrows_subset (agree : m.Agree m') {a : Arrow}
    (lost : a ∈ m.definition.danglingArrows) : a ∈ m'.definition.danglingArrows := by
  obtain ⟨ha, nowhere⟩ := List.mem_filter.1 lost
  obtain ⟨node, edge, found, taken, leads⟩ := m.sound.mem_arrows_iff.1 ha
  obtain ⟨node', found', alike⟩ := agree.exists_node found
  rw [Node.edge?_eq_of_uncaptioned alike] at taken
  refine List.mem_filter.2 ⟨m'.sound.mem_arrows_iff.2 ⟨node', edge, found', taken, leads⟩, ?_⟩
  rw [Bool.not_eq_true'] at nowhere ⊢
  apply Bool.eq_false_iff.2
  intro held
  exact Bool.eq_false_iff.1 nowhere (agree.symm.contains_of_contains held)

omit [Payload π] in
theorem deadEnds_subset (agree : m.Agree m') {state : State}
    (dead : state ∈ m.definition.deadEnds) : state ∈ m'.definition.deadEnds := by
  obtain ⟨node, found, none⟩ := m.sound.mem_deadEnds_iff.1 dead
  obtain ⟨node', found', alike⟩ := agree.exists_node found
  obtain ⟨-, edges, -⟩ := Node.uncaptioned_inj.1 alike
  exact m'.sound.mem_deadEnds_iff.2 ⟨node', found', edges ▸ none⟩

theorem errors_perm (agree : m.Agree m') : m.definition.errors.Perm m'.definition.errors := by
  have once (m : Machine π ν) : m.definition.danglingArrows.Nodup :=
    List.Pairwise.of_map _ (fun _ _ differ same => differ (same ▸ rfl)) m.diagnosed.lost_once
  -- the arrows stand in another order, but each of them once
  rw [Definition.errors_eq, Definition.errors_eq]
  apply List.Perm.map
  apply (List.perm_ext_iff_of_nodup (once m) (once m')).2
  intro a
  exact ⟨agree.danglingArrows_subset, agree.symm.danglingArrows_subset⟩

theorem warnings_perm (agree : m.Agree m') : m.definition.warnings.Perm m'.definition.warnings := by
  rw [Definition.warnings_eq, Definition.warnings_eq]
  apply List.Perm.map
  apply (List.perm_ext_iff_of_nodup m.diagnosed.dead_once m'.diagnosed.dead_once).2
  intro state
  exact ⟨agree.deadEnds_subset, agree.symm.deadEnds_subset⟩

end Machine.Agree

end StateMachine
