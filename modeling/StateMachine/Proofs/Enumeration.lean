import StateMachine.Proofs.BuildOrder
import StateMachine.Proofs.DeadSpots

/-!
# Which triggers there are

A machine that is asked for the triggers of a state reads the list of edges; whether a trigger could
be fired, and firing it, goes through the index beside this list. The answers agree all the same,
whatever was declared: the triggers listed are those that the other two questions do not miss.

* `Definition.contains_build`: a state is configured by the first declaration that configures it.
* `Machine.triggerNotFound_of_canFire`: the question whether a trigger could be fired misses it only
  if it finds no edge.
* `Machine.Enumerates`: what the triggers of a payload are, by the graph of a definition and by what
  is answered to the other questions.
* `Machine.enumerates_compile`: all of it, after any list of declarations.
-/

namespace StateMachine

variable {π ν : Type}

/-! ## Configured states -/

namespace Definition

variable {d : Definition π ν} {state : State}

/-- A declaration configures the state that it is meant to configure, unless this was there before,
and no other one. -/
theorem contains_declare (x : Declaration π ν) : (d.declare x).1.contains state = true ↔
    d.contains state = true ∨ ∃ caption clauses, x = .configure state caption clauses := by
  cases x with
  | configure s caption clauses =>
    rw [declare]
    split
    · next held =>
      refine ⟨.inl, ?_⟩
      rintro (held' | ⟨_, _, same⟩)
      · exact held'
      · obtain ⟨rfl, -, -⟩ := Declaration.configure.inj same
        exact held
    · rw [contains, index_addClauses, addState, Index.contains, Index.find?_insert]
      split
      · next same => simp [same]
      · next other =>
        have apart : ¬s = state := fun same => other same.symm
        simp [contains, Index.contains, apart]
  | reopen s clauses =>
    rw [declare]
    split
    · simp
    · rw [contains, index_addClauses]
      simp [contains]
  | effect filter label callback => simp [declare, addEffect, contains]

theorem contains_extend (declarations : List (Declaration π ν)) :
    (d.extend declarations).contains state = true ↔
      d.contains state = true ∨
        ∃ caption clauses, .configure state caption clauses ∈ declarations := by
  induction declarations generalizing d with
  | nil => simp [extend]
  | cons x rest ih =>
    have first : (d.extend (x :: rest)) = (d.declare x).1.extend rest := rfl
    simp only [first, ih, contains_declare, List.mem_cons, or_assoc, exists_or, eq_comm (a := x)]

/-- The states of a definition are those that were meant to be configured: the first attempt
succeeds, and its state stays even if one of its clauses is refused. -/
theorem contains_build (declarations : List (Declaration π ν)) :
    (build declarations).contains state = true ↔
      ∃ caption clauses, .configure state caption clauses ∈ declarations := by
  rw [build, ← extend, contains_extend]
  simp [empty, contains, Index.contains]

end Definition

/-! ## Triggers that are missing -/

namespace Machine

variable [Payload π] {m : Machine π ν} {payload : π} {trigger : Trigger} {depth n : Nat}

/-- The question whether a trigger could be fired is answered by an error that refuses, and that a
trigger is missing is the answer only if there is no edge. -/
theorem triggerNotFound_of_canFire {ran : Ran (Entry π ν) (Except FireError Unit)} {x : State}
    {t : Trigger} (h : m.canFire depth payload trigger n = some ran)
    (missing : ran.value = .error (.triggerNotFound x t)) :
    m.resolve payload trigger = .error (.triggerNotFound x t) := by
  obtain ⟨hs, unf⟩ := m.plays_canFireOn payload trigger ⟨n, _, h⟩
  have answers : m.Answers (m.host depth) (.canFire payload trigger) hs (.canFire ran.value) :=
    unf.rel
  rw [missing] at answers
  cases answers with
  | unresolved lost => exact lost
  | guarded _ _ _ guard => rcases guard.error_eq with ⟨_, _, other⟩ | ⟨_, _, other⟩ <;> cases other

/-- What the triggers of a payload are: those that the graph shows for its state, and those that are
not missing when they are asked for or fired. -/
structure Enumerates (m : Machine π ν) (g : Graph) (payload : π) : Prop where
  /-- There is no answer exactly if the state is not configured. -/
  error_iff : ∀ e, m.triggers payload = .error e ↔
    Payload.state payload ∉ g.states ∧ e = .stateNotFound (Payload.state payload)
  /-- Then the question whether a trigger could be fired has the same answer for every trigger, and
  nothing happens. -/
  canFire_error : ∀ e, m.triggers payload = .error e →
    ∀ depth trigger n, m.canFire depth payload trigger n = some ⟨.error e, n, []⟩
  /-- So has every fire. -/
  fire_error : ∀ e, m.triggers payload = .error e →
    ∀ depth trigger n, m.fire depth payload trigger n =
      some ⟨(payload, .answered (.error e)), n, []⟩
  /-- Otherwise the triggers are those that were permitted, in this order. -/
  ok_iff : ∀ triggers, m.triggers payload = .ok triggers ↔ Payload.state payload ∈ g.states ∧
    triggers =
      (g.arrows.filter fun a => a.source = Payload.state payload).map Arrow.trigger
  /-- None is listed twice. -/
  nodup : ∀ triggers, m.triggers payload = .ok triggers → triggers.Nodup
  /-- A trigger is listed exactly if the question whether it could be fired does not miss it. -/
  mem_iff_canFire : ∀ triggers, m.triggers payload = .ok triggers → ∀ trigger depth n,
    trigger ∈ triggers ↔ ∀ ran, m.canFire depth payload trigger n = some ran →
      ∀ x t, ran.value ≠ .error (.triggerNotFound x t)
  /-- A trigger is listed exactly if firing it does not miss it. -/
  mem_iff_fire : ∀ triggers, m.triggers payload = .ok triggers → ∀ trigger depth n,
    trigger ∈ triggers ↔ ∀ ran, m.fire depth payload trigger n = some ran →
      ∀ x t, ran.value.2 ≠ .answered (.error (.triggerNotFound x t))
  /-- The other triggers are missed by both, and nothing happens. -/
  missing : ∀ triggers, m.triggers payload = .ok triggers → ∀ trigger, trigger ∉ triggers →
    ∀ depth n,
      m.canFire depth payload trigger n =
        some ⟨.error (.triggerNotFound (Payload.state payload) trigger), n, []⟩ ∧
      m.fire depth payload trigger n =
        some ⟨(payload, .answered (.error (.triggerNotFound (Payload.state payload) trigger))),
          n, []⟩

theorem triggers_eq_error_iff {e : FireError} : m.triggers payload = .error e ↔
    m.definition.node? (Payload.state payload) = none ∧
      e = .stateNotFound (Payload.state payload) := by
  unfold triggers Machine.node
  cases m.definition.node? (Payload.state payload) with
  | none => simp [Except.map, eq_comm]
  | some node => simp [Except.map]

theorem triggers_eq_ok_iff {triggers : List Trigger} : m.triggers payload = .ok triggers ↔
    ∃ node, m.definition.node? (Payload.state payload) = some node ∧ triggers = node.triggers := by
  unfold Machine.triggers Machine.node
  cases m.definition.node? (Payload.state payload) with
  | none => simp [Except.map]
  | some node => simp [Except.map, eq_comm]

theorem resolve_of_triggers_error {e : FireError} (h : m.triggers payload = .error e)
    (trigger : Trigger) : m.resolve payload trigger = .error e := by
  obtain ⟨none, rfl⟩ := triggers_eq_error_iff.1 h
  rw [resolve, Machine.node, none]

theorem resolve_eq_triggerNotFound_iff {triggers : List Trigger}
    (h : m.triggers payload = .ok triggers) {x : State} {t : Trigger} :
    m.resolve payload trigger = .error (.triggerNotFound x t) ↔
      trigger ∉ triggers ∧ x = Payload.state payload ∧ t = trigger := by
  obtain ⟨node, found, rfl⟩ := triggers_eq_ok_iff.1 h
  obtain ⟨mem, same⟩ := m.sound.node?_eq_some_iff.1 found
  rw [← (m.sound.nodes node mem).edge?_eq_none_iff]
  unfold resolve Machine.node
  cases taken : node.edge? trigger with
  | none => simp [found, taken, same, eq_comm]
  | some edge => simp [found, taken]

theorem missing_of_not_mem {triggers : List Trigger} (h : m.triggers payload = .ok triggers)
    (lost : trigger ∉ triggers) (depth n : Nat) :
    m.canFire depth payload trigger n =
        some ⟨.error (.triggerNotFound (Payload.state payload) trigger), n, []⟩ ∧
      m.fire depth payload trigger n =
        some ⟨(payload, .answered (.error (.triggerNotFound (Payload.state payload) trigger))),
          n, []⟩ := by
  have unresolved := (resolve_eq_triggerNotFound_iff h).2 ⟨lost, rfl, rfl⟩
  exact ⟨canFire_of_lost unresolved depth n, fire_of_lost unresolved depth n⟩

theorem mem_triggers_iff_canFire {triggers : List Trigger} (h : m.triggers payload = .ok triggers) :
    trigger ∈ triggers ↔ ∀ ran, m.canFire depth payload trigger n = some ran →
      ∀ x t, ran.value ≠ .error (.triggerNotFound x t) := by
  constructor
  · intro mem ran hran x t missing
    have unresolved := triggerNotFound_of_canFire hran missing
    exact ((resolve_eq_triggerNotFound_iff h).1 unresolved).1 mem
  · intro never
    refine Decidable.byContradiction fun lost => ?_
    exact never _ (missing_of_not_mem h lost depth n).1 _ _ rfl

theorem mem_triggers_iff_fire {triggers : List Trigger} (h : m.triggers payload = .ok triggers) :
    trigger ∈ triggers ↔ ∀ ran, m.fire depth payload trigger n = some ran →
      ∀ x t, ran.value.2 ≠ .answered (.error (.triggerNotFound x t)) := by
  constructor
  · intro mem ran hran x t missing
    have unresolved := triggerNotFound_of_fire hran missing
    exact ((resolve_eq_triggerNotFound_iff h).1 unresolved).1 mem
  · intro never
    refine Decidable.byContradiction fun lost => ?_
    exact never _ (missing_of_not_mem h lost depth n).2 _ _ rfl

/-- A state is found exactly if the graph has it, and its triggers are those of its arrows. -/
theorem triggers_eq_ok_iff_graph {triggers : List Trigger} : m.triggers payload = .ok triggers ↔
    Payload.state payload ∈ m.definition.graph.states ∧ triggers =
      (m.definition.graph.arrows.filter fun a => a.source = Payload.state payload).map
        Arrow.trigger := by
  have listed {node : Node π ν} (mem : node ∈ m.definition.nodes) : node.triggers =
      (m.definition.graph.arrows.filter fun a => a.source = node.state).map Arrow.trigger := by
    rw [m.sound.arrows node mem, Node.map_trigger_arrows]
  rw [triggers_eq_ok_iff, m.sound.states]
  constructor
  · rintro ⟨node, found, rfl⟩
    obtain ⟨mem, same⟩ := m.sound.node?_eq_some_iff.1 found
    exact ⟨same ▸ List.mem_map_of_mem mem, same ▸ listed mem⟩
  · rintro ⟨configured, rfl⟩
    obtain ⟨node, mem, same⟩ := List.mem_map.1 configured
    exact ⟨node, m.sound.node?_eq_some_iff.2 ⟨mem, same⟩, same ▸ (listed mem).symm⟩

theorem enumerates (m : Machine π ν) (payload : π) : m.Enumerates m.definition.graph payload where
  error_iff e := by
    rw [triggers_eq_error_iff, m.sound.node?_eq_none_iff, m.sound.states,
      ← m.sound.index.contains_iff, Bool.not_eq_true]
    rfl
  canFire_error _ h depth trigger n := canFire_of_lost (resolve_of_triggers_error h trigger) depth n
  fire_error _ h depth trigger n := fire_of_lost (resolve_of_triggers_error h trigger) depth n
  ok_iff _ := triggers_eq_ok_iff_graph
  nodup triggers h := by
    obtain ⟨node, found, rfl⟩ := triggers_eq_ok_iff.1 h
    exact (m.sound.nodes node (Definition.mem_of_node? found)).nodup
  mem_iff_canFire _ h _ _ _ := mem_triggers_iff_canFire h
  mem_iff_fire _ h _ _ _ := mem_triggers_iff_fire h
  missing _ h _ lost := missing_of_not_mem h lost

/-- Whatever was declared, and whatever validation finds, a machine lists the triggers of a payload
as they were permitted, and agrees with its answers to the other questions. The states for which it
has a list are those that were meant to be configured. -/
theorem enumerates_compile (declarations : List (Declaration π ν))
    (stopwatch : Nat → Phase → Nat) (payload : π) :
    (compile declarations stopwatch).Enumerates (Definition.empty.registered declarations)
        payload ∧
      (Payload.state payload ∈ (Definition.empty.registered declarations).states ↔
        ∃ caption clauses, .configure (Payload.state payload) caption clauses ∈ declarations) := by
  have graph := Definition.graph_build declarations
  have sound := Definition.sound_build declarations
  rw [← graph]
  refine ⟨(compile declarations stopwatch).enumerates payload, ?_⟩
  rw [← Definition.contains_build, sound.states]
  exact sound.index.contains_iff.symm

/-- The list of an order that can be paid or cancelled. It was reopened, and what was refused then is
not listed. -/
example :
    let order : List (Declaration Subject Remark) := [
      .configure ⟨"open"⟩ .plain [.permit ⟨"pay"⟩ ⟨"paid"⟩ none],
      .configure ⟨"paid"⟩ .plain [],
      .reopen ⟨"open"⟩ [.permit ⟨"cancel"⟩ ⟨"lost"⟩ none, .permit ⟨"pay"⟩ ⟨"lost"⟩ none,
        .permit ⟨"hold"⟩ ⟨"open"⟩ none]]
    ((compile order fun _ _ => 0).triggers ⟨⟨"open"⟩, [], []⟩).toOption =
      some [⟨"pay"⟩, ⟨"cancel"⟩] := by
  decide +kernel

end Machine

end StateMachine
