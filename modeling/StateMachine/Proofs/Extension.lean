import StateMachine.Proofs.Agreement
import StateMachine.Proofs.Blindness
import StateMachine.Proofs.Returning

/-!
# Further declarations

A definition may go on to grow after it was used. What was there stays: a state keeps its edges,
and each list of its callbacks changes only by clauses of its own kind. So a fire between two
configured states goes as before, unless a clause for one of the lists that it runs was added.

* `Definition.accepted`: the clauses that declarations add; `clausesFor` are those of one state.
* `Definition.node?_extend`: a state is extended by the clauses that were added to it.
* `Clause.part`, `Node.foldlM_spares`: which list a clause changes.
* `Code.Detached`: code that does not call the machine; it runs alike on all hosts.
* `Machine.leads_extend`: an edge stays and leads where it led.
* `Machine.extend_conservative`: further declarations that spare the lists of a fire leave the fire
  as it was.
-/

namespace StateMachine

variable {π ν : Type}

/-! ## Clauses that are added -/

/-- The clauses of a declaration that were added, each with its state. -/
def Declaration.accepted (added : Nat) : Declaration π ν → List (State × Clause π ν)
  | configure state _ clauses => (clauses.take added).map (state, ·)
  | reopen state clauses => (clauses.take added).map (state, ·)
  | effect .. => []

/-- The clauses for one state. -/
def clausesFor (state : State) (accepted : List (State × Clause π ν)) : List (Clause π ν) :=
  (accepted.filter fun r => r.1 = state).map Prod.snd

namespace Definition

variable {d d' : Definition π ν} {state : State} {position : Nat} {node : Node π ν}

/-- The clauses that declarations add, one after the other, each with its state. -/
def accepted : Definition π ν → List (Declaration π ν) → List (State × Clause π ν)
  | _, [] => []
  | d, x :: rest =>
    ((d.declare x).2.added?.elim [] x.accepted) ++ accepted (d.declare x).1 rest

/-- Clauses are added to their state one after the other, until one is refused. -/
theorem node?_addClauses (sound : d.Sound) (found : d.position? state = some position)
    (stands : d.node? state = some node) (added : Nat) (clauses : List (Clause π ν)) :
    ∃ k node', (addClauses state position added d clauses).2.added? = some (added + k) ∧
      (addClauses state position added d clauses).1.node? state = some node' ∧
      (clauses.take k).foldlM Node.extend node = .ok node' := by
  induction clauses generalizing d node added with
  | nil => exact ⟨0, node, rfl, stands, rfl⟩
  | cons clause rest ih =>
    have at_ : d.nodes[position]? = some node := (node?_eq_of_position? found).symm.trans stands
    rw [addClauses, at_]
    cases hd : d.addClause position node clause with
    | error e =>
      simp only [hd]
      exact ⟨0, node, rfl, stands, rfl⟩
    | ok d' =>
      simp only [hd]
      obtain ⟨-, found', extended, hext, nodes⟩ := node?_addClause sound found hd
      have stands' : d'.node? state = some extended := by rw [nodes, if_pos rfl]
      obtain ⟨k, node', hk, left, folded⟩ :=
        ih (sound.addClause at_ hd) found' stands' (added + 1)
      refine ⟨k + 1, node', hk.trans (by rw [Nat.add_assoc, Nat.add_comm 1]), left, ?_⟩
      rw [List.take_succ_cons, List.foldlM_cons, hext]
      exact folded

theorem clausesFor_same (state : State) (clauses : List (Clause π ν)) :
    clausesFor state (clauses.map (state, ·)) = clauses := by
  simp [clausesFor, List.filter_map, Function.comp_def]

theorem clausesFor_other {other : State} (apart : other ≠ state) (clauses : List (Clause π ν)) :
    clausesFor state (clauses.map (other, ·)) = [] := by
  simp [clausesFor, List.filter_map, Function.comp_def, apart]

theorem clausesFor_accepted_of_ne {x : Declaration π ν} (apart : x.address ≠ some state)
    (answer : Declared) : clausesFor state (answer.added?.elim [] x.accepted) = [] := by
  cases answer.added? with
  | none => rfl
  | some added =>
    cases x with
    | configure s caption clauses =>
      exact clausesFor_other (fun same => apart (congrArg some same)) _
    | reopen s clauses => exact clausesFor_other (fun same => apart (congrArg some same)) _
    | effect filter label callback => rfl

theorem clausesFor_accepted_cons (state : State) (d : Definition π ν) (x : Declaration π ν)
    (rest : List (Declaration π ν)) : clausesFor state (d.accepted (x :: rest)) =
      clausesFor state ((d.declare x).2.added?.elim [] x.accepted) ++
        clausesFor state ((d.declare x).1.accepted rest) := by
  rw [accepted, clausesFor, List.filter_append, List.map_append]
  rfl

/-- A configured state is extended by the clauses of a declaration that were added to it. -/
theorem node?_declare (sound : d.Sound) (stands : d.node? state = some node)
    (x : Declaration π ν) :
    ∃ node', (d.declare x).1.node? state = some node' ∧
      (clausesFor state ((d.declare x).2.added?.elim [] x.accepted)).foldlM Node.extend node =
        .ok node' := by
  by_cases here : x.address = some state
  · cases x with
    | configure s caption clauses =>
      obtain rfl := Option.some.inj here
      have held : d.contains s = true := by
        obtain ⟨mem, same⟩ := sound.node?_eq_some_iff.1 stands
        exact sound.contains_iff.2 ⟨node, mem, same⟩
      rw [declare, if_pos held]
      exact ⟨node, stands, rfl⟩
    | reopen s clauses =>
      obtain rfl := Option.some.inj here
      obtain ⟨position, found, at_⟩ := Option.bind_eq_some_iff.1 stands
      obtain ⟨k, node', hk, left, folded⟩ := node?_addClauses sound found stands 0 clauses
      rw [declare_reopen_eq clauses found, hk, Nat.zero_add]
      refine ⟨node', left, ?_⟩
      rw [Option.elim_some, Declaration.accepted, clausesFor_same]
      exact folded
    | effect filter label callback => cases here
  · refine ⟨node, (node?_declare_of_ne sound here).trans stands, ?_⟩
    -- whatever was added was added to another state
    rw [clausesFor_accepted_of_ne here]
    rfl

/-- A configured state is extended by the clauses that were added to it. -/
theorem node?_extend (sound : d.Sound) (stands : d.node? state = some node)
    (declarations : List (Declaration π ν)) :
    ∃ node', (d.extend declarations).node? state = some node' ∧
      (clausesFor state (d.accepted declarations)).foldlM Node.extend node = .ok node' := by
  induction declarations generalizing d node with
  | nil => exact ⟨node, stands, rfl⟩
  | cons x rest ih =>
    obtain ⟨node₁, stands₁, folded₁⟩ := node?_declare sound stands x
    obtain ⟨node₂, stands₂, folded₂⟩ := ih (sound.declare x) stands₁
    refine ⟨node₂, stands₂, ?_⟩
    rw [clausesFor_accepted_cons, List.foldlM_append, folded₁]
    exact folded₂

theorem effects_extend (sound : d.Sound) {declarations : List (Declaration π ν)}
    (silent : ∀ x ∈ declarations, x.address ≠ none) :
    (d.extend declarations).effects = d.effects := by
  induction declarations generalizing d with
  | nil => rfl
  | cons x rest ih =>
    obtain ⟨first, others⟩ := List.forall_mem_cons.1 silent
    exact (ih (sound.declare x) others).trans (effects_declare_of_ne sound first)

end Definition

/-! ## What clauses leave alone -/

/-- The lists of a state. -/
inductive Part
  | edges
  | entry
  | exit
  | recovery
deriving DecidableEq

/-- The list that a clause adds to. -/
def Clause.part : Clause π ν → Part
  | onEntry .. => .entry
  | onExit .. => .exit
  | onError .. => .recovery
  | permit .. => .edges
  | permitIf .. => .edges

namespace Node

variable {node node' : Node π ν} {clause : Clause π ν} {clauses : List (Clause π ν)}

/-- A clause changes one list of its state. -/
theorem extend_spares (h : node.extend clause = .ok node') :
    (clause.part ≠ .exit → node'.exit = node.exit) ∧
      (clause.part ≠ .entry → node'.entry = node.entry) ∧
      (clause.part ≠ .recovery → node'.recovery = node.recovery) := by
  have permitted {edge : Edge π ν} (h : node.permit edge = .ok node') :
      node'.exit = node.exit ∧ node'.entry = node.entry ∧ node'.recovery = node.recovery := by
    obtain ⟨-, rfl⟩ := permit_eq_ok h
    exact ⟨rfl, rfl, rfl⟩
  cases clause with
  | permit trigger destination guard =>
    obtain ⟨exit, entry, recovery⟩ := permitted h
    exact ⟨fun _ => exit, fun _ => entry, fun _ => recovery⟩
  | permitIf trigger destination code =>
    obtain ⟨exit, entry, recovery⟩ := permitted h
    exact ⟨fun _ => exit, fun _ => entry, fun _ => recovery⟩
  | onEntry trigger label operation =>
    obtain rfl := Except.ok.inj h
    exact ⟨fun _ => rfl, fun other => absurd rfl other, fun _ => rfl⟩
  | onExit trigger label operation =>
    obtain rfl := Except.ok.inj h
    exact ⟨fun other => absurd rfl other, fun _ => rfl, fun _ => rfl⟩
  | onError label operation =>
    obtain rfl := Except.ok.inj h
    exact ⟨fun _ => rfl, fun _ => rfl, fun other => absurd rfl other⟩

theorem edge?_extend (sound : node.Sound) (h : node.extend clause = .ok node') {trigger : Trigger}
    {edge : Edge π ν} (taken : node.edge? trigger = some edge) :
    node'.edge? trigger = some edge := by
  obtain ⟨mem, same⟩ := sound.edge?_eq_some_iff.1 taken
  refine (sound.extend h).edge?_eq_some_iff.2 ⟨?_, same⟩
  obtain ⟨-, ⟨added, permitted, -⟩ | ⟨-, edges, -⟩⟩ := extend_eq_ok h
  · obtain ⟨-, rfl⟩ := permit_eq_ok permitted
    exact List.mem_append_left _ mem
  · exact edges ▸ mem

theorem foldlM_edge? (sound : node.Sound) (h : clauses.foldlM extend node = .ok node')
    {trigger : Trigger} {edge : Edge π ν} (taken : node.edge? trigger = some edge) :
    node'.edge? trigger = some edge := by
  have kept : node'.Sound ∧ node'.edge? trigger = some edge := by
    refine foldlM_keeps (p := fun n => n.Sound ∧ n.edge? trigger = some edge) ?_ ⟨sound, taken⟩ h
    rintro clause - n n' ⟨sound, taken⟩ hn
    exact ⟨sound.extend hn, edge?_extend sound hn taken⟩
  exact kept.2

theorem foldlM_spares_part {α : Type} {part : Part} {view : Node π ν → α}
    (spares : ∀ {n n' : Node π ν} {clause : Clause π ν}, n.extend clause = .ok n' →
      clause.part ≠ part → view n' = view n)
    (h : clauses.foldlM extend node = .ok node') (spared : ∀ clause ∈ clauses, clause.part ≠ part) :
    view node' = view node := by
  refine foldlM_keeps (p := fun n => view n = view node) (fun clause mem n n' same hn => ?_) rfl h
  exact (spares hn (spared clause mem)).trans same

theorem foldlM_spares (h : clauses.foldlM extend node = .ok node') :
    ((∀ clause ∈ clauses, clause.part ≠ .exit) → node'.exit = node.exit) ∧
      ((∀ clause ∈ clauses, clause.part ≠ .entry) → node'.entry = node.entry) ∧
      ((∀ clause ∈ clauses, clause.part ≠ .recovery) → node'.recovery = node.recovery) :=
  ⟨foldlM_spares_part (fun hn => (extend_spares hn).1) h,
    foldlM_spares_part (fun hn => (extend_spares hn).2.1) h,
    foldlM_spares_part (fun hn => (extend_spares hn).2.2) h⟩

end Node

/-! ## Callbacks that leave the machine alone -/

/-- Whether code never calls the machine. -/
def Code.Detached : Code π ν → Prop
  | finish _ _ => True
  | remark _ next => next.Detached
  | retarget _ next => next.Detached
  | triggers _ _ => False
  | canFire _ _ _ => False
  | fire _ _ _ => False

theorem Code.Detached.run_eq {code : Code π ν} (detached : code.Detached) (host host' : Host π ν)
    (ctx : Context) : code.run host ctx = code.run host' ctx := by
  induction code generalizing ctx with
  | finish payload verdict => rfl
  | remark r next ih => rw [run, run, ih detached]
  | retarget destination next ih => exact ih detached _
  | triggers payload next ih => exact detached.elim
  | canFire payload trigger next ih => exact detached.elim
  | fire payload trigger next ih => exact detached.elim

theorem Code.Detached.returns {code : Code π ν} (detached : code.Detached) (host : Host π ν) :
    code.Returns host := by
  induction code with
  | finish payload verdict => exact fun _ _ => rfl
  | remark r next ih =>
    intro ctx n
    obtain ⟨r', hr⟩ := Option.isSome_iff_exists.1 (ih detached ctx n)
    have told : (Run.emit (.remark r) : Run (Entry π ν) Unit) n = some ⟨(), n, [.remark r]⟩ := rfl
    exact Option.isSome_iff_exists.2 ⟨_, Run.bind_eq_some_iff.2 ⟨_, r', told, hr, rfl⟩⟩
  | retarget destination next ih => exact fun ctx => ih detached _
  | triggers payload next ih => exact detached.elim
  | canFire payload trigger next ih => exact detached.elim
  | fire payload trigger next ih => exact detached.elim

theorem Run.congruence_eq {ε : Type} : Run.Congruence fun _ (x y : Run ε _) => x = y where
  pure _ := rfl
  emit _ := rfl
  fresh := rfl
  bind := by
    rintro α β x _ y y' rfl same
    rw [funext same]

namespace Machine

/-- A machine runs alike if the code of all its callbacks does. -/
theorem related_of_meets {R : (α : Type) → Run (Entry π ν) α → Run (Entry π ν) α → Prop}
    {host host' : Host π ν} {p : Code π ν → Prop} (h : ∀ code, p code → code.Related R host host')
    {m : Machine π ν} (meets : m.definition.Meets (.each p)) : m.Related R host host' := by
  have guard {g : Guard π ν} (meets : g.Meets (.each p)) : g.Related R host host' := by
    cases g with
    | triggerIs t => trivial
    | predicate label code => exact fun payload ctx => h _ (meets payload ctx)
  have chain {c : Chain π ν} (meets : c.Meets (.each p)) : c.Related R host host' :=
    fun step hs => ⟨fun g hg => guard ((meets step hs).guard g hg),
      fun payload ctx => h _ ((meets step hs).operation payload ctx)⟩
  refine ⟨fun node hn => ?_, fun effect he phase payload ctx elapsed => h _ ?_⟩
  · have node_meets := meets.nodes node hn
    exact ⟨fun edge he g hg => guard (node_meets.guards edge he g hg), chain node_meets.exit,
      chain node_meets.entry,
      fun handler hh payload ctx cause => h _ (node_meets.recovery handler hh payload ctx cause)⟩
  · exact meets.effects effect he phase payload ctx elapsed

/-- Whether no callback of a machine calls the machine. -/
def Detached (m : Machine π ν) : Prop := m.definition.Meets (.each Code.Detached)

variable [Payload π] {m : Machine π ν} {payload : π} {trigger : Trigger}
  {source destination : Node π ν} {edge : Edge π ν}

theorem fireOn_of_detached (detached : m.Detached) (host host' : Host π ν) (payload : π)
    (trigger : Trigger) : m.fireOn host payload trigger = m.fireOn host' payload trigger :=
  related_fireOn Run.congruence_eq
    (related_of_meets (fun _ detached => detached.run_eq host host') detached)
    payload trigger

theorem canFireOn_of_detached (detached : m.Detached) (host host' : Host π ν) (payload : π)
    (trigger : Trigger) : m.canFireOn host payload trigger = m.canFireOn host' payload trigger :=
  related_canFireOn Run.congruence_eq
    (related_of_meets (fun _ detached => detached.run_eq host host') detached)
    payload trigger

/-! ## Fires in a definition that has grown -/

/-- The machine of a definition with further declarations. -/
def extend (m : Machine π ν) (declarations : List (Declaration π ν)) : Machine π ν :=
  ⟨m.definition.extend declarations, m.stopwatch, m.sound.extend declarations⟩

/-- The same machine with another stopwatch. -/
def timed (m : Machine π ν) (stopwatch : Nat → Phase → Nat) : Machine π ν :=
  ⟨m.definition, stopwatch, m.sound⟩

/-- Whether further declarations spare what a fire between two states runs: they register no side
effect, add no exit step or error handler to the source, and add no entry step or error handler to
the destination. -/
structure Spared (m : Machine π ν) (declarations : List (Declaration π ν))
    (source destination : State) : Prop where
  effects : ∀ x ∈ declarations, x.address ≠ none
  source : ∀ clause ∈ clausesFor source (m.definition.accepted declarations),
    clause.part ≠ .exit ∧ clause.part ≠ .recovery
  destination : ∀ clause ∈ clausesFor destination (m.definition.accepted declarations),
    clause.part ≠ .entry ∧ clause.part ≠ .recovery

/-- An edge stays and leads where it led, whatever is declared. -/
theorem leads_extend (leads : m.Leads payload trigger source edge destination)
    (declarations : List (Declaration π ν)) :
    ∃ source' destination',
      (m.extend declarations).Leads payload trigger source' edge destination' ∧
        (clausesFor source.state (m.definition.accepted declarations)).foldlM Node.extend source =
          .ok source' ∧
        (clausesFor destination.state (m.definition.accepted declarations)).foldlM Node.extend
          destination = .ok destination' := by
  have departs := m.sound.state_of_node? leads.source_eq
  have arrives := m.sound.state_of_node? leads.destination_eq
  obtain ⟨source', hs, left⟩ := Definition.node?_extend m.sound leads.source_eq declarations
  obtain ⟨destination', hd, entered⟩ :=
    Definition.node?_extend m.sound leads.destination_eq declarations
  have sound := m.sound.nodes source (Definition.mem_of_node? leads.source_eq)
  have taken := Node.foldlM_edge? sound left leads.edge_eq
  rw [← departs] at left
  rw [← arrives] at entered
  exact ⟨source', destination', ⟨hs, taken, hd⟩, left, entered⟩

/-- A fire between states that are spared cannot tell the two definitions apart. -/
theorem sameWay_extend (leads : m.Leads payload trigger source edge destination)
    {declarations : List (Declaration π ν)}
    (spared : m.Spared declarations source.state destination.state) :
    ∃ source' destination',
      (m.extend declarations).Leads payload trigger source' edge destination' ∧
        SameWay (m.extend declarations) m source' source destination' destination := by
  obtain ⟨source', destination', leads', left, entered⟩ := leads_extend leads declarations
  obtain ⟨exit, -, recovery⟩ := Node.foldlM_spares left
  obtain ⟨-, entry, recovery'⟩ := Node.foldlM_spares entered
  refine ⟨source', destination', leads', ?_, rfl, ?_, ?_, ?_, ?_⟩
  · exact Definition.effects_extend m.sound spared.effects
  · exact exit fun clause mem => (spared.source clause mem).1
  · exact recovery fun clause mem => (spared.source clause mem).2
  · exact entry fun clause mem => (spared.destination clause mem).1
  · exact recovery' fun clause mem => (spared.destination clause mem).2

theorem fire_extend (leads : m.Leads payload trigger source edge destination)
    (detached : m.Detached) {declarations : List (Declaration π ν)}
    (spared : m.Spared declarations source.state destination.state) (depth depth' : Nat) :
    (m.extend declarations).fire depth' payload trigger = m.fire depth payload trigger := by
  obtain ⟨source', destination', leads', same⟩ := sameWay_extend leads spared
  calc (m.extend declarations).fireOn ((m.extend declarations).host depth') payload trigger
      = m.fireOn ((m.extend declarations).host depth') payload trigger :=
        fireOn_congr leads' leads same _
    _ = m.fireOn (m.host depth) payload trigger := fireOn_of_detached detached _ _ _ _

theorem canFire_extend (leads : m.Leads payload trigger source edge destination)
    (detached : m.Detached) (declarations : List (Declaration π ν)) (depth depth' : Nat) :
    (m.extend declarations).canFire depth' payload trigger = m.canFire depth payload trigger := by
  obtain ⟨source', destination', leads', -⟩ := leads_extend leads declarations
  calc (m.extend declarations).canFireOn ((m.extend declarations).host depth') payload trigger
      = m.canFireOn ((m.extend declarations).host depth') payload trigger :=
        canFireOn_congr leads'.resolve_eq leads.resolve_eq _
    _ = m.canFireOn (m.host depth) payload trigger := canFireOn_of_detached detached _ _ _ _

omit [Payload π] in
theorem Detached.related (detached : m.Detached) (host : Host π ν) :
    m.Related (fun _ x _ => x.Returns) host host :=
  related_of_meets (fun _ detached => detached.returns host) detached

/-- Further declarations leave a fire as it was. An edge stays and leads where it led, whatever is
declared. If the callbacks of the machine do not call it, and the lists that the fire runs are
spared, then the fire and the question whether it could be fired finish with the same result, the
same payload and the same log. If the callbacks do not look at identities and times either, then
other identities and another stopwatch change nothing but these. -/
theorem extend_conservative (leads : m.Leads payload trigger source edge destination)
    (declarations : List (Declaration π ν)) :
    (∃ source' destination',
      (m.extend declarations).Leads payload trigger source' edge destination') ∧
    (m.Detached → m.Spared declarations source.state destination.state →
      (∀ depth depth',
        (m.fire depth payload trigger).Returns ∧
        (m.extend declarations).fire depth' payload trigger = m.fire depth payload trigger ∧
        (m.canFire depth payload trigger).Returns ∧
        (m.extend declarations).canFire depth' payload trigger = m.canFire depth payload trigger) ∧
      ∀ hush : ν → ν, m.definition.Blind hush → ∀ stopwatch depth depth',
        Run.Alike hush Outcome.anonymousLeft (m.fire depth payload trigger)
          (((m.extend declarations).timed stopwatch).fire depth' payload trigger) ∧
        Run.Alike hush (veiled FireError.anonymous id) (m.canFire depth payload trigger)
          (((m.extend declarations).timed stopwatch).canFire depth' payload trigger)) := by
  constructor
  · obtain ⟨source', destination', leads', -⟩ := leads_extend leads declarations
    exact ⟨source', destination', leads'⟩
  intro detached spared
  constructor
  · intro depth depth'
    refine ⟨?_, fire_extend leads detached spared depth depth', ?_,
      canFire_extend leads detached declarations depth depth'⟩
    · exact related_fireOn Run.congruence_returns (detached.related _) payload trigger
    · exact related_canFireOn Run.congruence_returns (detached.related _) payload trigger
  intro hush blind stopwatch depth depth'
  -- the machine with the other stopwatch is extended, and compared with the machine itself
  have leads' : (m.timed stopwatch).Leads payload trigger source edge destination :=
    ⟨leads.source_eq, leads.edge_eq, leads.destination_eq⟩
  have detached' : (m.timed stopwatch).Detached := detached
  have spared' : (m.timed stopwatch).Spared declarations source.state destination.state :=
    ⟨spared.effects, spared.source, spared.destination⟩
  have fires := fire_extend leads' detached' spared' depth depth'
  have answers := canFire_extend leads' detached' declarations depth depth'
  have same : m.definition = (m.timed stopwatch).definition := rfl
  constructor
  · have alike := alike_fire same blind depth payload trigger
    rw [← fires] at alike
    exact alike
  · have alike := alike_canFire same blind depth payload trigger
    rw [← answers] at alike
    exact alike

/-! ## A machine to look at -/

/-- A lamp that is switched on. -/
def lamp : Machine Subject Remark where
  definition := .build [
    .configure ⟨"off"⟩ .plain
      [.permit ⟨"press"⟩ ⟨"on"⟩ (some (.predicate "powered" (Script.predicate .done))),
        .onExit none (some "click") (Script.operation (.act (.add "clicks" 1) .done))],
    .configure ⟨"on"⟩ .plain
      [.onEntry none (some "glow") (Script.operation (.act .enter .done))],
    .effect .beforeTransition (some "meter") (Script.effect .done)]
  stopwatch _ _ := 0
  sound := Definition.sound_build _

/-- A lamp that is off. -/
def unlit : Subject := ⟨⟨"off"⟩, [], []⟩

/-- What is declared for the lamp later on. The first declaration is refused, the second one stops
at its second clause, and the third one finds no state. -/
def wiring : List (Declaration Subject Remark) := [
  .configure ⟨"off"⟩ .plain [.onExit none none (Script.operation .done)],
  .reopen ⟨"off"⟩
    [.onEntry none none (Script.operation .done), .permit ⟨"press"⟩ ⟨"broken"⟩ none,
      .onExit none none (Script.operation .done)],
  .reopen ⟨"dim"⟩ [.onError none (Script.handler .done)],
  .configure ⟨"broken"⟩ .plain [],
  .reopen ⟨"on"⟩
    [.permit ⟨"press"⟩ ⟨"off"⟩ none,
      .onExit none none (Script.operation (.act (.fire false ⟨"press"⟩) .done))]]

theorem lamp_meets {demand : Demand Subject Remark}
    (powered : demand.step (Script.predicate .done))
    (click : demand.step (Script.operation (.act (.add "clicks" 1) .done)))
    (glow : demand.step (Script.operation (.act .enter .done)))
    (meter : demand.effect (Script.effect .done)) : lamp.definition.Meets demand := by
  refine Definition.meets_build (List.forall_mem_cons.2 ⟨?_, List.forall_mem_cons.2 ⟨?_,
    List.forall_mem_singleton.2 meter⟩⟩)
  · refine List.forall_mem_cons.2 ⟨fun g hg => ?_, List.forall_mem_singleton.2 click⟩
    obtain rfl := Option.some.inj hg
    exact powered
  · exact List.forall_mem_singleton.2 glow

theorem lamp_detached : lamp.Detached :=
  lamp_meets (fun _ _ => trivial) (fun _ _ => trivial) (fun _ _ => trivial) fun _ _ _ _ => trivial

theorem lamp_blind : lamp.definition.Blind Remark.anonymous :=
  lamp_meets (Script.blind_predicate _) (Script.blind_operation _) (Script.blind_operation _)
    (Script.blind_effect _)

theorem lamp_leads : ∃ source edge destination,
    lamp.Leads unlit ⟨"press"⟩ source edge destination ∧ source.state = ⟨"off"⟩ ∧
      destination.state = ⟨"on"⟩ := by
  have way : (lamp.definition.node? ⟨"off"⟩).bind (fun node =>
      (node.edge? ⟨"press"⟩).map Edge.destination) = some ⟨"on"⟩ := by decide +kernel
  have stands : (lamp.definition.node? ⟨"on"⟩).isSome = true := by decide +kernel
  have leads : ∃ source edge destination,
      lamp.Leads unlit ⟨"press"⟩ source edge destination ∧ _ := exists_leads way stands
  obtain ⟨source, edge, destination, leads, hs, -, hd⟩ := leads
  exact ⟨source, edge, destination, leads, hs, hd⟩

/-- The wiring adds a clause to each state that the lamp had, and none that a press would run. -/
theorem lamp_spared : lamp.Spared wiring ⟨"off"⟩ ⟨"on"⟩ := by
  have off : (clausesFor ⟨"off"⟩ (lamp.definition.accepted wiring)).map Clause.part =
      [.entry] := by decide +kernel
  have on : (clausesFor ⟨"on"⟩ (lamp.definition.accepted wiring)).map Clause.part =
      [.edges, .exit] := by decide +kernel
  refine ⟨?_, fun clause mem => ?_, fun clause mem => ?_⟩
  · simp [wiring, Declaration.address]
  · have part := off ▸ List.mem_map_of_mem (f := Clause.part) mem
    rw [List.mem_singleton.1 part]
    decide
  · have part := on ▸ List.mem_map_of_mem (f := Clause.part) mem
    rcases List.mem_cons.1 part with part | part
    · rw [part]
      decide
    · rw [List.mem_singleton.1 part]
      decide

/-- The lamp is switched on in the same way after the wiring, at another depth too, and with other
identities and another stopwatch. -/
theorem lamp_conserved :
    lamp.Detached ∧ lamp.Spared wiring ⟨"off"⟩ ⟨"on"⟩ ∧ lamp.definition.Blind Remark.anonymous ∧
      (lamp.extend wiring).fire 2 unlit ⟨"press"⟩ = lamp.fire 0 unlit ⟨"press"⟩ ∧
      (lamp.extend wiring).canFire 2 unlit ⟨"press"⟩ = lamp.canFire 0 unlit ⟨"press"⟩ ∧
      Run.Alike Remark.anonymous Outcome.anonymousLeft (lamp.fire 0 unlit ⟨"press"⟩)
        (((lamp.extend wiring).timed fun _ _ => 5).fire 2 unlit ⟨"press"⟩) := by
  obtain ⟨source, edge, destination, leads, hs, hd⟩ := lamp_leads
  obtain ⟨-, conserved⟩ := extend_conservative leads wiring
  obtain ⟨same, alike⟩ := conserved lamp_detached (by rw [hs, hd]; exact lamp_spared)
  obtain ⟨-, fires, -, answers⟩ := same 0 2
  exact ⟨lamp_detached, lamp_spared, lamp_blind, fires, answers,
    (alike _ lamp_blind (fun _ _ => 5) 0 2).1⟩

end Machine

end StateMachine
