import StateMachine.Soundness

/-!
# The representation of a definition

A definition keeps the same facts in several places, and a declaration changes them one by one. This
file says what can be relied on after any list of declarations, and which declarations are refused.

* `Node.extend_eq_error_iff`: the only clause that is refused permits a trigger once more.
* `Definition.addClauses_append`: clauses in two portions.
* `Definition.addClauses_stopped`: where a list of clauses stops, the clauses before have been
  added, and the one that is refused changes nothing.
* `Definition.addClauses_eq_state_iff`, `Definition.addClauses_eq_stopped_iff`: which lists are
  added as a whole, and where the others stop, by the triggers alone.
* `Definition.Bounded`: no position that an index finds lies outside its list.
* `Definition.Replies`: what is refused, what a refusal leaves, and what is added otherwise.
* `Definition.build_represented`: all of it, after any list of declarations.
-/

namespace StateMachine

variable {π ν : Type}

/-- The trigger that a clause permits, if it is one that permits. -/
def Clause.trigger? : Clause π ν → Option Trigger
  | permit trigger _ _ => some trigger
  | permitIf trigger _ _ => some trigger
  | _ => none

theorem Clause.map_trigger_arrow? (clause : Clause π ν) (source : State) :
    (clause.arrow? source).map Arrow.trigger = clause.trigger? := by
  cases clause <;> rfl

/-- The clauses of a declaration. -/
def Declaration.clauses : Declaration π ν → List (Clause π ν)
  | configure _ _ clauses => clauses
  | reopen _ clauses => clauses
  | effect .. => []

/-- The triggers of a state, and after them those that clauses permit. -/
def Node.triggersWith (node : Node π ν) (clauses : List (Clause π ν)) : List Trigger :=
  node.triggers ++ clauses.filterMap Clause.trigger?

/-- An answer to clauses, if so many were added before them. -/
def Declared.after (added : Nat) : Declared → Declared
  | state position s clauses => state position s (added + clauses)
  | stopped error clauses => stopped error (added + clauses)
  | answer => answer

/-- A clause is refused if it permits a trigger that its state has already, whatever the
destination or the guard. -/
theorem Node.extend_eq_error_iff {node : Node π ν} {clause : Clause π ν} {e : ConfigurationError} :
    node.extend clause = .error e ↔ ∃ a, clause.arrow? node.state = some a ∧
      node.index.contains a.trigger = true ∧ e = .duplicateTrigger node.state a.trigger := by
  have permitted (edge : Edge π ν) : node.permit edge = .error e ↔
      node.index.contains edge.trigger = true ∧
        e = .duplicateTrigger node.state edge.trigger := by
    unfold Node.permit
    split
    · next held => simp [held, eq_comm]
    · next new => simp [new]
  cases clause with
  | permit trigger destination guard =>
    rw [Node.extend, permitted]
    simp [Clause.arrow?]
  | permitIf trigger destination code =>
    rw [Node.extend, permitted]
    simp [Clause.arrow?]
  | _ => simp [Node.extend, Clause.arrow?]

namespace Node

variable {node node' : Node π ν} {clause : Clause π ν} {clauses : List (Clause π ν)}

theorem foldlM_cons_eq_ok_iff : (clause :: clauses).foldlM extend node = .ok node' ↔
    ∃ extended, node.extend clause = .ok extended ∧ clauses.foldlM extend extended = .ok node' := by
  rw [List.foldlM_cons]
  cases node.extend clause with
  | error e => simp [bind, Except.bind]
  | ok extended => simp [bind, Except.bind]

/-- What every clause of a list keeps is kept by the list. -/
theorem foldlM_keeps {p : Node π ν → Prop}
    (step : ∀ clause ∈ clauses, ∀ node node', p node → node.extend clause = .ok node' → p node')
    (before : p node) (h : clauses.foldlM extend node = .ok node') : p node' := by
  induction clauses generalizing node with
  | nil =>
    obtain rfl := Except.ok.inj h
    exact before
  | cons clause rest ih =>
    obtain ⟨first, others⟩ := List.forall_mem_cons.1 step
    obtain ⟨extended, hext, more⟩ := foldlM_cons_eq_ok_iff.1 h
    exact ih others (first node extended before hext) more

theorem state_foldlM (h : clauses.foldlM extend node = .ok node') : node'.state = node.state :=
  foldlM_keeps (p := fun n => n.state = node.state)
    (fun _ _ _ _ same hn => (state_extend hn).trans same) rfl h

theorem Sound.foldlM (sound : node.Sound) (h : clauses.foldlM Node.extend node = .ok node') :
    node'.Sound :=
  foldlM_keeps (p := Sound) (fun _ _ _ _ sound hn => sound.extend hn) sound h

theorem arrows_foldlM (h : clauses.foldlM extend node = .ok node') :
    node'.arrows = node.arrows ++ clauses.filterMap (Clause.arrow? node.state) := by
  induction clauses generalizing node with
  | nil =>
    obtain rfl := Except.ok.inj h
    simp
  | cons clause rest ih =>
    obtain ⟨extended, hext, more⟩ := foldlM_cons_eq_ok_iff.1 h
    rw [ih more, state_extend hext, arrows_extend hext, List.append_assoc]
    cases arrow : clause.arrow? node.state <;> simp [arrow]

theorem map_trigger_arrows (node : Node π ν) : node.arrows.map Arrow.trigger = node.triggers := by
  simp [arrows, triggers]

theorem triggers_foldlM (h : clauses.foldlM extend node = .ok node') :
    node'.triggers = node.triggersWith clauses := by
  rw [← map_trigger_arrows, arrows_foldlM h, List.map_append, List.map_filterMap,
    map_trigger_arrows, triggersWith]
  simp only [Clause.map_trigger_arrow?]

theorem not_mem_triggersWith {before after : List (Clause π ν)} {trigger : Trigger}
    (permits : clause.trigger? = some trigger)
    (nodup : (node.triggersWith (before ++ clause :: after)).Nodup) :
    trigger ∉ node.triggersWith before := by
  have split : node.triggersWith (before ++ clause :: after) =
      node.triggersWith before ++ trigger :: after.filterMap Clause.trigger? := by
    simp [triggersWith, permits]
  rw [split] at nodup
  exact fun held => (List.nodup_append.1 nodup).2.2 trigger held trigger List.mem_cons_self rfl

theorem not_mem_triggersWith_take {clauses : List (Clause π ν)} {i : Nat} {trigger : Trigger}
    (nodup : (node.triggersWith clauses).Nodup) (here : clauses[i]? = some clause)
    (permits : clause.trigger? = some trigger) :
    trigger ∉ node.triggersWith (clauses.take i) := by
  obtain ⟨inside, rfl⟩ := List.getElem?_eq_some_iff.1 here
  have split : clauses = clauses.take i ++ clauses[i] :: clauses.drop (i + 1) := by
    rw [← List.drop_eq_getElem_cons inside, List.take_append_drop]
  rw [split] at nodup
  exact not_mem_triggersWith permits nodup

theorem Sound.extend_eq_error_iff (sound : node.Sound) {e : ConfigurationError} :
    node.extend clause = .error e ↔ ∃ trigger, clause.trigger? = some trigger ∧
      trigger ∈ node.triggers ∧ e = .duplicateTrigger node.state trigger := by
  simp only [Node.extend_eq_error_iff, ← Clause.map_trigger_arrow? clause node.state,
    Option.map_eq_some_iff, Index.Locates.contains_iff sound]
  constructor
  · rintro ⟨a, arrow, held, rfl⟩
    exact ⟨_, ⟨a, arrow, rfl⟩, held, rfl⟩
  · rintro ⟨_, ⟨a, arrow, rfl⟩, held, rfl⟩
    exact ⟨a, arrow, held, rfl⟩

end Node

namespace Definition

variable {d d' : Definition π ν} {state : State} {position added : Nat}

/-! ## Lists of clauses -/

theorem addClause_eq_error_iff (d : Definition π ν) (position : Nat) {node : Node π ν}
    {clause : Clause π ν} {e : ConfigurationError} :
    d.addClause position node clause = .error e ↔ node.extend clause = .error e := by
  unfold addClause
  split <;> simp_all

theorem index_addClause {node : Node π ν} {clause : Clause π ν}
    (h : d.addClause position node clause = .ok d') : d'.index = d.index := by
  obtain ⟨_, -, rfl⟩ := addClause_eq_ok h
  rfl

theorem length_addClause {node : Node π ν} {clause : Clause π ν}
    (h : d.addClause position node clause = .ok d') : d'.nodes.length = d.nodes.length := by
  obtain ⟨_, -, rfl⟩ := addClause_eq_ok h
  exact List.length_set

theorem index_addClauses (clauses : List (Clause π ν)) :
    (addClauses state position added d clauses).1.index = d.index := by
  induction clauses generalizing d added with
  | nil => rfl
  | cons clause rest ih =>
    rw [addClauses]
    split
    · rfl
    · split
      · rfl
      · next d' hd => exact ih.trans (index_addClause hd)

/-- A node that is there when it is opened is there for every clause: either all clauses are added,
or one is refused. -/
theorem addClauses_reply (inside : position < d.nodes.length) (state : State) (added : Nat)
    (clauses : List (Clause π ν)) :
    (addClauses state position added d clauses).2 =
        .state position state (added + clauses.length) ∨
      ∃ e k, (addClauses state position added d clauses).2 = .stopped e k := by
  induction clauses generalizing d added with
  | nil => exact .inl rfl
  | cons clause rest ih =>
    rw [addClauses]
    split
    · next outside => exact absurd inside (by simpa using outside)
    · split
      · exact .inr ⟨_, _, rfl⟩
      · next d' hd =>
        rw [List.length_cons, Nat.add_comm rest.length, ← Nat.add_assoc]
        exact ih (length_addClause hd ▸ inside) (added + 1)

/-- Where a list of clauses stops: those before have been added, and the next one is refused by
the node as they left it. -/
theorem addClauses_stopped {clauses : List (Clause π ν)} {e : ConfigurationError} {k : Nat}
    (h : (addClauses state position added d clauses).2 = .stopped e k) :
    ∃ before clause after node, clauses = before ++ clause :: after ∧
      k = added + before.length ∧
      addClauses state position added d before =
        ((addClauses state position added d clauses).1, .state position state k) ∧
      (addClauses state position added d clauses).1.nodes[position]? = some node ∧
      node.extend clause = .error e := by
  induction clauses generalizing d added with
  | nil => cases h
  | cons clause rest ih =>
    rw [addClauses] at h ⊢
    split at h
    · cases h
    · next node stands =>
      split at h
      · next e' refused =>
        obtain ⟨rfl, rfl⟩ := Declared.stopped.inj h
        exact ⟨[], clause, rest, node, rfl, rfl, rfl, stands,
          (addClause_eq_error_iff _ _).1 refused⟩
      · next d' hd =>
        obtain ⟨before, clause', after, node', rfl, rfl, kept, stands', refused⟩ := ih h
        refine ⟨clause :: before, clause', after, node', rfl, ?_, ?_, stands', refused⟩
        · rw [List.length_cons]
          omega
        · rw [addClauses, stands]
          simp only [hd]
          exact kept

/-- How many clauses were added before is only counted. -/
theorem addClauses_eq_after (state : State) (position before added : Nat) (d : Definition π ν)
    (clauses : List (Clause π ν)) :
    addClauses state position (before + added) d clauses =
      ((addClauses state position added d clauses).1,
        (addClauses state position added d clauses).2.after before) := by
  induction clauses generalizing d added with
  | nil => rfl
  | cons clause rest ih =>
    rw [addClauses, addClauses]
    split
    · rfl
    · split
      · rfl
      · exact ih (added + 1) _

/-- Clauses that were all added leave a definition to which further ones are added in turn. -/
theorem addClauses_append {place count : Nat} {state' : State} {clauses : List (Clause π ν)}
    (all : (addClauses state position added d clauses).2 = .state place state' count)
    (more : List (Clause π ν)) :
    addClauses state position added d (clauses ++ more) =
      addClauses state position count (addClauses state position added d clauses).1 more := by
  induction clauses generalizing d added with
  | nil =>
    obtain ⟨-, -, rfl⟩ := Declared.state.inj all
    rfl
  | cons clause rest ih =>
    rw [addClauses] at all
    rw [List.cons_append, addClauses, addClauses]
    split at all
    · cases all
    · next node stands =>
      split at all
      · cases all
      · next d' hd => exact ih all

/-- Clauses that were all added have extended their node, and have added the arrows that they
permit to the graph. -/
theorem fst_addClauses {node : Node π ν} {place count : Nat} {state' : State}
    {clauses : List (Clause π ν)} (stands : d.nodes[position]? = some node)
    (all : (addClauses state position added d clauses).2 = .state place state' count) :
    ∃ node', clauses.foldlM Node.extend node = .ok node' ∧
      (addClauses state position added d clauses).1 = { d.replace position node' with
        graph := { d.graph with
          arrows := d.graph.arrows ++ clauses.filterMap (Clause.arrow? node.state) } } := by
  induction clauses generalizing d node added with
  | nil =>
    obtain ⟨inside, rfl⟩ := List.getElem?_eq_some_iff.1 stands
    exact ⟨_, rfl, by simp [addClauses, replace]⟩
  | cons clause rest ih =>
    rw [addClauses, stands] at all ⊢
    cases hd : d.addClause position node clause with
    | error e => simp [hd] at all
    | ok d₁ =>
      simp only [hd] at all ⊢
      obtain ⟨extended, hext, rfl⟩ := addClause_eq_ok hd
      obtain ⟨node', folded, left⟩ :=
        ih (List.getElem?_set_self (List.getElem?_eq_some_iff.1 stands).1) all
      refine ⟨node', Node.foldlM_cons_eq_ok_iff.2 ⟨extended, hext, folded⟩, left.trans ?_⟩
      rw [Node.state_extend hext]
      cases arrow : clause.arrow? node.state <;> simp [replace, arrow]

section Stands

variable {node : Node π ν} (stands : d.nodes[position]? = some node) (sound : node.Sound)
  {clauses : List (Clause π ν)}

include stands sound

theorem nodup_of_addClauses {place count : Nat} {state' : State}
    (all : (addClauses state position added d clauses).2 = .state place state' count) :
    (node.triggersWith clauses).Nodup := by
  obtain ⟨node', folded, -⟩ := fst_addClauses stands all
  rw [← Node.triggers_foldlM folded]
  exact Index.Locates.nodup (sound.foldlM folded)

/-- A list of clauses stops at the first one that permits a trigger once more. The trigger may be
one of the state, or one that an earlier clause has permitted. -/
theorem exists_of_addClauses_stopped {e : ConfigurationError} {k : Nat}
    (h : (addClauses state position added d clauses).2 = .stopped e k) :
    ∃ before clause after trigger, clauses = before ++ clause :: after ∧
      k = added + before.length ∧ (node.triggersWith before).Nodup ∧
      clause.trigger? = some trigger ∧ trigger ∈ node.triggersWith before ∧
      e = .duplicateTrigger node.state trigger := by
  obtain ⟨before, clause, after, last, rfl, hk, kept, stands', refused⟩ := addClauses_stopped h
  have all : (addClauses state position added d before).2 = .state position state k := by
    rw [kept]
  obtain ⟨node', folded, left⟩ := fst_addClauses stands all
  obtain rfl : node' = last := by
    have inside := (List.getElem?_eq_some_iff.1 stands).1
    rw [kept] at left
    rw [left] at stands'
    simpa [replace, inside] using stands'
  obtain ⟨trigger, permits, held, rfl⟩ := (sound.foldlM folded).extend_eq_error_iff.1 refused
  rw [Node.triggers_foldlM folded] at held
  refine ⟨before, clause, after, trigger, rfl, hk, nodup_of_addClauses stands sound all, permits,
    held, ?_⟩
  rw [Node.state_foldlM folded]

/-- A list of clauses is added as a whole, and counted, exactly if no trigger stands twice
afterwards. -/
theorem addClauses_eq_state_iff {place count : Nat} {state' : State} :
    (addClauses state position added d clauses).2 = .state place state' count ↔
      (node.triggersWith clauses).Nodup ∧ place = position ∧ state' = state ∧
        count = added + clauses.length := by
  have reply := addClauses_reply (List.getElem?_eq_some_iff.1 stands).1 state added clauses
  constructor
  · intro all
    rcases reply with h | ⟨e, k, h⟩
    · obtain ⟨rfl, rfl, rfl⟩ := Declared.state.inj (all.symm.trans h)
      exact ⟨nodup_of_addClauses stands sound all, rfl, rfl, rfl⟩
    · cases all.symm.trans h
  · rintro ⟨nodup, rfl, rfl, rfl⟩
    refine reply.resolve_right fun ⟨e, k, h⟩ => ?_
    obtain ⟨before, clause, after, trigger, rfl, -, -, permits, held, -⟩ :=
      exists_of_addClauses_stopped stands sound h
    exact Node.not_mem_triggersWith permits nodup held

theorem addClauses_eq_stopped_iff {e : ConfigurationError} {k : Nat} :
    (addClauses state position added d clauses).2 = .stopped e k ↔
      ∃ before clause after trigger, clauses = before ++ clause :: after ∧
        k = added + before.length ∧ (node.triggersWith before).Nodup ∧
        clause.trigger? = some trigger ∧ trigger ∈ node.triggersWith before ∧
        e = .duplicateTrigger node.state trigger := by
  refine ⟨exists_of_addClauses_stopped stands sound, ?_⟩
  rintro ⟨before, clause, after, trigger, rfl, rfl, nodup, permits, held, rfl⟩
  have all : (addClauses state position added d before).2 =
      .state position state (added + before.length) :=
    (addClauses_eq_state_iff stands sound).2 ⟨nodup, rfl, rfl, rfl⟩
  obtain ⟨node', folded, left⟩ := fst_addClauses stands all
  have stands' : (addClauses state position added d before).1.nodes[position]? = some node' := by
    rw [left]
    exact List.getElem?_set_self (List.getElem?_eq_some_iff.1 stands).1
  have refused : node'.extend clause = .error (.duplicateTrigger node.state trigger) := by
    refine (sound.foldlM folded).extend_eq_error_iff.2 ⟨trigger, permits, ?_, ?_⟩
    · rwa [Node.triggers_foldlM folded]
    · rw [Node.state_foldlM folded]
  rw [addClauses_append all, addClauses, stands']
  simp only [(addClause_eq_error_iff _ _).2 refused]

end Stands

/-! ## What may be relied on -/

/-- Whether every position that an index finds lies inside its list. -/
structure Bounded (d : Definition π ν) : Prop where
  /-- The index of the definition finds nodes. -/
  nodes : ∀ state position, d.position? state = some position → position < d.nodes.length
  /-- The index of a state finds edges. -/
  edges : ∀ node ∈ d.nodes, ∀ trigger position,
    node.index.find? trigger = some position → position < node.edges.length

/-- What a definition answers to declarations, and what these leave. -/
structure Replies (d : Definition π ν) : Prop where
  /-- A state is refused exactly if it is configured. -/
  refused_iff : ∀ state caption clauses e,
    (d.declare (.configure state caption clauses)).2 = .refused e ↔
      d.contains state = true ∧ e = .duplicateState state
  /-- A state that is refused leaves the definition as it was. -/
  refused : ∀ state caption clauses e,
    (d.declare (.configure state caption clauses)).2 = .refused e →
      (d.declare (.configure state caption clauses)).1 = d
  /-- A state that is not refused is added on its own and then reopened. -/
  configured : ∀ state caption clauses, d.contains state = false →
    d.declare (.configure state caption clauses) =
      (d.addState state caption).declare (.reopen state clauses)
  /-- A state that is not refused is there for all its clauses. -/
  opened : ∀ state caption clauses, (d.declare (.configure state caption clauses)).2 ≠ .missing
  /-- A state can be reopened exactly if it is configured. -/
  missing_iff : ∀ state clauses,
    (d.declare (.reopen state clauses)).2 = .missing ↔ d.contains state = false
  /-- A state that cannot be reopened leaves the definition as it was. -/
  missing : ∀ state clauses, (d.declare (.reopen state clauses)).2 = .missing →
    (d.declare (.reopen state clauses)).1 = d
  /-- A clause on its own is refused exactly if it permits a trigger of the state once more,
  whatever the destination or the guard. -/
  stopped_iff : ∀ node ∈ d.nodes, ∀ clause e k,
    (d.declare (.reopen node.state [clause])).2 = .stopped e k ↔
      k = 0 ∧ ∃ a, clause.arrow? node.state = some a ∧ a.trigger ∈ node.triggers ∧
        e = .duplicateTrigger node.state a.trigger
  /-- A clause that is refused leaves the definition as it was. -/
  unmoved : ∀ state clause e k, (d.declare (.reopen state [clause])).2 = .stopped e k →
    (d.declare (.reopen state [clause])).1 = d
  /-- A list of clauses stops at the first one that is refused. The clauses before it have been
  added, and it changes nothing. -/
  stopped : ∀ state clauses e k, (d.declare (.reopen state clauses)).2 = .stopped e k →
    ∃ before clause after position, clauses = before ++ clause :: after ∧ before.length = k ∧
      d.declare (.reopen state before) =
        ((d.declare (.reopen state clauses)).1, .state position state k) ∧
      (d.declare (.reopen state clauses)).1.declare (.reopen state [clause]) =
        ((d.declare (.reopen state clauses)).1, .stopped e 0)
  /-- Clauses are answered one after the other: those that follow others which were all added are
  answered as if they were declared after these, and counted from there. -/
  appended : ∀ state clauses more left position count,
    d.declare (.reopen state clauses) = (left, .state position state count) →
      d.declare (.reopen state (clauses ++ more)) =
        ((left.declare (.reopen state more)).1,
          (left.declare (.reopen state more)).2.after count)
  /-- A list of clauses is added as a whole, and counted, exactly if no trigger of the state stands
  twice afterwards. -/
  added_iff : ∀ node ∈ d.nodes, ∀ clauses position state count,
    (d.declare (.reopen node.state clauses)).2 = .state position state count ↔
      (node.triggersWith clauses).Nodup ∧ d.position? node.state = some position ∧
        state = node.state ∧ count = clauses.length
  /-- A list of clauses stops exactly at the first one that permits a trigger once more, be it one
  of the state or one that an earlier clause of the list has permitted. -/
  repeated_iff : ∀ node ∈ d.nodes, ∀ clauses e k,
    (d.declare (.reopen node.state clauses)).2 = .stopped e k ↔
      ∃ before clause after trigger, clauses = before ++ clause :: after ∧ k = before.length ∧
        (node.triggersWith before).Nodup ∧ clause.trigger? = some trigger ∧
        trigger ∈ node.triggersWith before ∧ e = .duplicateTrigger node.state trigger
  /-- Clauses that are all added extend their state one after the other. The arrows that they permit
  come after those of the state, and after those of the graph; nothing else changes. -/
  added : ∀ node ∈ d.nodes, ∀ clauses position state count,
    (d.declare (.reopen node.state clauses)).2 = .state position state count →
      ∃ node', clauses.foldlM Node.extend node = .ok node' ∧
        node'.arrows = node.arrows ++ clauses.filterMap (Clause.arrow? node.state) ∧
        (d.declare (.reopen node.state clauses)).1 = { d.replace position node' with
          graph := { d.graph with
            arrows := d.graph.arrows ++ clauses.filterMap (Clause.arrow? node.state) } }
  /-- A side effect is never refused. -/
  effect : ∀ filter label callback,
    (d.declare (.effect filter label callback)).2 = .effect (d.effects.length + 1)

theorem position?_addState (d : Definition π ν) (state : State) (caption : Caption) :
    (d.addState state caption).position? state = some d.length := by
  rw [position?, addState, Index.find?_insert, if_pos rfl, length]

theorem declare_reopen_eq (clauses : List (Clause π ν))
    (found : d.position? state = some position) :
    d.declare (.reopen state clauses) = addClauses state position 0 d clauses := by
  rw [declare, found]

theorem contains_eq_false_iff : d.contains state = false ↔ d.position? state = none := by
  simp [contains, Index.contains, position?]

theorem declare_configure_reply (new : d.contains state = false) (caption : Caption)
    (clauses : List (Clause π ν)) :
    (d.declare (.configure state caption clauses)).2 = .state d.length state clauses.length ∨
      ∃ e k, (d.declare (.configure state caption clauses)).2 = .stopped e k := by
  have inside : d.length < (d.addState state caption).nodes.length := by simp [addState, length]
  have reply := addClauses_reply inside state 0 clauses
  rw [Nat.zero_add] at reply
  rw [declare, if_neg (Bool.eq_false_iff.1 new)]
  exact reply

theorem declare_configure_eq_refused_iff {caption : Caption} {clauses : List (Clause π ν)}
    {e : ConfigurationError} :
    (d.declare (.configure state caption clauses)).2 = .refused e ↔
      d.contains state = true ∧ e = .duplicateState state := by
  cases held : d.contains state with
  | true => simp [declare, held, eq_comm]
  | false => rcases declare_configure_reply held caption clauses with h | ⟨_, _, h⟩ <;> simp [h]

theorem declare_configure_ne_missing {caption : Caption} {clauses : List (Clause π ν)} :
    (d.declare (.configure state caption clauses)).2 ≠ .missing := by
  cases held : d.contains state with
  | true => simp [declare, held]
  | false => rcases declare_configure_reply held caption clauses with h | ⟨_, _, h⟩ <;> simp [h]

/-- What follows clauses that were all added is declared to the definition that they leave. -/
theorem declare_reopen_append {clauses : List (Clause π ν)} {place count : Nat} {state' : State}
    (all : d.declare (.reopen state clauses) = (d', .state place state' count))
    (more : List (Clause π ν)) :
    d.declare (.reopen state (clauses ++ more)) =
      ((d'.declare (.reopen state more)).1, (d'.declare (.reopen state more)).2.after count) := by
  cases found : d.position? state with
  | none => simp [declare, found] at all
  | some position =>
    rw [declare_reopen_eq clauses found] at all
    have kept : (addClauses state position 0 d clauses).1.position? state = some position := by
      rw [position?, index_addClauses]
      exact found
    have found' : d'.position? state = some position := by rwa [all] at kept
    rw [declare_reopen_eq _ found, addClauses_append (congrArg Prod.snd all), all,
      declare_reopen_eq more found']
    exact addClauses_eq_after state position count 0 d' more

/-- The clause that stops a list is refused again on its own, by the definition that is left. -/
theorem declare_eq_stopped {clauses : List (Clause π ν)} {e : ConfigurationError} {k : Nat}
    (h : (d.declare (.reopen state clauses)).2 = .stopped e k) :
    ∃ before clause after position, clauses = before ++ clause :: after ∧ before.length = k ∧
      d.declare (.reopen state before) =
        ((d.declare (.reopen state clauses)).1, .state position state k) ∧
      (d.declare (.reopen state clauses)).1.declare (.reopen state [clause]) =
        ((d.declare (.reopen state clauses)).1, .stopped e 0) := by
  cases found : d.position? state with
  | none => simp [declare, found] at h
  | some position =>
    rw [declare_reopen_eq clauses found] at h ⊢
    obtain ⟨before, clause, after, node, split, hk, kept, stands, refused⟩ := addClauses_stopped h
    refine ⟨before, clause, after, position, split, by omega, ?_, ?_⟩
    · rw [declare_reopen_eq before found, kept]
    · have found' : (addClauses state position 0 d clauses).1.position? state = some position := by
        rw [position?, index_addClauses]
        exact found
      rw [declare_reopen_eq [clause] found', addClauses, stands]
      simp only [(addClause_eq_error_iff _ _).2 refused]

theorem declare_clause_eq_self {clause : Clause π ν} {e : ConfigurationError} {k : Nat}
    (h : (d.declare (.reopen state [clause])).2 = .stopped e k) :
    (d.declare (.reopen state [clause])).1 = d := by
  obtain ⟨before, _, after, position, split, -, kept, -⟩ := declare_eq_stopped h
  obtain rfl : before = [] := by
    cases before with
    | nil => rfl
    | cons => simp at split
  have nothing : (d.declare (.reopen state [])).1 = d := by
    rw [declare]
    split <;> rfl
  exact (congrArg Prod.fst kept).symm.trans nothing

section Sound

variable (sound : d.Sound)
include sound

theorem bounded : d.Bounded where
  nodes state position found := by
    have inside := sound.index.lt_length found
    rwa [states, List.length_map] at inside
  edges node mem trigger position found := by
    have inside := Index.Locates.lt_length (sound.nodes node mem) found
    rwa [Node.triggers, List.length_map] at inside

theorem exists_position {node : Node π ν} (mem : node ∈ d.nodes) :
    ∃ position, d.position? node.state = some position ∧ d.nodes[position]? = some node := by
  obtain ⟨position, stands⟩ := List.mem_iff_getElem?.1 mem
  refine ⟨position, (sound.index _ _).2 ?_, stands⟩
  rw [states, List.getElem?_map, stands, Option.map_some]

theorem declare_reopen_eq_missing_iff {clauses : List (Clause π ν)} :
    (d.declare (.reopen state clauses)).2 = .missing ↔ d.contains state = false := by
  rw [contains_eq_false_iff]
  cases found : d.position? state with
  | none => simp [declare, found]
  | some position =>
    rw [declare_reopen_eq clauses found]
    rcases addClauses_reply ((bounded sound).nodes _ _ found) state 0 clauses with
      h | ⟨e, k, h⟩ <;>
    simp [h]

theorem declare_clause_eq_stopped_iff {node : Node π ν} (mem : node ∈ d.nodes)
    {clause : Clause π ν} {e : ConfigurationError} {k : Nat} :
    (d.declare (.reopen node.state [clause])).2 = .stopped e k ↔
      k = 0 ∧ ∃ a, clause.arrow? node.state = some a ∧ a.trigger ∈ node.triggers ∧
        e = .duplicateTrigger node.state a.trigger := by
  obtain ⟨position, found, stands⟩ := exists_position sound mem
  have located (trigger : Trigger) : trigger ∈ node.triggers ↔ node.index.contains trigger = true :=
    (Index.Locates.contains_iff (sound.nodes node mem)).symm
  simp only [located, ← Node.extend_eq_error_iff, ← addClause_eq_error_iff d position]
  rw [declare_reopen_eq _ found, addClauses, stands]
  cases h : d.addClause position node clause with
  | error e' => simp [h, eq_comm, and_comm]
  | ok d' => simp [h, addClauses]

theorem declare_reopen_eq_state_iff {node : Node π ν} (mem : node ∈ d.nodes)
    {clauses : List (Clause π ν)} {count : Nat} :
    (d.declare (.reopen node.state clauses)).2 = .state position state count ↔
      (node.triggersWith clauses).Nodup ∧ d.position? node.state = some position ∧
        state = node.state ∧ count = clauses.length := by
  obtain ⟨place, found, stands⟩ := exists_position sound mem
  rw [declare_reopen_eq clauses found, addClauses_eq_state_iff stands (sound.nodes node mem), found,
    Nat.zero_add, Option.some.injEq, eq_comm (a := place)]

theorem declare_reopen_eq_stopped_iff {node : Node π ν} (mem : node ∈ d.nodes)
    {clauses : List (Clause π ν)} {e : ConfigurationError} {k : Nat} :
    (d.declare (.reopen node.state clauses)).2 = .stopped e k ↔
      ∃ before clause after trigger, clauses = before ++ clause :: after ∧ k = before.length ∧
        (node.triggersWith before).Nodup ∧ clause.trigger? = some trigger ∧
        trigger ∈ node.triggersWith before ∧ e = .duplicateTrigger node.state trigger := by
  obtain ⟨place, found, stands⟩ := exists_position sound mem
  rw [declare_reopen_eq clauses found, addClauses_eq_stopped_iff stands (sound.nodes node mem)]
  simp only [Nat.zero_add]

theorem fst_declare_reopen {node : Node π ν} (mem : node ∈ d.nodes) {clauses : List (Clause π ν)}
    {count : Nat} (all : (d.declare (.reopen node.state clauses)).2 = .state position state count) :
    ∃ node', clauses.foldlM Node.extend node = .ok node' ∧
      node'.arrows = node.arrows ++ clauses.filterMap (Clause.arrow? node.state) ∧
      (d.declare (.reopen node.state clauses)).1 = { d.replace position node' with
        graph := { d.graph with
          arrows := d.graph.arrows ++ clauses.filterMap (Clause.arrow? node.state) } } := by
  obtain ⟨place, found, stands⟩ := exists_position sound mem
  obtain ⟨-, found', -⟩ := (declare_reopen_eq_state_iff sound mem).1 all
  obtain rfl := Option.some.inj (found.symm.trans found')
  rw [declare_reopen_eq clauses found] at all ⊢
  obtain ⟨node', folded, left⟩ := fst_addClauses stands all
  exact ⟨node', folded, Node.arrows_foldlM folded, left⟩

theorem replies : d.Replies where
  refused_iff _ _ _ _ := declare_configure_eq_refused_iff
  refused state caption clauses e h := by
    rw [declare, if_pos (declare_configure_eq_refused_iff.1 h).1]
  configured state caption clauses new := by
    rw [declare, if_neg (by simp [new]), declare_reopen_eq _ (position?_addState d state caption)]
  opened _ _ _ := declare_configure_ne_missing
  missing_iff _ _ := declare_reopen_eq_missing_iff sound
  missing state clauses h := by
    have found := contains_eq_false_iff.1 ((declare_reopen_eq_missing_iff sound).1 h)
    rw [declare, found]
  stopped_iff _ mem _ _ _ := declare_clause_eq_stopped_iff sound mem
  unmoved _ _ _ _ := declare_clause_eq_self
  stopped _ _ _ _ := declare_eq_stopped
  appended _ _ more _ _ _ all := declare_reopen_append all more
  added_iff _ mem _ _ _ _ := declare_reopen_eq_state_iff sound mem
  repeated_iff _ mem _ _ _ := declare_reopen_eq_stopped_iff sound mem
  added _ mem _ _ _ _ := fst_declare_reopen sound mem
  effect _ _ _ := by simp [declare, addEffect, Bus.push, Bus.length]

end Sound

/-- Whatever is declared, the parts of the definition agree, no name stands twice, every position
that an index finds lies inside its list, and exactly the declarations are refused that repeat a
name; these change nothing. -/
theorem build_represented (declarations : List (Declaration π ν)) :
    (build declarations).Sound ∧ (build declarations).states.Nodup ∧
      (∀ node ∈ (build declarations).nodes, node.triggers.Nodup) ∧
      (build declarations).Bounded ∧ (build declarations).Replies :=
  have sound := sound_build declarations
  ⟨sound, sound.index.nodup, fun node mem => Index.Locates.nodup (sound.nodes node mem),
    bounded sound, replies sound⟩

end Definition

end StateMachine
