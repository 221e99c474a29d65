import StateMachine.Proofs.Extension

/-!
# Reopened states

A state may be reopened to add to it. Adding clauses in two declarations is adding them in one. If
the second one only adds callbacks, then it does not even matter what was declared in between, as
long as these were no callbacks of the same state.

* `Definition.declare_replace`: a declaration does not look at the nodes of other states, and
  leaves them where they are.
* `Definition.addClauses_callbacks`, `Definition.addClauses_permits`: callbacks change the node of
  their state, and nothing else; what is permitted in the same state does not notice them.
* `Definition.reopen_comm`: so callbacks may be declared before or after other things.
* `Definition.extend_reopen`, `Definition.extend_reopen_later`: a state that is reopened is declared
  at once.
-/

namespace StateMachine

variable {π ν : Type}

/-- A declaration for a state with further clauses at its end. -/
def Declaration.append : Declaration π ν → List (Clause π ν) → Declaration π ν
  | configure state caption clauses, more => configure state caption (clauses ++ more)
  | reopen state clauses, more => reopen state (clauses ++ more)
  | declaration, _ => declaration

/-- Whether a declaration adds no callback to a state: it is for another one, or it only permits
triggers. -/
def Declaration.SparesCallbacks (state : State) (x : Declaration π ν) : Prop :=
  x.address = some state → ∀ clause ∈ x.clauses, clause.part = .edges

namespace Definition

variable {d : Definition π ν} {state other : State} {position place : Nat} {node : Node π ν}

/-! ## Clauses in two portions -/

theorem eq_of_addClauses {added place' count : Nat} {state' : State} {clauses : List (Clause π ν)}
    (all : (addClauses state position added d clauses).2 = .state place' state' count) :
    place' = position ∧ state' = state := by
  induction clauses generalizing d added with
  | nil =>
    obtain ⟨rfl, rfl, -⟩ := Declared.state.inj all
    exact ⟨rfl, rfl⟩
  | cons clause rest ih =>
    rw [addClauses] at all
    split at all
    · cases all
    · split at all
      · cases all
      · exact ih all

/-- A declaration all of whose clauses are added adds them to the state where it stands, and would
add further ones to it as well. -/
theorem declare_eq_state {x : Declaration π ν} {count : Nat}
    (all : (d.declare x).2 = .state position state count) :
    ∃ d₀ clauses, d₀.position? state = some position ∧
      d.declare x = addClauses state position 0 d₀ clauses ∧
      ∀ more, d.declare (x.append more) = addClauses state position 0 d₀ (clauses ++ more) := by
  cases x with
  | configure s caption clauses =>
    by_cases held : d.contains s = true
    · rw [declare, if_pos held] at all
      cases all
    · rw [declare, if_neg held] at all
      obtain ⟨rfl, rfl⟩ := eq_of_addClauses all
      refine ⟨_, clauses, d.position?_addState state caption, ?_, fun more => ?_⟩
      · rw [declare, if_neg held]
      · rw [Declaration.append, declare, if_neg held]
  | reopen s clauses =>
    cases found : d.position? s with
    | none =>
      rw [declare, found] at all
      cases all
    | some place =>
      rw [declare_reopen_eq clauses found] at all
      obtain ⟨rfl, rfl⟩ := eq_of_addClauses all
      exact ⟨d, clauses, found, declare_reopen_eq _ found, fun more => declare_reopen_eq _ found⟩
  | effect filter label callback => cases all

theorem position?_of_declare {x : Declaration π ν} {count : Nat}
    (all : (d.declare x).2 = .state position state count) :
    (d.declare x).1.position? state = some position := by
  obtain ⟨d₀, clauses, found, here, -⟩ := declare_eq_state all
  rw [here, position?, index_addClauses]
  exact found

/-- A state that is reopened right after it was declared is declared at once, whatever the clauses
are. Only if a clause was refused before, this is not so: then the clauses after it are left out. -/
theorem extend_reopen {x : Declaration π ν} {count : Nat}
    (all : (d.declare x).2 = .state position state count) (more : List (Clause π ν)) :
    d.extend [x, .reopen state more] = d.extend [x.append more] := by
  show ((d.declare x).1.declare (.reopen state more)).1 = (d.declare (x.append more)).1
  obtain ⟨d₀, clauses, -, here, further⟩ := declare_eq_state all
  rw [declare_reopen_eq more (position?_of_declare all), further]
  rw [here] at all ⊢
  rw [addClauses_append all]
  exact (congrArg Prod.fst (addClauses_eq_after state position count 0 _ more)).symm

/-! ## Declarations for others -/

theorem addClause_replace {q : Nat} (apart : position ≠ q) (n : Node π ν) (clause : Clause π ν) :
    (d.replace position n).addClause q node clause =
      (d.addClause q node clause).map fun d' => d'.replace position n := by
  unfold addClause
  cases node.extend clause with
  | error e => rfl
  | ok extended => simp [Except.map, replace, List.set_comm _ _ apart]

theorem addClauses_replace {q : Nat} (apart : position ≠ q) (n : Node π ν) (added : Nat)
    (clauses : List (Clause π ν)) :
    addClauses other q added (d.replace position n) clauses =
      ((addClauses other q added d clauses).1.replace position n,
        (addClauses other q added d clauses).2) := by
  induction clauses generalizing d added with
  | nil => rfl
  | cons clause rest ih =>
    have same : (d.replace position n).nodes[q]? = d.nodes[q]? := List.getElem?_set_ne apart
    rw [addClauses, addClauses, same]
    cases stands : d.nodes[q]? with
    | none => rfl
    | some node =>
      simp only [addClause_replace apart]
      cases hd : d.addClause q node clause with
      | error e => rfl
      | ok d' => exact ih _

/-- A declaration does not look at the nodes of other states, and leaves them where they are. -/
theorem declare_replace (sound : d.Sound) (found : d.position? state = some position)
    {x : Declaration π ν} (apart : x.address ≠ some state) (n : Node π ν) :
    (d.replace position n).declare x =
      ((d.declare x).1.replace position n, (d.declare x).2) := by
  have inside : position < d.nodes.length := by
    simpa [states] using sound.index.lt_length found
  cases x with
  | configure s caption clauses =>
    have held : (d.replace position n).contains s = d.contains s := rfl
    rw [declare, declare, held]
    split
    · rfl
    · have length : (d.replace position n).length = d.length := by simp [length, replace]
      have added : (d.replace position n).addState s caption =
          (d.addState s caption).replace position n := by
        simp [addState, replace, List.set_append_left _ _ inside]
      rw [length, added]
      exact addClauses_replace (Nat.ne_of_lt inside) n 0 clauses
  | reopen s clauses =>
    have place : (d.replace position n).position? s = d.position? s := rfl
    rw [declare, declare, place]
    cases found' : d.position? s with
    | none => rfl
    | some q =>
      refine addClauses_replace ?_ n 0 clauses
      rintro rfl
      have first := (sound.index _ _).1 found
      have second := (sound.index _ _).1 found'
      exact apart (congrArg some (Option.some.inj (second.symm.trans first)))
  | effect filter label callback => rfl

theorem position?_declare (found : d.position? state = some position) (x : Declaration π ν) :
    (d.declare x).1.position? state = some position := by
  cases x with
  | configure s caption clauses =>
    rw [declare]
    split
    · exact found
    · next new =>
      have none := contains_eq_false_iff.1 (Bool.eq_false_iff.2 new)
      have other : state ≠ s := by
        rintro rfl
        cases found.symm.trans none
      rw [position?, index_addClauses, addState, Index.find?_insert, if_neg other]
      exact found
  | reopen s clauses =>
    rw [declare]
    split
    · exact found
    · rw [position?, index_addClauses]
      exact found
  | effect filter label callback => exact found

end Definition

/-! ## Callbacks and permits -/

/-- What a clause leaves of a state, whether it is refused or not. -/
def Node.add (node : Node π ν) (clause : Clause π ν) : Node π ν :=
  match node.extend clause with
  | .ok extended => extended
  | .error _ => node

theorem Node.extend_callback (node : Node π ν) {clause : Clause π ν}
    (callback : clause.part ≠ .edges) :
    node.extend clause = .ok (node.add clause) ∧ clause.arrow? node.state = none := by
  cases clause with
  | permit => exact absurd rfl callback
  | permitIf => exact absurd rfl callback
  | _ => exact ⟨rfl, rfl⟩

theorem Node.extend_add {node : Node π ν} {callback clause : Clause π ν}
    (hcallback : callback.part ≠ .edges) (hclause : clause.part = .edges) :
    (node.add callback).extend clause = (node.extend clause).map fun n => n.add callback := by
  have permitted (edge : Edge π ν) :
      (node.add callback).permit edge = (node.permit edge).map fun n => n.add callback := by
    cases callback with
    | permit => exact absurd rfl hcallback
    | permitIf => exact absurd rfl hcallback
    | _ =>
      by_cases held : node.index.contains edge.trigger = true
      · simp [permit, add, extend, held, Except.map]
      · simp only [permit, add, extend, held, Except.map]
        rfl
  have same : (node.add callback).state = node.state :=
    state_extend (extend_callback node hcallback).1
  cases clause with
  | permit trigger destination guard => exact permitted _
  | permitIf trigger destination code =>
    rw [extend, same]
    exact permitted _
  | _ => cases hclause

theorem Node.state_foldl_add {callbacks : List (Clause π ν)}
    (only : ∀ clause ∈ callbacks, clause.part ≠ .edges) (node : Node π ν) :
    (callbacks.foldl Node.add node).state = node.state := by
  induction callbacks generalizing node with
  | nil => rfl
  | cons callback rest ih =>
    obtain ⟨first, others⟩ := List.forall_mem_cons.1 only
    exact (ih others _).trans (state_extend (extend_callback node first).1)

theorem Node.extend_foldl_add {callbacks : List (Clause π ν)} {clause : Clause π ν}
    (only : ∀ clause ∈ callbacks, clause.part ≠ .edges) (hclause : clause.part = .edges)
    (node : Node π ν) : (callbacks.foldl Node.add node).extend clause =
      (node.extend clause).map (callbacks.foldl Node.add) := by
  induction callbacks generalizing node with
  | nil => cases h : node.extend clause <;> simp [h, Except.map]
  | cons callback rest ih =>
    obtain ⟨first, others⟩ := List.forall_mem_cons.1 only
    rw [List.foldl_cons, ih others, extend_add first hclause]
    cases node.extend clause <;> rfl

namespace Definition

variable {d : Definition π ν} {state : State} {position : Nat} {node : Node π ν}

/-- Callbacks are added to the node of their state, and change nothing else. -/
theorem addClauses_callbacks (stands : d.nodes[position]? = some node) (added : Nat)
    {callbacks : List (Clause π ν)} (only : ∀ clause ∈ callbacks, clause.part ≠ .edges) :
    (addClauses state position added d callbacks).1 =
      d.replace position (callbacks.foldl Node.add node) := by
  induction callbacks generalizing d node added with
  | nil =>
    obtain ⟨inside, rfl⟩ := List.getElem?_eq_some_iff.1 stands
    simp [addClauses, replace]
  | cons clause rest ih =>
    obtain ⟨first, others⟩ := List.forall_mem_cons.1 only
    obtain ⟨extended, arrow⟩ := Node.extend_callback node first
    have added' : d.addClause position node clause = .ok (d.replace position (node.add clause)) := by
      simp [addClause, extended, arrow, replace]
    have stands' : (d.replace position (node.add clause)).nodes[position]? =
        some (node.add clause) :=
      List.getElem?_set_self (List.getElem?_eq_some_iff.1 stands).1
    rw [addClauses, stands]
    simp only [added']
    rw [ih stands' _ others]
    simp [replace]

section Callbacks

variable {callbacks : List (Clause π ν)} (only : ∀ clause ∈ callbacks, clause.part ≠ .edges)

include only

theorem addClause_permit {d' : Definition π ν} (stands : d.nodes[position]? = some node)
    {clause : Clause π ν} (hclause : clause.part = .edges)
    (hd : d.addClause position node clause = .ok d') :
    ∃ extended, d'.nodes[position]? = some extended ∧
      (d.replace position (callbacks.foldl Node.add node)).addClause position
          (callbacks.foldl Node.add node) clause =
        .ok (d'.replace position (callbacks.foldl Node.add extended)) := by
  obtain ⟨extended, hext, rfl⟩ := addClause_eq_ok hd
  have alike : (callbacks.foldl Node.add node).extend clause =
      .ok (callbacks.foldl Node.add extended) := by
    rw [Node.extend_foldl_add only hclause, hext]
    rfl
  refine ⟨extended, List.getElem?_set_self (List.getElem?_eq_some_iff.1 stands).1, ?_⟩
  simp [addClause, alike, replace, Node.state_foldl_add only]

/-- Permits do not notice callbacks of their state, and leave them where they are. The induction is
on the permits; each of them leaves a state of its own to which the callbacks would be added. -/
theorem addClauses_permits (stands : d.nodes[position]? = some node) (added : Nat)
    {permits : List (Clause π ν)} (hpermits : ∀ clause ∈ permits, clause.part = .edges) :
    ∃ node', (addClauses state position added d permits).1.nodes[position]? = some node' ∧
      addClauses state position added (d.replace position (callbacks.foldl Node.add node)) permits =
        ((addClauses state position added d permits).1.replace position
            (callbacks.foldl Node.add node'),
          (addClauses state position added d permits).2) := by
  induction permits generalizing d node added with
  | nil => exact ⟨node, stands, rfl⟩
  | cons clause rest ih =>
    obtain ⟨first, others⟩ := List.forall_mem_cons.1 hpermits
    have stands' : (d.replace position (callbacks.foldl Node.add node)).nodes[position]? =
        some (callbacks.foldl Node.add node) :=
      List.getElem?_set_self (List.getElem?_eq_some_iff.1 stands).1
    rw [addClauses, addClauses, stands, stands']
    cases hd : d.addClause position node clause with
    | error e =>
      have alike : (callbacks.foldl Node.add node).extend clause = .error e := by
        rw [Node.extend_foldl_add only first, (addClause_eq_error_iff d position).1 hd]
        rfl
      simp only [hd, (addClause_eq_error_iff _ position).2 alike]
      exact ⟨node, stands, rfl⟩
    | ok d' =>
      obtain ⟨extended, stands₁, alike⟩ := addClause_permit only stands first hd
      simp only [hd, alike]
      exact ih stands₁ (added + 1) others

theorem declare_callbacks (sound : d.Sound) (found : d.position? state = some position)
    (stands : d.nodes[position]? = some node) {x : Declaration π ν}
    (spares : x.SparesCallbacks state) :
    ∃ node', (d.declare x).1.nodes[position]? = some node' ∧
      (d.replace position (callbacks.foldl Node.add node)).declare x =
        ((d.declare x).1.replace position (callbacks.foldl Node.add node'), (d.declare x).2) := by
  by_cases here : x.address = some state
  · have permits := spares here
    cases x with
    | configure s caption clauses =>
      obtain rfl := Option.some.inj here
      have held : d.contains s = true := Option.isSome_iff_exists.2 ⟨position, found⟩
      have held' : (d.replace position (callbacks.foldl Node.add node)).contains s = true := held
      rw [declare, declare, if_pos held, if_pos held']
      exact ⟨node, stands, rfl⟩
    | reopen s clauses =>
      obtain rfl := Option.some.inj here
      have found' : (d.replace position (callbacks.foldl Node.add node)).position? s =
          some position := found
      rw [declare_reopen_eq _ found, declare_reopen_eq _ found']
      exact addClauses_permits only stands 0 permits
    | effect filter label callback => cases here
  · refine ⟨node, ?_, declare_replace sound found here _⟩
    have same := node?_declare_of_ne sound here
    rw [node?_eq_of_position? (position?_declare found x), node?_eq_of_position? found] at same
    exact same.trans stands

/-- Callbacks may be declared before or after what is declared for others, and before or after what
is permitted in their own state. -/
theorem reopen_comm (sound : d.Sound) (found : d.position? state = some position)
    {x : Declaration π ν} (spares : x.SparesCallbacks state) :
    d.extend [x, .reopen state callbacks] = d.extend [.reopen state callbacks, x] := by
  show ((d.declare x).1.declare (.reopen state callbacks)).1 =
    ((d.declare (.reopen state callbacks)).1.declare x).1
  obtain ⟨node, stands, -⟩ := exists_node_of_position? sound found
  obtain ⟨node', stands', alike⟩ := declare_callbacks only sound found stands spares
  rw [declare_reopen_eq _ found, declare_reopen_eq _ (position?_declare found x),
    addClauses_callbacks stands 0 only, addClauses_callbacks stands' 0 only, alike]

theorem extend_reopen_comm (sound : d.Sound) (found : d.position? state = some position)
    {between : List (Declaration π ν)} (spares : ∀ x ∈ between, x.SparesCallbacks state) :
    d.extend (between ++ [.reopen state callbacks]) =
      d.extend (.reopen state callbacks :: between) := by
  induction between generalizing d with
  | nil => rfl
  | cons x rest ih =>
    obtain ⟨first, others⟩ := List.forall_mem_cons.1 spares
    calc d.extend (x :: rest ++ [.reopen state callbacks])
        = (d.declare x).1.extend (rest ++ [.reopen state callbacks]) := rfl
      _ = (d.declare x).1.extend (.reopen state callbacks :: rest) :=
        ih (sound.declare x) (position?_declare found x) others
      _ = (d.extend [x, .reopen state callbacks]).extend rest := rfl
      _ = (d.extend [.reopen state callbacks, x]).extend rest := by
        rw [reopen_comm only sound found first]

/-- A state that is reopened for callbacks is declared at once, whatever was declared in between, if
this were no callbacks of the same state. -/
theorem extend_reopen_later (sound : d.Sound) {x : Declaration π ν} {count : Nat}
    (all : (d.declare x).2 = .state position state count) {between : List (Declaration π ν)}
    (spares : ∀ y ∈ between, y.SparesCallbacks state) :
    d.extend (x :: between ++ [.reopen state callbacks]) =
      d.extend (x.append callbacks :: between) := by
  have comm := extend_reopen_comm only (sound.declare x) (position?_of_declare all) spares
  calc d.extend (x :: between ++ [.reopen state callbacks])
      = (d.declare x).1.extend (between ++ [.reopen state callbacks]) := rfl
    _ = (d.declare x).1.extend (.reopen state callbacks :: between) := comm
    _ = (d.extend [x, .reopen state callbacks]).extend between := rfl
    _ = (d.extend [x.append callbacks]).extend between := by rw [extend_reopen all]

end Callbacks

end Definition

end StateMachine
