import StateMachine.Soundness

/-!
# Demands on callbacks

Many results ask something of all callbacks. If the callbacks of every declaration meet a demand,
then so do the callbacks of the definition that the declarations leave.

* `Demand`: what is demanded of guards and operations, of error handlers and of side effects.
* `Definition.Meets`, `Declaration.Meets`, and the same for their parts.
* `Node.Meets.extend`, `Definition.Meets.declare`, `Definition.meets_build`: declarations that meet
  a demand leave a definition that does.
-/

namespace StateMachine

variable {π ν : Type}

/-- What is demanded of callbacks, by their kind. -/
structure Demand (π ν : Type) where
  /-- Of guards and of operations. -/
  step : (π → Context → Code π ν) → Prop
  /-- Of error handlers. -/
  handler : (π → Context → ChainError → Code π ν) → Prop
  /-- Of side effects. -/
  effect : (Phase → π → Context → Nat → Code π ν) → Prop

/-- The demand that all code has a property. -/
def Demand.each (p : Code π ν → Prop) : Demand π ν where
  step code := ∀ payload ctx, p (code payload ctx)
  handler code := ∀ payload ctx cause, p (code payload ctx cause)
  effect code := ∀ phase payload ctx elapsed, p (code phase payload ctx elapsed)

section Meets

variable (demand : Demand π ν)

/-- Whether the predicate of a guard meets a demand. -/
def Guard.Meets : Guard π ν → Prop
  | .triggerIs _ => True
  | .predicate _ code => demand.step code

/-- Whether the guard and the operation of a step meet a demand. -/
structure Step.Meets (step : Step π ν) : Prop where
  guard : ∀ g, step.guard = some g → g.Meets demand
  operation : demand.step step.operation

/-- Whether all steps of a chain meet a demand. -/
def Chain.Meets (chain : Chain π ν) : Prop := ∀ step ∈ chain.steps, step.Meets demand

/-- Whether all handlers meet a demand. -/
def Recovery.Meets (recovery : Recovery π ν) : Prop :=
  ∀ handler ∈ recovery.handlers, demand.handler handler.operation

/-- Whether all callbacks of a state meet a demand. -/
structure Node.Meets (node : Node π ν) : Prop where
  guards : ∀ edge ∈ node.edges, ∀ g, edge.guard = some g → g.Meets demand
  exit : node.exit.Meets demand
  entry : node.entry.Meets demand
  recovery : node.recovery.Meets demand

/-- Whether all callbacks of a definition meet a demand. -/
structure Definition.Meets (d : Definition π ν) : Prop where
  nodes : ∀ node ∈ d.nodes, node.Meets demand
  effects : ∀ effect ∈ d.effects.effects, demand.effect effect.callback

/-- Whether the callback of a clause meets a demand. -/
def Clause.Meets : Clause π ν → Prop
  | onEntry _ _ operation => demand.step operation
  | onExit _ _ operation => demand.step operation
  | onError _ operation => demand.handler operation
  | permit _ _ guard => ∀ g, guard = some g → g.Meets demand
  | permitIf _ _ code => demand.step code

/-- Whether the callbacks of a declaration meet a demand. -/
def Declaration.Meets : Declaration π ν → Prop
  | configure _ _ clauses => ∀ clause ∈ clauses, clause.Meets demand
  | reopen _ clauses => ∀ clause ∈ clauses, clause.Meets demand
  | effect _ _ callback => demand.effect callback

end Meets

variable {demand : Demand π ν}

/-! ## Clauses -/

theorem Chain.Meets.push {chain : Chain π ν} (meets : chain.Meets demand) {step : Step π ν}
    (last : step.Meets demand) : (chain.push step).Meets demand := by
  intro s hs
  rcases List.mem_append.1 hs with hs | hs
  · exact meets s hs
  · exact List.mem_singleton.1 hs ▸ last

theorem Recovery.Meets.push {recovery : Recovery π ν} (meets : recovery.Meets demand)
    {handler : Handler π ν} (last : demand.handler handler.operation) :
    (recovery.push handler).Meets demand := by
  intro h hh
  rcases List.mem_append.1 hh with hh | hh
  · exact meets h hh
  · exact List.mem_singleton.1 hh ▸ last

namespace Node

variable {node node' : Node π ν} {clause : Clause π ν}

theorem meets_bare (state : State) (caption : Caption) :
    (bare state caption : Node π ν).Meets demand where
  guards _ h := nomatch h
  exit _ h := nomatch h
  entry _ h := nomatch h
  recovery _ h := nomatch h

theorem meets_step (kind : String) (position : Nat) (trigger : Option Trigger)
    (label : Option String) {operation : π → Context → Code π ν}
    (meets : demand.step operation) :
    (node.step kind position trigger label operation).Meets demand := by
  refine ⟨fun g hg => ?_, meets⟩
  obtain ⟨t, -, rfl⟩ := Option.map_eq_some_iff.1 hg
  trivial

theorem Meets.permit (meets : node.Meets demand) {edge : Edge π ν}
    (guard : ∀ g, edge.guard = some g → g.Meets demand) (h : node.permit edge = .ok node') :
    node'.Meets demand := by
  obtain ⟨-, rfl⟩ := permit_eq_ok h
  refine ⟨fun e he => ?_, meets.exit, meets.entry, meets.recovery⟩
  rcases List.mem_append.1 he with he | he
  · exact meets.guards e he
  · exact List.mem_singleton.1 he ▸ guard

/-- What a clause adds to a state meets the demand that the clause meets. -/
theorem Meets.extend (meets : node.Meets demand) (more : clause.Meets demand)
    (h : node.extend clause = .ok node') : node'.Meets demand := by
  cases clause with
  | onEntry trigger label operation =>
    obtain rfl := Except.ok.inj h
    exact { meets with entry := meets.entry.push (meets_step _ _ _ _ more) }
  | onExit trigger label operation =>
    obtain rfl := Except.ok.inj h
    exact { meets with exit := meets.exit.push (meets_step _ _ _ _ more) }
  | onError label operation =>
    obtain rfl := Except.ok.inj h
    exact { meets with recovery := meets.recovery.push more }
  | permit trigger destination guard =>
    refine meets.permit ?_ h
    exact more
  | permitIf trigger destination code =>
    refine meets.permit (fun g hg => ?_) h
    obtain rfl := Option.some.inj hg
    exact more

end Node

/-! ## Declarations -/

namespace Definition

variable {d : Definition π ν}

theorem meets_empty : (empty : Definition π ν).Meets demand where
  nodes _ h := nomatch h
  effects _ h := nomatch h

theorem Meets.addClauses (meets : d.Meets demand) (state : State) (position added : Nat)
    {clauses : List (Clause π ν)} (more : ∀ clause ∈ clauses, clause.Meets demand) :
    (addClauses state position added d clauses).1.Meets demand := by
  induction clauses generalizing d added with
  | nil => exact meets
  | cons clause rest ih =>
    obtain ⟨first, others⟩ := List.forall_mem_cons.1 more
    rw [Definition.addClauses]
    split
    · exact meets
    · next node stands =>
      split
      · exact meets
      · next d' hd =>
        obtain ⟨extended, hext, same⟩ := addClause_eq_ok hd
        have meets' : d'.Meets demand := by
          subst same
          refine ⟨fun n hn => ?_, meets.effects⟩
          rcases List.mem_or_eq_of_mem_set hn with hn | rfl
          · exact meets.nodes n hn
          · exact (meets.nodes node (List.mem_of_getElem? stands)).extend first hext
        exact ih meets' (added + 1) others

/-- A declaration that meets a demand leaves a definition that does. -/
theorem Meets.declare (meets : d.Meets demand) {x : Declaration π ν} (more : x.Meets demand) :
    (d.declare x).1.Meets demand := by
  cases x with
  | configure state caption clauses =>
    rw [Definition.declare]
    split
    · exact meets
    · have opened : (d.addState state caption).Meets demand := by
        refine ⟨fun n hn => ?_, meets.effects⟩
        rcases List.mem_append.1 hn with hn | hn
        · exact meets.nodes n hn
        · exact List.mem_singleton.1 hn ▸ Node.meets_bare state caption
      exact opened.addClauses _ _ _ more
  | reopen state clauses =>
    rw [Definition.declare]
    split
    · exact meets
    · exact meets.addClauses _ _ _ more
  | effect filter label callback =>
    refine ⟨meets.nodes, fun effect he => ?_⟩
    rcases List.mem_append.1 he with he | he
    · exact meets.effects effect he
    · exact List.mem_singleton.1 he ▸ more

/-- Declarations that meet a demand leave a definition that does. -/
theorem meets_build {declarations : List (Declaration π ν)}
    (meets : ∀ x ∈ declarations, x.Meets demand) : (build declarations).Meets demand := by
  suffices ∀ d : Definition π ν, d.Meets demand →
      (declarations.foldl (fun d declaration => (d.declare declaration).1) d).Meets demand from
    this empty meets_empty
  induction declarations with
  | nil => exact fun d h => h
  | cons x rest ih =>
    obtain ⟨first, others⟩ := List.forall_mem_cons.1 meets
    exact fun d h => ih others _ (h.declare first)

end Definition

end StateMachine
